import Catalog.Proofs.Entity.Flat
/-!
This module contains what can be found on a chain of layers and in which order it is listed. What is
found under a name is what the nearest layer with this name declares, and the list has no more.
-/

namespace Catalog

namespace Layer

variable {α : Type} {name : α → String} {declared : Layer → List α}

section

variable (name) (declared)

/--
A layer of the chain declares this, and no nearer one declares anything under its name.
-/
def IsNearest (ls : List Layer) (x : α) : Prop :=
  ∃ nearer l farther, ls = nearer ++ l :: farther ∧ x ∈ declared l ∧
    ∀ l' ∈ nearer, name x ∉ (declared l').map name

def unshadowed (nearer : List Layer) (l : Layer) : List α :=
  (declared l).filter fun x => ∀ l' ∈ nearer, name x ∉ (declared l').map name

end

theorem findSome?_eq_some_iff_isNearest (hdeclared : ∀ l, ((declared l).map name).Nodup)
    {ls : List Layer} {n : String} {x : α} :
    ls.findSome? (fun l => (declared l).find? (name · == n)) = some x ↔
      IsNearest name declared ls x ∧ name x = n := by
  rw [List.findSome?_eq_some_iff]
  constructor
  · rintro ⟨nearer, l, farther, hls, hx, hnearer⟩
    obtain ⟨hmem, rfl⟩ := (find?_name_eq_some_iff (hdeclared l)).mp hx
    refine ⟨⟨nearer, l, farther, hls, hmem, ?_⟩, rfl⟩
    intro l' hl'
    exact find?_name_eq_none_iff.mp (hnearer l' hl')
  · rintro ⟨⟨nearer, l, farther, hls, hx, hnearer⟩, rfl⟩
    refine ⟨nearer, l, farther, hls, (find?_name_eq_some_iff (hdeclared l)).mpr ⟨hx, rfl⟩, ?_⟩
    intro l' hl'
    exact find?_name_eq_none_iff.mpr (hnearer l' hl')

theorem findSome?_eq_none_iff_not_mem {ls : List Layer} {n : String} :
    ls.findSome? (fun l => (declared l).find? (name · == n)) = none ↔
      ∀ l ∈ ls, n ∉ (declared l).map name := by
  rw [List.findSome?_eq_none_iff]
  simp only [find?_name_eq_none_iff]

theorem filter_visible (name : α → String) (declared : Layer → List α) (nearer ls : List Layer) :
    (visible name declared ls).filter (fun x => ∀ l ∈ nearer, name x ∉ (declared l).map name) =
      (ls.zipIdx nearer.length).reverse.flatMap fun (l, distance) =>
        unshadowed name declared ((nearer ++ ls).take distance) l := by
  induction ls generalizing nearer with
  | nil => simp [visible]
  | cons l ls ih =>
    -- What this layer hides joins what the nearer ones hide.
    have hinherited : ((visible name declared ls).filter fun x =>
        ((declared l).find? (name · == name x)).isNone).filter
          (fun x => ∀ l' ∈ nearer, name x ∉ (declared l').map name) =
        (visible name declared ls).filter
          fun x => ∀ l' ∈ nearer ++ [l], name x ∉ (declared l').map name := by
      rw [List.filter_filter]
      apply List.filter_congr
      intro x _
      rw [Bool.eq_iff_iff]
      simp only [Bool.and_eq_true, decide_eq_true_eq, Option.isNone_iff_eq_none,
        find?_name_eq_none_iff, List.forall_mem_append, List.forall_mem_singleton]
    have hown : (declared l).filter (fun x => ∀ l' ∈ nearer, name x ∉ (declared l').map name) =
        unshadowed name declared ((nearer ++ l :: ls).take nearer.length) l := by
      rw [List.take_left]
      rfl
    rw [visible, List.filter_append, hinherited, ih, hown, List.zipIdx_cons, List.reverse_cons,
      List.flatMap_append, List.flatMap_singleton, List.length_append, List.length_singleton,
      List.append_assoc, List.singleton_append]

theorem visible_eq_flatMap (ls : List Layer) :
    visible name declared ls = ls.zipIdx.reverse.flatMap fun (l, distance) =>
      unshadowed name declared (ls.take distance) l := by
  simpa using filter_visible name declared [] ls

end Layer

namespace Entity

variable {entity : Entity} {name : String}

theorem findProperty?_eq_some_iff {p : Property} :
    entity.findProperty? name = some p ↔ p ∈ entity.properties ∧ p.name = name := by
  rw [← find?_properties, find?_name_eq_some_iff entity.properties_nodup]

theorem findProperty?_eq_none_iff :
    entity.findProperty? name = none ↔ ∀ p ∈ entity.properties, p.name ≠ name := by
  rw [← find?_properties, List.find?_eq_none]
  simp

theorem findProperty?_eq_some_iff_isNearest {p : Property} :
    entity.findProperty? name = some p ↔
      Layer.IsNearest (·.name) (·.properties) entity.layers p ∧ p.name = name := by
  exact Layer.findSome?_eq_some_iff_isNearest Layer.properties_nodup

theorem findVariable?_eq_some_iff_isNearest {v : Variable} :
    entity.findVariable? name = some v ↔
      Layer.IsNearest (·.name) (·.vars) entity.layers v ∧ v.name = name := by
  exact Layer.findSome?_eq_some_iff_isNearest Layer.vars_nodup

theorem mem_propertiesWithDefault_iff {p : Property} :
    p ∈ entity.propertiesWithDefault ↔
      Layer.IsNearest (·.name) (·.properties) entity.layers p ∧ p.default.isSome := by
  have hlisted : p ∈ entity.properties ↔
      Layer.IsNearest (·.name) (·.properties) entity.layers p := by
    rw [mem_properties_iff, findProperty?_eq_some_iff_isNearest, and_iff_left rfl]
  rw [propertiesWithDefault, List.mem_filter, hlisted]

theorem not_mem_propertiesWithDefault {p : Property}
    (hnearest : Layer.IsNearest (·.name) (·.properties) entity.layers p) (hnone : p.default = none) :
    p.name ∉ entity.propertiesWithDefault.map (·.name) := by
  intro hmem
  obtain ⟨q, hq, hname⟩ := List.mem_map.mp hmem
  obtain ⟨hqnearest, hdefault⟩ := mem_propertiesWithDefault_iff.mp hq
  have hfound := findProperty?_eq_some_iff_isNearest.mpr ⟨hnearest, rfl⟩
  rw [findProperty?_eq_some_iff_isNearest.mpr ⟨hqnearest, hname⟩, Option.some.injEq] at hfound
  rw [hfound, hnone] at hdefault
  simp at hdefault

/--
What is found on a chain and what is listed agree. The list has each name once; it goes from the
farthest layer to the nearest, and leaves out what a nearer layer declares again, with its default.
What is found is what is declared nearest, for variables too.
-/
theorem found_and_listed (entity : Entity) :
    (entity.properties.map (·.name)).Nodup ∧
      (∀ name p, entity.findProperty? name = some p ↔ p ∈ entity.properties ∧ p.name = name) ∧
      (∀ name, entity.findProperty? name = none ↔ ∀ p ∈ entity.properties, p.name ≠ name) ∧
      (∀ name p, entity.findProperty? name = some p ↔
        Layer.IsNearest (·.name) (·.properties) entity.layers p ∧ p.name = name) ∧
      (entity.properties = entity.layers.zipIdx.reverse.flatMap fun (l, distance) =>
        Layer.unshadowed (·.name) (·.properties) (entity.layers.take distance) l) ∧
      (∀ p, p ∈ entity.propertiesWithDefault ↔
        Layer.IsNearest (·.name) (·.properties) entity.layers p ∧ p.default.isSome) ∧
      (∀ p, Layer.IsNearest (·.name) (·.properties) entity.layers p → p.default = none →
        p.name ∉ entity.propertiesWithDefault.map (·.name)) ∧
      (∀ name v, entity.findVariable? name = some v ↔
        Layer.IsNearest (·.name) (·.vars) entity.layers v ∧ v.name = name) ∧
      (∀ name, entity.findVariable? name = none ↔
        ∀ l ∈ entity.layers, name ∉ l.vars.map (·.name)) ∧
      ∀ name : String, name.toLower = "id" ∨ name.toLower = "tag" →
        entity.findProperty? name = none := by
  refine ⟨entity.properties_nodup, ?_, ?_, ?_, ?_, ?_, ?_, ?_, ?_, ?_⟩
  · intro name p
    exact findProperty?_eq_some_iff
  · intro name
    exact findProperty?_eq_none_iff
  · intro name p
    exact findProperty?_eq_some_iff_isNearest
  · unfold properties
    rw [visibleProperties_eq]
    apply Layer.visible_eq_flatMap
  · intro p
    exact mem_propertiesWithDefault_iff
  · intro p hnearest hnone
    exact not_mem_propertiesWithDefault hnearest hnone
  · intro name v
    exact findVariable?_eq_some_iff_isNearest
  · intro name
    exact Layer.findSome?_eq_none_iff_not_mem
  · intro name h
    exact findProperty?_of_toLower h

example : heir.properties.map (·.name) = ["Shape", "Writers", "Heading"] ∧
    heir.propertiesWithDefault.map (·.name) = ["Shape"] := by decide

end Entity
end Catalog
