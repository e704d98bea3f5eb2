import Catalog.Entity.Basic
import Mathlib.Data.List.Nodup
/-!
This module contains the list of what is declared nearest on a chain of layers, for properties and
variables alike. Looking up a name in this list finds what looking it up layer by layer finds.
-/

namespace Catalog

variable {α : Type} {name : α → String}

theorem find?_name_eq_some_iff {xs : List α} (h : (xs.map name).Nodup) {n : String} {x : α} :
    xs.find? (name · == n) = some x ↔ x ∈ xs ∧ name x = n := by
  constructor
  · intro hx
    have hname := List.find?_some hx
    exact ⟨List.mem_of_find?_eq_some hx, by simpa using hname⟩
  · rintro ⟨hx, rfl⟩
    have hfound : (xs.find? (name · == name x)).isSome := by
      rw [List.find?_isSome]
      exact ⟨x, hx, beq_self_eq_true (name x)⟩
    obtain ⟨y, hy⟩ := Option.isSome_iff_exists.mp hfound
    have hname : name y = name x := by
      simpa using List.find?_some hy
    rw [hy, Option.some.injEq]
    apply List.inj_on_of_nodup_map h
    · apply List.mem_of_find?_eq_some hy
    · exact hx
    · exact hname

theorem find?_name_eq_none_iff {xs : List α} {n : String} :
    xs.find? (name · == n) = none ↔ n ∉ xs.map name := by
  simp [List.find?_eq_none]

namespace Layer

variable {declared : Layer → List α}

section

variable (name) (declared)

def visible : List Layer → List α
  | [] => []
  | l :: ls =>
    (visible ls).filter (fun x => ((declared l).find? (name · == name x)).isNone) ++ declared l

end

section

variable (hdeclared : ∀ l, ((declared l).map name).Nodup)
include hdeclared

theorem mem_visible_iff (ls : List Layer) (x : α) :
    x ∈ visible name declared ls ↔
      ls.findSome? (fun l => (declared l).find? (name · == name x)) = some x := by
  induction ls with
  | nil => simp [visible]
  | cons l ls ih =>
    rw [visible, List.mem_append, List.mem_filter, ih, List.findSome?_cons]
    cases hfound : (declared l).find? (name · == name x) with
    | none =>
      have hown : x ∉ declared l := by
        intro hx
        rw [(find?_name_eq_some_iff (hdeclared l)).mpr ⟨hx, rfl⟩] at hfound
        simp at hfound
      simp [hown]
    | some y =>
      rw [find?_name_eq_some_iff (hdeclared l)] at hfound
      simp only [Option.isNone_some, Bool.false_eq_true, and_false, false_or, Option.some.injEq]
      constructor
      · intro hx
        exact List.inj_on_of_nodup_map (hdeclared l) hfound.1 hx hfound.2
      · rintro rfl
        exact hfound.1

theorem visible_nodup (ls : List Layer) : ((visible name declared ls).map name).Nodup := by
  induction ls with
  | nil => simp [visible]
  | cons l ls ih =>
    unfold visible
    rw [List.map_append, List.nodup_append]
    refine ⟨?_, hdeclared l, ?_⟩
    · exact ih.sublist (List.filter_sublist.map _)
    · intro inherited hinherited own hown
      obtain ⟨x, hx, rfl⟩ := List.mem_map.mp hinherited
      obtain ⟨y, hy, rfl⟩ := List.mem_map.mp hown
      -- what is kept from the bases is not found in the layer
      have hx := (List.mem_filter.mp hx).2
      rw [Option.isNone_iff_eq_none, List.find?_eq_none] at hx
      intro heq
      exact hx y hy (by simp [heq])

theorem find?_visible (ls : List Layer) (n : String) :
    (visible name declared ls).find? (name · == n) =
      ls.findSome? fun l => (declared l).find? (name · == n) := by
  apply Option.ext
  intro x
  rw [find?_name_eq_some_iff (visible_nodup hdeclared ls), mem_visible_iff hdeclared]
  constructor
  · rintro ⟨hx, rfl⟩
    exact hx
  · intro hx
    obtain ⟨l, -, hl⟩ := List.exists_of_findSome?_eq_some hx
    obtain rfl : name x = n := ((find?_name_eq_some_iff (hdeclared l)).mp hl).2
    exact ⟨hx, rfl⟩

end

end Layer

namespace Entity

theorem visibleProperties_eq (ls : List Layer) :
    visibleProperties ls = Layer.visible (·.name) (·.properties) ls := by
  induction ls with
  | nil => rfl
  | cons l ls ih =>
    rw [visibleProperties, ih]
    rfl

end Entity
end Catalog
