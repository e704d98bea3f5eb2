import Catalog.Environment
import Catalog.Proofs.Command
import Catalog.Proofs.Entity.Nearest
/-!
This module contains the defaults of an entity in closed form: what records start with before any
command runs, and what they get for the properties that the commands left absent. No two visible
properties have one name, so that the defaults do not get in each other's way.
-/

namespace Catalog

namespace Record

theorem contains_iff (r : Record) (name : String) :
    r.contains name = true ↔ name ∈ r.properties.map (·.1) := by
  unfold contains get?
  induction r.properties with
  | nil => simp
  | cons p ps ih =>
    by_cases h : name = p.1
    · simp [h]
    · rw [List.lookup_cons, beq_eq_false_iff_ne.mpr h]
      simp [h, ih]

theorem alter.go_eq_append (name : String) (f : Option Content → Content)
    (ps : List (String × Content)) (h : name ∉ ps.map (·.1)) :
    alter.go name f ps = ps ++ [(name, f none)] := by
  induction ps with
  | nil => rfl
  | cons p ps ih =>
    obtain ⟨n, c⟩ := p
    simp only [List.map_cons, List.mem_cons, not_or] at h
    unfold alter.go
    rw [if_neg (Ne.symm h.1), ih h.2]
    rfl

theorem set_of_contains_eq_false (r : Record) (name : String) (c : Content)
    (h : r.contains name = false) :
    r.set name c = { r with properties := r.properties ++ [(name, c)] } := by
  unfold set alter
  rw [alter.go_eq_append]
  rw [← contains_iff, h]
  simp

end Record

namespace Entity

theorem visibleProperties_nodup (ls : List Layer) :
    ((visibleProperties ls).map (·.name)).Nodup := by
  rw [visibleProperties_eq]
  exact Layer.visible_nodup Layer.properties_nodup ls

theorem properties_nodup (entity : Entity) : (entity.properties.map (·.name)).Nodup := by
  apply visibleProperties_nodup

def seeds (entity : Entity) : List (String × Content) :=
  entity.properties.filterMap fun p =>
    match p.collection, p.default with
    | true, some d => some (p.name, .items [d])
    | _, _ => none

def fillings (entity : Entity) (r : Record) : List (String × Content) :=
  entity.properties.filterMap fun p =>
    match p.collection, p.default with
    | false, some d => if r.contains p.name then none else some (p.name, .text d)
    | _, _ => none

def supply (wanted : Property → Bool) (value : Property → Content) (ps : List Property)
    (r : Record) : Record :=
  ps.foldl (fun r p => if wanted p && !r.contains p.name then r.set p.name (value p) else r) r

theorem supply_eq_append (wanted : Property → Bool) (value : Property → Content)
    (ps : List Property) (r : Record) (h : (ps.map (·.name)).Nodup) :
    supply wanted value ps r = { r with
      properties := r.properties ++
        (ps.filter fun p => wanted p && !r.contains p.name).map fun p => (p.name, value p) } := by
  induction ps generalizing r with
  | nil => simp [supply]
  | cons p ps ih =>
    rw [List.map_cons, List.nodup_cons] at h
    have hstep : supply wanted value (p :: ps) r =
        supply wanted value ps
          (if wanted p && !r.contains p.name then r.set p.name (value p) else r) := rfl
    rw [hstep, ih _ h.2]
    by_cases hp : (wanted p && !r.contains p.name) = true
    · rw [if_pos hp, List.filter_cons, if_pos hp]
      have habsent : r.contains p.name = false := by
        simp only [Bool.and_eq_true, Bool.not_eq_true'] at hp
        exact hp.2
      rw [Record.set_of_contains_eq_false _ _ _ habsent]
      -- the name just given a value is none of those that follow
      have hsame : ∀ q ∈ ps, Record.contains
          { r with properties := r.properties ++ [(p.name, value p)] } q.name
            = r.contains q.name := by
        intro q hq
        have hne : q.name ≠ p.name := by
          intro heq
          exact h.1 (heq ▸ List.mem_map_of_mem hq)
        rw [Bool.eq_iff_iff, Record.contains_iff, Record.contains_iff]
        simp [hne]
      rw [List.filter_congr (fun q hq => by rw [hsame q hq])]
      simp
    · rw [if_neg hp, List.filter_cons, if_neg hp]

theorem seed_empty (entity : Entity) (id : Option String) :
    entity.seed { id } = { id, properties := entity.seeds } := by
  have hsupply : entity.seed { id } = supply (·.collection) (fun p => .items p.default.toList)
      entity.propertiesWithDefault { id } := rfl
  rw [hsupply, supply_eq_append]
  · unfold seeds propertiesWithDefault
    induction entity.properties with
    | nil => rfl
    | cons p ps ih =>
      cases hc : p.collection <;> cases hd : p.default <;>
        simp_all [Record.contains, Record.get?]
  · exact entity.properties_nodup.sublist (List.filter_sublist.map _)

theorem fill_eq_append (entity : Entity) (r : Record) :
    entity.fill r = { r with properties := r.properties ++ entity.fillings r } := by
  have hsupply : entity.fill r = supply (!·.collection) (fun p => .text (p.default.getD ""))
      entity.propertiesWithDefault r := rfl
  rw [hsupply, supply_eq_append]
  · unfold fillings propertiesWithDefault
    induction entity.properties with
    | nil => rfl
    | cons p ps ih =>
      cases hc : p.collection <;> cases hd : p.default <;> cases hr : r.contains p.name <;>
        simp_all
  · exact entity.properties_nodup.sublist (List.filter_sublist.map _)

theorem make_eq (entity : Entity) (id : Option String) (commands : List Command) :
    entity.make id commands =
      let r := Command.runAll commands { id, properties := entity.seeds }
      { r with properties := r.properties ++ entity.fillings r } := by
  unfold make
  rw [seed_empty, fill_eq_append]

theorem make_id (entity : Entity) (id : Option String) (commands : List Command) :
    (entity.make id commands).id = id := by
  rw [make_eq]
  apply Command.runAll_id

end Entity
end Catalog
