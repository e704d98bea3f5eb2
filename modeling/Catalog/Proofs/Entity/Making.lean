import Catalog.Proofs.Entity.Admission
import Catalog.Proofs.Record.Value
/-!
This module contains records in closed form: which properties a record has, in which order, and what
each of them holds after the commands of its making.
-/

namespace Catalog

namespace Property

def seed? (p : Property) : Option Content :=
  if p.collection then p.default.map fun d => .items [d] else none

def filling? (p : Property) : Option Content :=
  if p.collection then none else p.default.map .text

end Property

section

variable (f : Property → Option Content) {ps : List Property}

theorem lookup_filterMap_of_not_mem {name : String} (h : name ∉ ps.map (·.name)) :
    (ps.filterMap fun p => (f p).map (Prod.mk p.name)).lookup name = none := by
  induction ps with
  | nil => rfl
  | cons p ps ih =>
    rw [List.map_cons, List.mem_cons, not_or] at h
    rw [List.filterMap_cons]
    cases f p with
    | none => exact ih h.2
    | some c =>
      simp only [Option.map_some, List.lookup_cons, beq_eq_false_iff_ne.mpr h.1]
      exact ih h.2

theorem lookup_filterMap (h : (ps.map (·.name)).Nodup) {p : Property} (hp : p ∈ ps) :
    (ps.filterMap fun p => (f p).map (Prod.mk p.name)).lookup p.name = f p := by
  induction ps with
  | nil => simp at hp
  | cons q ps ih =>
    rw [List.map_cons, List.nodup_cons] at h
    rw [List.mem_cons] at hp
    rw [List.filterMap_cons]
    obtain rfl | hp := hp
    · cases f p with
      | none => exact lookup_filterMap_of_not_mem f h.1
      | some c => exact List.lookup_cons_self
    · have hne : p.name ≠ q.name := by
        intro heq
        exact h.1 (heq ▸ List.mem_map_of_mem hp)
      cases f q with
      | none => exact ih h.2 hp
      | some c =>
        simp only [Option.map_some, List.lookup_cons, beq_eq_false_iff_ne.mpr hne]
        exact ih h.2 hp

variable (ps)

theorem names_filterMap :
    (ps.filterMap fun p => (f p).map (Prod.mk p.name)).map (·.1) =
      (ps.filter fun p => (f p).isSome).map (·.name) := by
  induction ps with
  | nil => rfl
  | cons p ps ih =>
    cases hp : f p with
    | none => simpa [List.filterMap_cons, List.filter_cons, hp] using ih
    | some c => simpa [List.filterMap_cons, List.filter_cons, hp] using ih

end

namespace Entity

variable (entity : Entity)

theorem seeds_eq : entity.seeds = entity.properties.filterMap fun p =>
    p.seed?.map (Prod.mk p.name) := by
  unfold seeds
  apply List.filterMap_congr
  intro p _
  unfold Property.seed?
  cases p.collection with
  | false => rfl
  | true =>
    cases p.default with
    | none => rfl
    | some d => rfl

theorem fillings_eq (r : Record) : entity.fillings r = entity.properties.filterMap fun p =>
    (if r.contains p.name then none else p.filling?).map (Prod.mk p.name) := by
  unfold fillings
  apply List.filterMap_congr
  intro p _
  unfold Property.filling?
  cases p.collection with
  | true =>
    split
    · simp_all
    · simp
  | false =>
    cases p.default with
    | none => simp
    | some d =>
      cases r.contains p.name with
      | true => rfl
      | false => rfl

def seededNames : List String :=
  (entity.properties.filter fun p => p.collection && p.default.isSome).map (·.name)

def filledNames (targets : List String) : List String :=
  (entity.properties.filter fun p =>
    !p.collection && p.default.isSome && p.name ∉ targets).map (·.name)

variable (id : Option String) (commands : List Command)

def draft : Record := Command.runAll commands { id, properties := entity.seeds }

theorem make_eq_draft : entity.make id commands =
    { entity.draft id commands with
      properties := (entity.draft id commands).properties ++
        entity.fillings (entity.draft id commands) } := by
  exact entity.make_eq id commands

theorem draft_get? {p : Property} (hp : p ∈ entity.properties) :
    (entity.draft id commands).get? p.name =
      Edit.applyAll (Command.editsOf p.name commands) p.seed? := by
  have hseed : Record.get? { id, properties := entity.seeds } p.name = p.seed? := by
    unfold Record.get?
    simp only [seeds_eq]
    exact lookup_filterMap Property.seed? entity.properties_nodup hp
  rw [draft, Command.get?_runAll, hseed]

theorem draft_contains {p : Property} (hp : p ∈ entity.properties) (h : p.collection = false) :
    (entity.draft id commands).contains p.name = true ↔ p.name ∈ Command.targets commands := by
  have hseed : p.seed? = none := by
    simp [Property.seed?, h]
  rw [Record.contains, draft_get? entity id commands hp, hseed, Option.isSome_iff_ne_none, Ne,
    Edit.applyAll_eq_none_iff, Command.editsOf_eq_nil_iff]
  simp

theorem make_get? {p : Property} (hp : p ∈ entity.properties) :
    (entity.make id commands).get? p.name =
      (Edit.applyAll (Command.editsOf p.name commands) p.seed?).or p.filling? := by
  have hfilling : (entity.fillings (entity.draft id commands)).lookup p.name =
      if (entity.draft id commands).contains p.name then none else p.filling? := by
    rw [fillings_eq]
    exact lookup_filterMap _ entity.properties_nodup hp
  rw [make_eq_draft, Record.get?, List.lookup_append, hfilling, ← Record.get?, Record.contains,
    draft_get? entity id commands hp]
  cases Edit.applyAll (Command.editsOf p.name commands) p.seed? with
  | none => rfl
  | some c => rfl

theorem make_get?_of_text {p : Property} (hp : p ∈ entity.properties) (h : p.collection = false) :
    (entity.make id commands).get? p.name =
      (Edit.applyAll (Command.editsOf p.name commands) none).or (p.default.map .text) := by
  rw [make_get? entity id commands hp]
  simp [Property.seed?, Property.filling?, h]

theorem make_get?_of_collection {p : Property} (hp : p ∈ entity.properties)
    (h : p.collection = true) :
    (entity.make id commands).get? p.name =
      Edit.applyAll (Command.editsOf p.name commands) (p.default.map fun d => .items [d]) := by
  rw [make_get? entity id commands hp]
  simp [Property.seed?, Property.filling?, h]

theorem names_draft : (entity.draft id commands).names =
    Record.namesWith entity.seededNames (Command.targets commands) := by
  have hseeds : Record.names { id, properties := entity.seeds } = entity.seededNames := by
    unfold Record.names seededNames
    rw [seeds_eq, names_filterMap]
    congr 1
    apply List.filter_congr
    intro p _
    unfold Property.seed?
    cases p.collection with
    | false => rfl
    | true => simp
  rw [draft, Command.names_runAll, hseeds]

theorem names_make : (entity.make id commands).names =
    Record.namesWith entity.seededNames (Command.targets commands) ++
      entity.filledNames (Command.targets commands) := by
  have happend : (entity.make id commands).names = (entity.draft id commands).names ++
      (entity.fillings (entity.draft id commands)).map (·.1) := by
    rw [make_eq_draft, Record.names, List.map_append, ← Record.names]
  rw [happend, names_draft, fillings_eq, names_filterMap]
  congr 2
  apply List.filter_congr
  intro p hp
  cases hcollection : p.collection with
  | true => simp [Property.filling?, hcollection]
  | false =>
    rw [Bool.eq_iff_iff]
    by_cases htarget : p.name ∈ Command.targets commands
    · rw [if_pos ((draft_contains entity id commands hp hcollection).mpr htarget)]
      simp [htarget]
    · rw [if_neg fun h => htarget ((draft_contains entity id commands hp hcollection).mp h)]
      simp [Property.filling?, hcollection, htarget]

theorem mem_seededNames {name : String} : name ∈ entity.seededNames ↔
    ∃ p ∈ entity.properties, p.name = name ∧ p.collection = true ∧ p.default.isSome := by
  unfold seededNames
  simp only [List.mem_map, List.mem_filter, Bool.and_eq_true]
  constructor
  · rintro ⟨p, ⟨hp, hseeded⟩, hname⟩
    exact ⟨p, hp, hname, hseeded⟩
  · rintro ⟨p, hp, hname, hseeded⟩
    exact ⟨p, ⟨hp, hseeded⟩, hname⟩

theorem mem_filledNames {targets : List String} {name : String} :
    name ∈ entity.filledNames targets ↔ ∃ p ∈ entity.properties,
      p.name = name ∧ p.collection = false ∧ p.default.isSome ∧ name ∉ targets := by
  unfold filledNames
  simp only [List.mem_map, List.mem_filter, Bool.and_eq_true, Bool.not_eq_true', decide_eq_true_eq]
  constructor
  · rintro ⟨p, ⟨hp, ⟨hcollection, hdefault⟩, htarget⟩, rfl⟩
    exact ⟨p, hp, rfl, hcollection, hdefault, htarget⟩
  · rintro ⟨p, hp, rfl, hcollection, hdefault, htarget⟩
    exact ⟨p, ⟨hp, ⟨hcollection, hdefault⟩, htarget⟩, rfl⟩

theorem nodup_names_make : (entity.make id commands).names.Nodup := by
  rw [names_make, List.nodup_append]
  have hsublist (wanted : Property → Bool) :
      ((entity.properties.filter wanted).map (·.name)).Nodup :=
    entity.properties_nodup.sublist (List.filter_sublist.map _)
  refine ⟨Record.nodup_namesWith (hsublist _) _, hsublist _, ?_⟩
  intro name hname other hother heq
  rw [← heq, mem_filledNames] at hother
  obtain ⟨p, hp, rfl, hcollection, -, htarget⟩ := hother
  rw [Record.mem_namesWith, mem_seededNames] at hname
  obtain ⟨q, hq, hsame, hseeded, -⟩ | hname := hname
  · obtain rfl : q = p := List.inj_on_of_nodup_map entity.properties_nodup hq hp hsame
    simp [hcollection] at hseeded
  · exact htarget hname

end Entity
end Catalog
