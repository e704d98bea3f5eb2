import Catalog.Proofs.Entity.Making
/-!
This module contains what more commands among those of a record leave alone: everything but the
properties that they are about and the tags that they give.
-/

namespace Catalog

namespace Command

mutual

def tags : Command → List String
  | .addTag tag => [tag]
  | .group commands => tagsAll commands
  | _ => []

def tagsAll : List Command → List String
  | [] => []
  | c :: cs => c.tags ++ tagsAll cs

end

theorem tags_of_assigns {env : Environment} {name raw : String} {c : Command}
    (h : env.Assigns name raw c) : c.tags = [] := by
  obtain ⟨p, -, value, -, rfl⟩ := h.command
  unfold Environment.assign
  split
  · rfl
  · rfl

theorem tagsAll_append (cs ds : List Command) : tagsAll (cs ++ ds) = tagsAll cs ++ tagsAll ds := by
  induction cs with
  | nil => rfl
  | cons c cs ih => rw [List.cons_append, tagsAll, tagsAll, ih, List.append_assoc]

theorem targets_append (cs ds : List Command) : targets (cs ++ ds) = targets cs ++ targets ds := by
  rw [targets, editsAll_append, List.map_append, ← targets, ← targets]

theorem editsOf_append (name : String) (cs ds : List Command) :
    editsOf name (cs ++ ds) = editsOf name cs ++ editsOf name ds := by
  rw [editsOf, editsAll_append, List.filterMap_append, ← editsOf, ← editsOf]

mutual

theorem tags_run (c : Command) (r : Record) :
    (c.run r).tags = Record.namesWith r.tags c.tags := by
  cases c with
  | set property value => exact (Record.namesWith_nil r.tags).symm
  | addItem property value => exact (Record.namesWith_nil r.tags).symm
  | append property value => exact (Record.namesWith_nil r.tags).symm
  | prepend property value => exact (Record.namesWith_nil r.tags).symm
  | addTag tag =>
    rw [run, tags, Record.namesWith_cons, Record.namesWith_nil, Record.addTag]
    split
    · rfl
    · rfl
  | group cs => exact tags_runAll cs r

theorem tags_runAll (cs : List Command) (r : Record) :
    (runAll cs r).tags = Record.namesWith r.tags (tagsAll cs) := by
  cases cs with
  | nil => exact (Record.namesWith_nil r.tags).symm
  | cons c cs => rw [runAll, tags_runAll, tags_run, tagsAll, Record.namesWith_append]

end

end Command

theorem Record.filter_namesWith (p : String → Bool) (names more : List String) :
    (namesWith names more).filter p = namesWith (names.filter p) (more.filter p) := by
  induction more generalizing names with
  | nil => rw [List.filter_nil, namesWith_nil, namesWith_nil]
  | cons name more ih =>
    rw [namesWith_cons, ih]
    cases hname : p name with
    | true =>
      rw [List.filter_cons_of_pos hname, namesWith_cons]
      congr 1
      by_cases hmem : name ∈ names
      · rw [if_pos hmem, if_pos (List.mem_filter.mpr ⟨hmem, hname⟩)]
      · rw [if_neg hmem, if_neg fun h => hmem (List.mem_filter.mp h).1, List.filter_append,
          List.filter_cons_of_pos hname, List.filter_nil]
    | false =>
      rw [List.filter_cons_of_neg (by simp [hname])]
      congr 1
      split
      · rfl
      · rw [List.filter_append, List.filter_cons_of_neg (by simp [hname]), List.filter_nil,
          List.append_nil]

namespace Entity

variable (entity : Entity) (id : Option String)

theorem tags_make (commands : List Command) :
    (entity.make id commands).tags = Record.namesWith [] (Command.tagsAll commands) := by
  rw [make_eq]
  exact Command.tags_runAll commands _

theorem make_get?_congr {name : String} {commands commands' : List Command}
    (h : Command.editsOf name commands' = Command.editsOf name commands) :
    (entity.make id commands').get? name = (entity.make id commands).get? name := by
  by_cases hname : ∃ p ∈ entity.properties, p.name = name
  · obtain ⟨p, hp, rfl⟩ := hname
    rw [make_get? entity id _ hp, make_get? entity id _ hp, h]
  · have habsent : name ∉ entity.properties.map (·.name) := by
      intro hmem
      obtain ⟨p, hp, hpname⟩ := List.mem_map.mp hmem
      exact hname ⟨p, hp, hpname⟩
    have hmake (cs : List Command) : (entity.make id cs).get? name =
        Edit.applyAll (Command.editsOf name cs)
          (Record.get? { id, properties := entity.seeds } name) := by
      have hfillings : (entity.fillings (entity.draft id cs)).lookup name = none := by
        rw [fillings_eq]
        exact lookup_filterMap_of_not_mem _ habsent
      rw [make_eq_draft, Record.get?, List.lookup_append, hfillings, Option.or_none, ← Record.get?,
        draft, Command.get?_runAll]
    rw [hmake, hmake, h]

theorem filter_filledNames (targets others : List String) :
    (entity.filledNames targets).filter (· ∉ others) = entity.filledNames (targets ++ others) := by
  unfold filledNames
  rw [List.filter_map, List.filter_filter]
  congr 1
  apply List.filter_congr
  intro p _
  simp only [Function.comp_apply, List.mem_append, not_or, Bool.decide_and]
  rw [Bool.and_comm, Bool.and_assoc]

theorem filledNames_congr {targets targets' : List String}
    (h : ∀ name, name ∈ targets' ↔ name ∈ targets) :
    entity.filledNames targets' = entity.filledNames targets := by
  unfold filledNames
  simp only [h]

end Entity

/--
How a record changes when the commands `cs` are among those that make it.
-/
structure Record.Framed (cs : List Command) (r r' : Record) : Prop where
  id : r'.id = r.id
  names : r'.names.filter (· ∉ Command.targets cs) = r.names.filter (· ∉ Command.targets cs)
  values : ∀ name ∉ Command.targets cs, r'.get? name = r.get? name
  tags : ∀ tag, tag ∈ r'.tags ↔ tag ∈ r.tags ∨ tag ∈ Command.tagsAll cs
  tags_nodup : r'.tags.Nodup
  tags_eq : Command.tagsAll cs = [] → r'.tags = r.tags

theorem Entity.make_framed (entity : Entity) (id : Option String) (first cs second : List Command) :
    Record.Framed cs (entity.make id (first ++ second))
      (entity.make id (first ++ cs ++ second)) := by
  constructor
  · rw [make_id, make_id]
  · have htargets : (Command.targets (first ++ cs ++ second)).filter (· ∉ Command.targets cs) =
        (Command.targets (first ++ second)).filter (· ∉ Command.targets cs) := by
      rw [Command.targets_append, Command.targets_append, Command.targets_append,
        List.filter_append, List.filter_append, List.filter_append]
      simp
    rw [names_make, names_make, List.filter_append, List.filter_append, Record.filter_namesWith,
      Record.filter_namesWith, htargets, filter_filledNames, filter_filledNames]
    congr 1
    apply filledNames_congr
    intro name
    simp only [Command.targets_append, List.mem_append]
    tauto
  · intro name hname
    apply make_get?_congr
    rw [Command.editsOf_append, Command.editsOf_append, Command.editsOf_append,
      Command.editsOf_eq_nil_iff.mpr hname, List.append_nil]
  · intro tag
    simp only [tags_make, Record.mem_namesWith, Command.tagsAll_append, List.mem_append]
    tauto
  · rw [tags_make]
    exact Record.nodup_namesWith List.nodup_nil _
  · intro hcs
    rw [tags_make, tags_make, Command.tagsAll_append, Command.tagsAll_append,
      Command.tagsAll_append, hcs, List.append_nil]

end Catalog
