import Catalog.Proofs.Record.Rearrange
/-!
This module contains the commands that are left of groups when these are taken apart. Running them
from left to right does what the groups do. Each changes its target only, so commands with different
targets can be exchanged.
-/

namespace Catalog

inductive Target where
  | property (name : String)
  | tags
deriving DecidableEq, Repr

namespace Command

def target? : Command → Option Target
  | .set property _ => some (.property property)
  | .addItem property _ => some (.property property)
  | .append property _ => some (.property property)
  | .prepend property _ => some (.property property)
  | .addTag _ => some .tags
  | .group _ => none

mutual

def leaves : Command → List Command
  | .group commands => leavesAll commands
  | c => [c]

def leavesAll : List Command → List Command
  | [] => []
  | c :: cs => c.leaves ++ leavesAll cs

end

def leavesAbout (target : Target) (cs : List Command) : List Command :=
  (leavesAll cs).filter (·.target? = some target)

mutual

theorem isSome_target?_of_mem_leaves (c : Command) : ∀ leaf ∈ c.leaves, leaf.target?.isSome := by
  intro leaf hleaf
  cases c with
  | group cs => exact isSome_target?_of_mem_leavesAll cs leaf hleaf
  | _ =>
    rw [List.mem_singleton.mp hleaf]
    rfl

theorem isSome_target?_of_mem_leavesAll (cs : List Command) :
    ∀ leaf ∈ leavesAll cs, leaf.target?.isSome := by
  cases cs with
  | nil => simp [leavesAll]
  | cons c cs =>
    unfold leavesAll
    intro leaf hleaf
    obtain hleaf | hleaf := List.mem_append.mp hleaf
    · exact isSome_target?_of_mem_leaves c leaf hleaf
    · exact isSome_target?_of_mem_leavesAll cs leaf hleaf

end

mutual

theorem editsAll_leaves (c : Command) : editsAll c.leaves = c.edits := by
  cases c with
  | group cs => exact editsAll_leavesAll cs
  | _ => rfl

theorem editsAll_leavesAll (cs : List Command) : editsAll (leavesAll cs) = editsAll cs := by
  cases cs with
  | nil => rfl
  | cons c cs =>
    rw [leavesAll, editsAll_append, editsAll_leaves, editsAll_leavesAll, editsAll]

end

mutual

theorem tagsAll_leaves (c : Command) : tagsAll c.leaves = c.tags := by
  cases c with
  | group cs => exact tagsAll_leavesAll cs
  | _ => rfl

theorem tagsAll_leavesAll (cs : List Command) : tagsAll (leavesAll cs) = tagsAll cs := by
  cases cs with
  | nil => rfl
  | cons c cs => rw [leavesAll, tagsAll_append, tagsAll_leaves, tagsAll_leavesAll, tagsAll]

end

theorem leavesAll_join (cs : List Command) : leavesAll (join cs).toList = leavesAll cs := by
  match cs with
  | [] => rfl
  | [c] => rfl
  | c :: d :: cs => exact List.append_nil (leavesAll (c :: d :: cs))

theorem runAll_eq_of_leavesAll_eq {cs cs' : List Command} (h : leavesAll cs' = leavesAll cs)
    (r : Record) : runAll cs' r = runAll cs r := by
  apply runAll_congr
  · rw [← editsAll_leavesAll cs', h, editsAll_leavesAll]
  · rw [← tagsAll_leavesAll cs', h, tagsAll_leavesAll]

theorem leavesAll_leavesAll (cs : List Command) : leavesAll (leavesAll cs) = leavesAll cs := by
  have hleaf {c : Command} (h : c.target?.isSome) : c.leaves = [c] := by
    cases c with
    | group cs => simp [target?] at h
    | _ => rfl
  have hleaves (ls : List Command) (h : ∀ leaf ∈ ls, leaf.target?.isSome) : leavesAll ls = ls := by
    induction ls with
    | nil => rfl
    | cons leaf ls ih =>
      obtain ⟨hfirst, hothers⟩ := List.forall_mem_cons.mp h
      rw [leavesAll, hleaf hfirst, ih hothers, List.singleton_append]
  exact hleaves _ (isSome_target?_of_mem_leavesAll cs)

section

variable {leaf : Command} (hleaf : leaf.target?.isSome)

include hleaf

theorem about_edits_eq_nil {name : String} (h : leaf.target? ≠ some (.property name)) :
    leaf.edits.filterMap (about name) = [] := by
  have habout {property : String} (edit : Edit) (h : some (Target.property property) ≠
      some (.property name)) : [(property, edit)].filterMap (about name) = [] := by
    have hne : property ≠ name := by
      rintro rfl
      exact h rfl
    exact List.filterMap_cons_none (if_neg hne)
  cases leaf with
  | set property value => exact habout (.set value) h
  | addItem property item => exact habout (.addItem item) h
  | append property text => exact habout (.append text) h
  | prepend property text => exact habout (.prepend text) h
  | addTag tag => rfl
  | group cs => simp [target?] at hleaf

theorem tags_eq_nil (h : leaf.target? ≠ some .tags) : leaf.tags = [] := by
  cases leaf with
  | addTag tag => exact absurd rfl h
  | group cs => simp [target?] at hleaf
  | _ => rfl

end

theorem editsOf_leavesAbout (name : String) (cs : List Command) :
    editsOf name (leavesAbout (.property name) cs) = editsOf name cs := by
  have hall := isSome_target?_of_mem_leavesAll cs
  unfold leavesAbout editsOf
  rw [← editsAll_leavesAll cs]
  generalize leavesAll cs = leaves at hall ⊢
  induction leaves with
  | nil => rfl
  | cons leaf leaves ih =>
    obtain ⟨hleaf, hleaves⟩ := List.forall_mem_cons.mp hall
    by_cases htarget : leaf.target? = some (.property name)
    · rw [List.filter_cons_of_pos (by simpa using htarget), editsAll, editsAll,
        List.filterMap_append, List.filterMap_append, ih hleaves]
    · rw [List.filter_cons_of_neg (by simpa using htarget), editsAll, List.filterMap_append,
        about_edits_eq_nil hleaf htarget, List.nil_append, ih hleaves]

theorem tagsAll_leavesAbout (cs : List Command) :
    tagsAll (leavesAbout .tags cs) = tagsAll cs := by
  have hall := isSome_target?_of_mem_leavesAll cs
  unfold leavesAbout
  rw [← tagsAll_leavesAll cs]
  generalize leavesAll cs = leaves at hall ⊢
  induction leaves with
  | nil => rfl
  | cons leaf leaves ih =>
    obtain ⟨hleaf, hleaves⟩ := List.forall_mem_cons.mp hall
    by_cases htarget : leaf.target? = some .tags
    · rw [List.filter_cons_of_pos (by simpa using htarget), tagsAll, tagsAll, ih hleaves]
    · rw [List.filter_cons_of_neg (by simpa using htarget), tagsAll, tags_eq_nil hleaf htarget,
        List.nil_append, ih hleaves]

theorem get?_runAll_congr {cs cs' : List Command} {r r' : Record} {name : String}
    (hleaves : leavesAbout (.property name) cs' = leavesAbout (.property name) cs)
    (hr : r'.get? name = r.get? name) : (runAll cs' r').get? name = (runAll cs r).get? name := by
  rw [get?_runAll, get?_runAll, hr, ← editsOf_leavesAbout name cs', hleaves, editsOf_leavesAbout]

theorem tags_runAll_congr {cs cs' : List Command} {r r' : Record}
    (hleaves : leavesAbout .tags cs' = leavesAbout .tags cs) (hr : r'.tags = r.tags) :
    (runAll cs' r').tags = (runAll cs r).tags := by
  rw [tags_runAll, tags_runAll, hr, ← tagsAll_leavesAbout cs', hleaves, tagsAll_leavesAbout]

theorem leavesAll_append (cs ds : List Command) :
    leavesAll (cs ++ ds) = leavesAll cs ++ leavesAll ds := by
  induction cs with
  | nil => rfl
  | cons c cs ih => rw [List.cons_append, leavesAll, leavesAll, ih, List.append_assoc]

def Apart (c d : Command) : Prop := ∀ x ∈ c.leaves, ∀ y ∈ d.leaves, x.target? ≠ y.target?

instance (c d : Command) : Decidable (Apart c d) :=
  inferInstanceAs (Decidable (∀ x ∈ c.leaves, ∀ y ∈ d.leaves, x.target? ≠ y.target?))

theorem Apart.leavesAbout_swap {c d : Command} (h : c.Apart d) (target : Target) :
    leavesAbout target [d, c] = leavesAbout target [c, d] := by
  unfold leavesAbout
  simp only [leavesAll, List.append_nil, List.filter_append]
  by_cases hc : c.leaves.filter (·.target? = some target) = []
  · rw [hc, List.nil_append, List.append_nil]
  · -- One of the two is about the target, so the other one is not.
    obtain ⟨x, hx⟩ := List.exists_mem_of_ne_nil _ hc
    obtain ⟨hx, htarget⟩ := List.mem_filter.mp hx
    have hd : d.leaves.filter (·.target? = some target) = [] := by
      rw [List.filter_eq_nil_iff]
      intro y hy hy'
      exact h x hx y hy ((of_decide_eq_true htarget).trans (of_decide_eq_true hy').symm)
    rw [hd, List.nil_append, List.append_nil]

end Command

namespace Record

theorem namesWith_of_subset {names more : List String} (h : ∀ name ∈ more, name ∈ names) :
    namesWith names more = names := by
  unfold namesWith
  have hnone : more.filter (· ∉ names) = [] := by
    rw [List.filter_eq_nil_iff]
    intro name hname
    simpa using h name hname
  rw [hnone, List.eraseDups_nil, List.append_nil]

theorem namesWith_swap_of_subset {names first second : List String}
    (h : ∀ name ∈ first, name ∈ names) :
    namesWith names (second ++ first) = namesWith names (first ++ second) := by
  rw [namesWith_append, namesWith_append, namesWith_of_subset h, namesWith_of_subset]
  intro name hname
  exact mem_namesWith.mpr (.inl (h name hname))

theorem filter_namesWith_swap (names first second others : List String) :
    (namesWith names (second ++ first ++ others)).filter (· ∉ first.filter (· ∉ names)) =
      (namesWith names (first ++ second ++ others)).filter (· ∉ first.filter (· ∉ names)) := by
  have hold : ∀ name ∈ first.filter (· ∉ first.filter (· ∉ names)),
      name ∈ names.filter (· ∉ first.filter (· ∉ names)) := by
    intro name hname
    simp only [List.mem_filter, decide_eq_true_eq] at hname ⊢
    tauto
  rw [filter_namesWith, filter_namesWith, List.filter_append, List.filter_append,
    List.filter_append, List.filter_append, namesWith_append _ (_ ++ _),
    namesWith_swap_of_subset hold, ← namesWith_append]

theorem namesWith_perm {names more more' : List String} (h : ∀ name, name ∈ more' ↔ name ∈ more) :
    (namesWith names more').Perm (namesWith names more) := by
  have hnodup (names : List String) : names.eraseDups.Nodup := by
    rw [← namesWith_nil_left]
    exact nodup_namesWith List.nodup_nil names
  apply List.Perm.append_left
  rw [List.perm_ext_iff_of_nodup (hnodup _) (hnodup _)]
  intro name
  simp only [List.mem_eraseDups, List.mem_filter, h]

end Record

namespace Command

def brings (names : List String) (c : Command) : List String :=
  (targets [c]).filter (· ∉ names)

/--
What is so of two records if neighbours `c` and `d` among the commands that were run for them are
exchanged. Up to `c` and `d` they have the same properties, with the given names.
-/
structure Exchanged (c d : Command) (names : List String) (r r' : Record) : Prop where
  id : r'.id = r.id
  tags : r'.tags = r.tags
  values : ∀ name, r'.get? name = r.get? name
  names_perm : r'.names.Perm r.names
  order_first : r'.names.filter (· ∉ c.brings names) = r.names.filter (· ∉ c.brings names)
  order_second : r'.names.filter (· ∉ d.brings names) = r.names.filter (· ∉ d.brings names)

theorem names_runAll_between (c d : Command) (before after : List Command) (r : Record) :
    (runAll (before ++ [c, d] ++ after) r).names = Record.namesWith (runAll before r).names
      (targets [c] ++ targets [d] ++ targets after) := by
  have htargets : targets [c, d] = targets [c] ++ targets [d] := targets_append [c] [d]
  rw [runAll_append, runAll_append, names_runAll, names_runAll, htargets, ← Record.namesWith_append]

theorem Apart.exchanged {c d : Command} (h : c.Apart d) (before after : List Command)
    (r : Record) :
    Exchanged c d (runAll before r).names (runAll (before ++ [c, d] ++ after) r)
      (runAll (before ++ [d, c] ++ after) r) := by
  have hleaves (target : Target) : leavesAbout target (before ++ [d, c] ++ after) =
      leavesAbout target (before ++ [c, d] ++ after) := by
    have hswap := h.leavesAbout_swap target
    unfold leavesAbout at hswap ⊢
    simp only [leavesAll_append, List.filter_append, hswap]
  constructor
  · rw [runAll_id, runAll_id]
  · exact tags_runAll_congr (hleaves .tags) rfl
  · intro name
    exact get?_runAll_congr (hleaves (.property name)) rfl
  · rw [names_runAll_between, names_runAll_between]
    apply Record.namesWith_perm
    intro name
    simp only [List.mem_append]
    tauto
  · rw [names_runAll_between, names_runAll_between]
    apply Record.filter_namesWith_swap
  · rw [names_runAll_between, names_runAll_between]
    exact (Record.filter_namesWith_swap _ _ _ _).symm

/--
Running commands is running their leaves, so groups make no difference. What a property comes to
depends on the leaves about it, and the tags on the leaves that give tags; the id stays. Neighbours
without a common target can be exchanged: of what is there in the end, only the properties that they
bring can be in another order.
-/
theorem runAll_flattened (cs : List Command) (r : Record) :
    (∀ leaf ∈ leavesAll cs, leaf.target?.isSome) ∧
      runAll (leavesAll cs) r = runAll cs r ∧
      runAll (join cs).toList r = runAll cs r ∧
      (∀ cs', leavesAll cs' = leavesAll cs → runAll cs' r = runAll cs r) ∧
      (∀ cs' r' name, leavesAbout (.property name) cs' = leavesAbout (.property name) cs →
        r'.get? name = r.get? name → (runAll cs' r').get? name = (runAll cs r).get? name) ∧
      (∀ cs' r', leavesAbout .tags cs' = leavesAbout .tags cs → r'.tags = r.tags →
        (runAll cs' r').tags = (runAll cs r).tags) ∧
      (runAll cs r).id = r.id ∧
      ∀ before c d after, cs = before ++ [c, d] ++ after → c.Apart d →
        Exchanged c d (runAll before r).names (runAll cs r)
          (runAll (before ++ [d, c] ++ after) r) := by
  refine ⟨isSome_target?_of_mem_leavesAll cs, ?_, ?_, ?_, ?_, ?_, runAll_id cs r, ?_⟩
  · exact runAll_eq_of_leavesAll_eq (leavesAll_leavesAll cs) r
  · exact runAll_eq_of_leavesAll_eq (leavesAll_join cs) r
  · intro cs' hleaves
    exact runAll_eq_of_leavesAll_eq hleaves r
  · intro cs' r' name
    exact get?_runAll_congr
  · intro cs' r'
    exact tags_runAll_congr
  · rintro before c d after rfl h
    exact h.exchanged before after r

theorem runAll_flattened_exchanged :
    let c : Command := .group [.addTag "t", .group [.append "Title" "x"]]
    let d : Command := .prepend "Note" "y"
    let made (properties : List (String × Content)) : Record := { properties, tags := ["t"] }
    c.Apart d ∧
      runAll [c, d] {} = made [("Title", .text "x"), ("Note", .text "y")] ∧
      runAll [d, c] {} = made [("Note", .text "y"), ("Title", .text "x")] ∧
      Exchanged c d [] (runAll [c, d] {}) (runAll [d, c] {}) := by
  intro c d made
  have hapart : c.Apart d := by decide
  obtain ⟨-, -, -, -, -, -, -, hexchange⟩ := runAll_flattened [c, d] {}
  exact ⟨hapart, by decide, by decide, hexchange [] c d [] rfl hapart⟩

end Command
end Catalog
