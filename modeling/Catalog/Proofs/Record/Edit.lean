import Catalog.Command
import Catalog.Proofs.Entity.Defaults
import Mathlib.Data.List.Nodup
/-!
This module contains edits: what commands do to single properties. Running commands changes each
property by the edits about it, in their order, and puts a property that is new behind the others.
-/

namespace Catalog

inductive Edit where
  | set (value : String)
  | addItem (item : String)
  | append (text : String)
  | prepend (text : String)
deriving DecidableEq, Repr

namespace Edit

def apply : Edit → Option Content → Content
  | .set value, _ => .text value
  | .addItem item, c => Content.addItem item c
  | .append text, c => Content.mapText (· ++ text) c
  | .prepend text, c => Content.mapText (text ++ ·) c

def applyAll : List Edit → Option Content → Option Content
  | [], c => c
  | edit :: edits, c => applyAll edits (some (edit.apply c))

theorem applyAll_append (first second : List Edit) (c : Option Content) :
    applyAll (first ++ second) c = applyAll second (applyAll first c) := by
  induction first generalizing c with
  | nil => rfl
  | cons edit first ih => exact ih (some (edit.apply c))

theorem applyAll_eq_none_iff {edits : List Edit} {c : Option Content} :
    applyAll edits c = none ↔ edits = [] ∧ c = none := by
  induction edits generalizing c with
  | nil => simp [applyAll]
  | cons edit edits ih => simp [applyAll, ih]

end Edit

namespace Command

mutual

def edits : Command → List (String × Edit)
  | .set property value => [(property, .set value)]
  | .addItem property item => [(property, .addItem item)]
  | .append property text => [(property, .append text)]
  | .prepend property text => [(property, .prepend text)]
  | .addTag _ => []
  | .group commands => editsAll commands

def editsAll : List Command → List (String × Edit)
  | [] => []
  | c :: cs => c.edits ++ editsAll cs

end

theorem editsAll_append (cs ds : List Command) :
    editsAll (cs ++ ds) = editsAll cs ++ editsAll ds := by
  induction cs with
  | nil => rfl
  | cons c cs ih => rw [List.cons_append, editsAll, editsAll, ih, List.append_assoc]

def about (name : String) (x : String × Edit) : Option Edit :=
  if x.1 = name then some x.2 else none

def editsOf (name : String) (cs : List Command) : List Edit :=
  (editsAll cs).filterMap (about name)

def targets (cs : List Command) : List String := (editsAll cs).map (·.1)

theorem mem_editsOf {name : String} {edit : Edit} {cs : List Command} :
    edit ∈ editsOf name cs ↔ (name, edit) ∈ editsAll cs := by
  unfold editsOf about
  simp

theorem editsOf_eq_nil_iff {name : String} {cs : List Command} :
    editsOf name cs = [] ↔ name ∉ targets cs := by
  rw [List.eq_nil_iff_forall_not_mem]
  simp only [mem_editsOf, targets, List.mem_map, not_exists, not_and]
  constructor
  · rintro h ⟨n, edit⟩ hmem rfl
    exact h edit hmem
  · intro h edit hmem
    exact h (name, edit) hmem rfl

end Command

namespace Record

def names (r : Record) : List String := r.properties.map (·.1)

theorem alter.names_go (name : String) (f : Option Content → Content)
    (ps : List (String × Content)) :
    (alter.go name f ps).map (·.1) =
      if name ∈ ps.map (·.1) then ps.map (·.1) else ps.map (·.1) ++ [name] := by
  induction ps with
  | nil => rfl
  | cons p ps ih =>
    obtain ⟨n, c⟩ := p
    by_cases h : n = name
    · simp [go, h]
    · by_cases hmem : name ∈ ps.map (·.1)
      · rw [if_pos hmem] at ih
        simp only [go, if_neg h, List.map_cons, ih]
        rw [if_pos (List.mem_cons_of_mem n hmem)]
      · rw [if_neg hmem] at ih
        simp only [go, if_neg h, List.map_cons, ih]
        rw [if_neg (List.not_mem_cons_of_ne_of_not_mem (Ne.symm h) hmem), List.cons_append]

theorem names_alter (r : Record) (name : String) (f : Option Content → Content) :
    (r.alter name f).names = if name ∈ r.names then r.names else r.names ++ [name] := by
  exact alter.names_go name f r.properties

theorem names_addTag (r : Record) (tag : String) : (r.addTag tag).names = r.names := by
  unfold addTag
  split
  · rfl
  · rfl

theorem get?_addTag (r : Record) (tag name : String) : (r.addTag tag).get? name = r.get? name := by
  unfold addTag
  split
  · rfl
  · rfl

def namesWith (names more : List String) : List String :=
  names ++ (more.filter (· ∉ names)).eraseDups

theorem namesWith_nil (names : List String) : namesWith names [] = names := by
  simp [namesWith]

theorem namesWith_nil_left (more : List String) : namesWith [] more = more.eraseDups := by
  simp [namesWith]

theorem namesWith_cons (names : List String) (name : String) (more : List String) :
    namesWith names (name :: more) =
      namesWith (if name ∈ names then names else names ++ [name]) more := by
  unfold namesWith
  by_cases h : name ∈ names
  · rw [if_pos h, List.filter_cons, if_neg (by simpa using h)]
  · rw [if_neg h, List.filter_cons, if_pos (by simpa using h), List.eraseDups_cons,
      List.filter_filter, List.append_assoc, List.singleton_append]
    congr 3
    apply List.filter_congr
    intro other _
    rw [Bool.eq_iff_iff]
    simp [and_comm]

theorem namesWith_append (names first second : List String) :
    namesWith names (first ++ second) = namesWith (namesWith names first) second := by
  induction first generalizing names with
  | nil => rw [List.nil_append, namesWith_nil]
  | cons name first ih => rw [List.cons_append, namesWith_cons, ih, ← namesWith_cons]

theorem mem_namesWith {names more : List String} {name : String} :
    name ∈ namesWith names more ↔ name ∈ names ∨ name ∈ more := by
  induction more generalizing names with
  | nil => simp [namesWith_nil]
  | cons other more ih =>
    rw [namesWith_cons, ih, List.mem_cons]
    split
    · next hmem =>
      constructor
      · rintro (h | h)
        · exact .inl h
        · exact .inr (.inr h)
      · rintro (h | rfl | h)
        · exact .inl h
        · exact .inl hmem
        · exact .inr h
    · rw [List.mem_append, List.mem_singleton, or_assoc]

theorem nodup_namesWith {names : List String} (h : names.Nodup) (more : List String) :
    (namesWith names more).Nodup := by
  induction more generalizing names with
  | nil => rwa [namesWith_nil]
  | cons name more ih =>
    rw [namesWith_cons]
    apply ih
    split
    · exact h
    · next hmem =>
      rw [← List.concat_eq_append]
      exact h.concat hmem

end Record

namespace Command

theorem get?_alter_apply (r : Record) (property : String) (edit : Edit) (name : String) :
    (r.alter property edit.apply).get? name =
      Edit.applyAll ([(property, edit)].filterMap (about name)) (r.get? name) := by
  rw [Record.get?_alter]
  by_cases h : name = property
  · have habout : about name (property, edit) = some edit := if_pos h.symm
    rw [if_pos h, List.filterMap_cons_some habout, h]
    rfl
  · have habout : about name (property, edit) = none := if_neg (Ne.symm h)
    rw [if_neg h, List.filterMap_cons_none habout]
    rfl

mutual

theorem get?_run (c : Command) (r : Record) (name : String) :
    (c.run r).get? name = Edit.applyAll (c.edits.filterMap (about name)) (r.get? name) := by
  cases c with
  | set property value => exact get?_alter_apply r property (.set value) name
  | addItem property item => exact get?_alter_apply r property (.addItem item) name
  | append property text => exact get?_alter_apply r property (.append text) name
  | prepend property text => exact get?_alter_apply r property (.prepend text) name
  | addTag tag => exact r.get?_addTag tag name
  | group cs => exact get?_runAll cs r name

theorem get?_runAll (cs : List Command) (r : Record) (name : String) :
    (runAll cs r).get? name = Edit.applyAll (editsOf name cs) (r.get? name) := by
  cases cs with
  | nil => rfl
  | cons c cs =>
    rw [runAll, get?_runAll, get?_run, editsOf, editsOf, editsAll, List.filterMap_append,
      Edit.applyAll_append]

end

mutual

theorem names_run (c : Command) (r : Record) :
    (c.run r).names = Record.namesWith r.names (c.edits.map (·.1)) := by
  have halter (property : String) (edit : Edit) :
      (r.alter property edit.apply).names = Record.namesWith r.names [property] := by
    rw [Record.names_alter, Record.namesWith_cons, Record.namesWith_nil]
  cases c with
  | set property value => exact halter property (.set value)
  | addItem property item => exact halter property (.addItem item)
  | append property text => exact halter property (.append text)
  | prepend property text => exact halter property (.prepend text)
  | addTag tag =>
    rw [run, Record.names_addTag, edits, List.map_nil, Record.namesWith_nil]
  | group cs => exact names_runAll cs r

theorem names_runAll (cs : List Command) (r : Record) :
    (runAll cs r).names = Record.namesWith r.names (targets cs) := by
  cases cs with
  | nil => rw [runAll, targets, editsAll, List.map_nil, Record.namesWith_nil]
  | cons c cs =>
    rw [runAll, names_runAll, names_run, targets, targets, editsAll, List.map_append,
      Record.namesWith_append]

end

end Command

end Catalog
