import Catalog.Proofs.Lexical.Record
import Catalog.Proofs.Lexical.Unlimited
import Catalog.Proofs.Record.Frame
import Catalog.Proofs.Traversal.Likeness
/-!
This module contains the proof that commands which surroundings have in addition frame the records
that are read there, and do not change how the reading goes.
-/

namespace Catalog

open Xml (Element Node)

/--
The surroundings `around'` have the commands `cs` somewhere among those of `around`, and they have
nothing else in addition.
-/
structure Surroundings.Adds (cs : List Command) (around around' : Surroundings) : Prop where
  commands : ∃ first second, around.commands.flatten = first ++ second ∧
    around'.commands.flatten = first ++ cs ++ second
  vars : around'.vars = around.vars

def Visit.Framed (cs : List Command) (v v' : Visit) : Prop :=
  v'.element = v.element ∧ Record.Framed cs v.record v'.record

namespace Surroundings

variable {cs : List Command} {around around' : Surroundings} {sec : Section}

theorem adds_inherit (cs : List Command) (around : Surroundings) :
    Adds cs around (around.inherit cs) := by
  constructor
  · refine ⟨around.commands.flatten, [], ?_, ?_⟩
    · rw [List.append_nil]
    · simp [inherit]
  · rfl

namespace Adds

theorem inherit (h : Adds cs around around') (commands : List Command) :
    Adds cs (around.inherit commands) (around'.inherit commands) := by
  obtain ⟨first, second, hcommands, hcommands'⟩ := h.commands
  constructor
  · refine ⟨first, second ++ commands, ?_, ?_⟩
    · simp [Surroundings.inherit, hcommands]
    · simp [Surroundings.inherit, hcommands']
  · exact h.vars

theorem bind (h : Adds cs around around') (v : Variable) :
    Adds cs (around.bind v) (around'.bind v) := by
  constructor
  · exact h.commands
  · exact congrArg (v :: ·) h.vars

theorem environment_eq (h : Adds cs around around') (sec : Section) :
    around'.environment sec = around.environment sec := by
  unfold environment nearest?
  rw [h.vars]

theorem enter (h : Adds cs around around') (sec : Section) (e : Element) :
    (∃ f, Lexical.enter sec around e = .error f ∧ Lexical.enter sec around' e = .error f) ∨
      ∃ inner inner', Lexical.enter sec around e = .ok inner ∧
        Lexical.enter sec around' e = .ok inner' ∧ Adds cs inner inner' := by
  have hcommand :
      (∃ f, ((around.environment sec).ofCommandElement e).map around.inherit = .error f ∧
        ((around.environment sec).ofCommandElement e).map around'.inherit = .error f) ∨
      ∃ inner inner', ((around.environment sec).ofCommandElement e).map around.inherit = .ok inner ∧
        ((around.environment sec).ofCommandElement e).map around'.inherit = .ok inner' ∧
        Adds cs inner inner' := by
    cases (around.environment sec).ofCommandElement e with
    | error f => exact .inl ⟨f, rfl, rfl⟩
    | ok commands => exact .inr ⟨_, _, rfl, rfl, h.inherit commands⟩
  unfold Lexical.enter
  rw [h.environment_eq]
  split
  · cases (around.environment sec).ofVariableElement e with
    | error f => exact .inl ⟨f, rfl, rfl⟩
    | ok v => exact .inr ⟨_, _, rfl, rfl, h.bind v⟩
  · exact hcommand

theorem ofRecord (h : Adds cs around around') (e : Element) :
    Reading.Related (Visit.Framed cs) Eq (Lexical.ofRecord sec around e)
      (Lexical.ofRecord sec around' e) := by
  obtain ⟨first, second, hcommands, hcommands'⟩ := h.commands
  unfold Lexical.ofRecord
  rw [Lexical.record_eq, Lexical.record_eq, h.environment_eq, hcommands, hcommands']
  cases (around.environment sec).ofAttributes e with
  | error f => exact .of_fault rfl
  | ok own =>
    cases (around.environment sec).ofChildren e with
    | error f => exact .of_fault rfl
    | ok children =>
      constructor
      · refine .cons ⟨rfl, ?_⟩ .nil
        have hframed := sec.entity.make_framed own.1 (own.2 ++ children ++ first) cs second
        simpa using hframed
      · exact .none

theorem ofRecord_of_nil (h : Adds [] around around') (e : Element) :
    Reading.Related (Visit.Alike Eq) Eq (Lexical.ofRecord sec around e)
      (Lexical.ofRecord sec around' e) := by
  obtain ⟨first, second, hcommands, hcommands'⟩ := h.commands
  have hrecord : Lexical.record sec around' e = Lexical.record sec around e := by
    rw [Lexical.record_eq, Lexical.record_eq, h.environment_eq, hcommands, hcommands',
      List.append_nil]
  unfold Lexical.ofRecord
  rw [hrecord]
  cases Lexical.record sec around e with
  | error f => exact .of_fault rfl
  | ok r =>
    constructor
    · exact .cons ⟨rfl, rfl⟩ .nil
    · exact .none

end Adds
end Surroundings

namespace Lexical

open Surroundings (Adds)

variable {cs : List Command} {sec : Section} {V : Visit → Visit → Prop}

def Relates (sec : Section) (cs : List Command) (V : Visit → Visit → Prop) : Prop :=
  ∀ around around' e, Adds cs around around' →
    Reading.Related V Eq (ofRecord sec around e) (ofRecord sec around' e)

mutual

theorem related_of_adds (hrelates : Relates sec cs V) {around around' : Surroundings}
    (h : Adds cs around around') (n : Node) :
    Reading.Related V Eq (unlimited sec around [n]) (unlimited sec around' [n]) := by
  cases n with
  | element tag children =>
    -- A scope is opened in both surroundings or in neither, and those inside are again related.
    have hscope (hopens : tag.OpensScope) :
        Reading.Related V Eq (unlimited sec around [.element tag children])
          (unlimited sec around' [.element tag children]) := by
      by_cases he : (Element.mk tag children).elements.isEmpty
      · rw [unlimited_of_isEmpty hopens he, unlimited_of_isEmpty hopens he]
        exact .nothing
      · obtain ⟨f, henter, henter'⟩ | ⟨inner, inner', henter, henter', hinner⟩ :=
          h.enter sec ⟨tag, children⟩
        · rw [unlimited_of_enter_error hopens he henter,
            unlimited_of_enter_error hopens he henter']
          exact .of_fault rfl
        · rw [unlimited_of_enter_ok hopens he henter, unlimited_of_enter_ok hopens he henter']
          exact related_of_adds_all hrelates hinner children
    match hkind : ElementKind.ofName tag.name with
    | .record =>
      rw [unlimited_record hkind, unlimited_record hkind]
      exact hrelates around around' ⟨tag, children⟩ h
    | .command => exact hscope (.inl hkind)
    | .variable => exact hscope (.inr hkind)
    | .unknown =>
      rw [unlimited_unknown hkind, unlimited_unknown hkind]
      exact .of_fault rfl
  | text s => exact .nothing
  | comment s => exact .nothing
  | instruction target data => exact .nothing

theorem related_of_adds_all (hrelates : Relates sec cs V) {around around' : Surroundings}
    (h : Adds cs around around') (ns : List Node) :
    Reading.Related V Eq (unlimited sec around ns) (unlimited sec around' ns) := by
  cases ns with
  | nil => exact .nothing
  | cons n ns =>
    rw [unlimited_cons, unlimited_cons around']
    apply Reading.Related.followedBy
    · exact related_of_adds hrelates h n
    · exact related_of_adds_all hrelates h ns

end

end Lexical
end Catalog
