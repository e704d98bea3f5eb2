import Catalog.Proofs.Attribution.Reading
import Catalog.Proofs.Escape.Tree
import Catalog.Proofs.Report
import Catalog.Proofs.Traversal.Likeness
/-!
This module contains the proof that reading a tree in which every `$` is written twice comes to what
reading the original tree without any resolution comes to.
-/

namespace Catalog

open Xml (Element Attribute Node)

def Section.verbatim (sec : Section) : Section :=
  { sec with settings := { sec.settings with substitute := false } }

def Section.escaped (sec : Section) : Section :=
  { sec with
    element := sec.element.escape
    settings := { sec.settings with substitute := true } }

theorem Surroundings.escapes (sec : Section) (around around' : Surroundings) :
    (around'.environment sec.escaped).Escapes (around.environment sec.verbatim) := by
  constructor
  · rfl
  · rfl
  · rfl

namespace Lexical

variable (sec : Section)

theorem record_escape {around around' : Surroundings} (h : around'.commands = around.commands)
    (e : Element) :
    record sec.escaped around' e.escape =
      (record sec.verbatim around e).mapError Fault.escape := by
  have henv := Surroundings.escapes sec around around'
  have hattributes : e.escape.attributes = e.attributes.map Attribute.escape := rfl
  unfold record
  simp only
  rw [mapError_bind, mapM_mapError, hattributes, List.mapM_map]
  simp only [Function.comp_def, henv.ownAttribute, henv.ofChildren, mapError_bind, h]
  rfl

def IsEscape (e e' : Element) : Prop := e' = e.escape

theorem alike_escape (f : Fault) : Fault.Alike IsEscape f f.escape := by
  constructor
  · rfl
  · rfl
  · rfl

theorem alike_ofScope_escape {α : Type} {x : Except Fault α} {limit : Option Nat} {level : Nat}
    {e : Element} {opens opens' : α → Surroundings × List ScopeKind}
    {inside inside' : Surroundings → Reading}
    (h : ∀ a, (opens' a).2 = (opens a).2 ∧
      Reading.Alike IsEscape (inside (opens a).1) (inside' (opens' a).1)) :
    Reading.Alike IsEscape (ofScope limit level e (x.map opens) inside)
      (ofScope limit level e.escape ((x.mapError Fault.escape).map opens') inside') := by
  unfold ofScope
  rw [Element.elements_escape]
  cases e.elements with
  | nil => exact .nothing
  | cons first others =>
    cases x with
    | error f => exact .of_fault (alike_escape f) [] []
    | ok a =>
      obtain ⟨hscopes, halike⟩ := h a
      cases limit with
      | none => exact halike.with_scopes _ _
      | some n =>
        simp only [Except.map, Except.mapError, List.map_cons]
        split
        · exact halike.with_scopes _ _
        · exact .of_fault (alike_escape ⟨.tooDeep n, first, none⟩) _ _

theorem alike_ofRecord_escape {around around' : Surroundings}
    (h : around'.commands = around.commands) (e : Element) :
    Reading.Alike IsEscape (ofRecord sec.verbatim around e)
      (ofRecord sec.escaped around' e.escape) := by
  unfold ofRecord
  rw [record_escape sec h]
  cases record sec.verbatim around e with
  | error f => exact .of_fault (alike_escape f) [] []
  | ok r =>
    constructor
    · exact .cons ⟨rfl, rfl⟩ .nil
    · exact .none

mutual

theorem alike_ofNode_escape (limit : Option Nat) (level : Nat) {around around' : Surroundings}
    (h : around'.commands = around.commands) (n : Node) :
    Reading.Alike IsEscape (ofNode sec.verbatim limit level around n)
      (ofNode sec.escaped limit level around' n.escape) := by
  have henv := Surroundings.escapes sec around around'
  cases n with
  | element tag children =>
    have hname : tag.escape.name = tag.name := rfl
    unfold Node.escape ofNode
    rw [hname]
    match ElementKind.ofName tag.name with
    | .record => exact alike_ofRecord_escape sec h ⟨tag, children⟩
    | .command =>
      have hcommands := henv.ofCommandElement ⟨tag, children⟩
      unfold Element.escape at hcommands
      simp only [hcommands]
      apply alike_ofScope_escape (e := ⟨tag, children⟩)
      intro commands
      refine ⟨rfl, ?_⟩
      apply alike_ofNodes_escape
      simp only [Surroundings.inherit, h]
    | .variable =>
      have hvariable := henv.ofVariableElement ⟨tag, children⟩
      unfold Element.escape at hvariable
      simp only [hvariable, map_mapError_map]
      apply alike_ofScope_escape (e := ⟨tag, children⟩)
      intro v
      refine ⟨rfl, ?_⟩
      apply alike_ofNodes_escape
      exact h
    | .unknown => exact .of_fault (alike_escape _) [] []
  | text s => exact .nothing
  | comment s => exact .nothing
  | instruction target data => exact .nothing

theorem alike_ofNodes_escape (limit : Option Nat) (level : Nat) {around around' : Surroundings}
    (h : around'.commands = around.commands) (ns : List Node) :
    Reading.Alike IsEscape (ofNodes sec.verbatim limit level around ns)
      (ofNodes sec.escaped limit level around' (Node.escapeAll ns)) := by
  cases ns with
  | nil => exact .nothing
  | cons n ns =>
    unfold Node.escapeAll ofNodes
    apply Reading.Alike.followedBy
    · apply alike_ofNode_escape limit level h
    · apply alike_ofNodes_escape limit level h

end

end Lexical

theorem Section.report_escape (sec : Section) {f f' : Fault}
    (h : Fault.Alike Lexical.IsEscape f f') :
    (sec.escaped.report f').withoutSnippet = (sec.verbatim.report f).withoutSnippet := by
  have helement : f'.element = f.element.escape := h.element
  have hname : f'.element.name = f.element.name := by
    rw [helement]
    rfl
  obtain ⟨n, hf, hf'⟩ | ⟨name, hf, hf'⟩ :=
    sec.verbatim.report_of_same sec.escaped h.problem hname
  · rw [hf, hf']
    rfl
  · rw [hf, hf']
    simp only [StructureError.withoutSnippet, told, Option.map_some, h.problem, h.attributeName,
      helement]
    rfl

namespace Collector

variable {σ : Type}

theorem alike_read_escape (sec : Section) :
    Reading.Alike Lexical.IsEscape
      (Lexical.read sec.verbatim (some sec.verbatim.settings.maxDepth))
      (Lexical.read sec.escaped (some sec.escaped.settings.maxDepth)) := by
  apply Lexical.alike_ofNodes_escape
  rfl

theorem readRecords_verbatim_ne (sec : Section) (c : Collector Shelf) (err : ValueError) :
    (c.readRecords sec.verbatim).1.mapError (·.problem) ≠ .error (.badValue err) := by
  cases hread : (c.readRecords sec.verbatim).1 with
  | ok rs => simp [Except.mapError]
  | error error =>
    obtain ⟨_, _, _, _, c', f, -, -, -, -, -, hfails, rfl⟩ := exists_fails_of_readRecords hread
    simp only [Except.mapError, ne_eq, Except.error.injEq]
    obtain hproblem | ⟨n, hproblem⟩ := sec.verbatim.problem_report f
    · rw [hproblem]
      intro hbad
      have hsubstitute : false = true := hfails.substitute_of_badValue hbad
      simp at hsubstitute
    · rw [hproblem]
      simp

/--
Read a section once with all values as they stand, and once with every `$` of it written twice and
all values resolved: the records are the same, and so is the error, but for the text of the element
that it is at. No value of the second one is ever malformed.
-/
theorem readRecords_escaped (sec : Section) (reader reader' : Collector Shelf) (k : Keeper σ)
    (c : Collector σ) :
    let plain := reader.readRecords sec.verbatim
    let resolved := reader'.readRecords sec.escaped
    let plainDrain := c.drain sec.verbatim k .fresh
    let resolvedDrain := c.drain sec.escaped k .fresh
    resolved.2.kept.records = plain.2.kept.records ∧
      resolved.1.mapError StructureError.withoutSnippet =
        plain.1.mapError StructureError.withoutSnippet ∧
      (∀ err, resolved.1.mapError (·.problem) ≠ .error (.badValue err)) ∧
      resolvedDrain.1 = plainDrain.1 ∧
      resolvedDrain.2.1.map StructureError.withoutSnippet =
        plainDrain.2.1.map StructureError.withoutSnippet := by
  intro plain resolved plainDrain resolvedDrain
  have halike := alike_read_escape sec
  obtain ⟨hrecords, fault, fault', hfault, hplain, hresolved⟩ :=
    readRecords_of_alike halike reader reader'
  obtain ⟨hdrain, fault₁, fault₁', hfault₁, hplain₁, hresolved₁⟩ :=
    drain_of_alike halike k c c rfl
  have herror : resolved.1.mapError StructureError.withoutSnippet =
      plain.1.mapError StructureError.withoutSnippet := by
    simp only [plain, resolved, hplain, hresolved]
    cases hfault with
    | none => rfl
    | some h => exact congrArg Except.error (sec.report_escape h)
  refine ⟨hrecords, herror, ?_, hdrain, ?_⟩
  · intro err
    have hproblem (x : Except StructureError (List Record)) :
        x.mapError (·.problem) =
          (x.mapError StructureError.withoutSnippet).mapError (·.problem) := by
      rw [mapError_mapError]
      rfl
    rw [hproblem, herror, ← hproblem]
    exact readRecords_verbatim_ne sec reader err
  · simp only [plainDrain, resolvedDrain, hplain₁, hresolved₁]
    cases hfault₁ with
    | none => rfl
    | some h => exact congrArg some (sec.report_escape h)

end Collector
end Catalog
