import Catalog.Proofs.Attribution.Reading
import Catalog.Proofs.Attribution.Value
import Catalog.Proofs.Value.Reference
/-!
This module contains what a reader does with references that are ill-formed. It ends with the fault
of a value just if it comes to one that cannot be resolved; so a value with such a reference is
refused wherever it is come to, unless all that is wrong is a line feed at the end of the name.
-/

namespace Catalog

open Xml (Element Attribute)

inductive Environment.StopValue (env : Environment) : Stop → WrittenValue → Prop where
  | command {e : Element} {v : WrittenValue} (hv : env.CommandValue e v) :
    StopValue env (.enter .command e) v
  | binding {e : Element} {name raw : String} (hname : e.attribute? "name" = .ok (some name))
    (hraw : e.attribute? "value" = .ok (some raw)) :
    StopValue env (.enter .variable e) ⟨e, some "value", raw⟩
  | own {e : Element} {a : Attribute} {v : WrittenValue}
    (ha : Reaches (Lexical.ofAttribute env e) e.attributes a) (hv : env.OwnValue e a v) :
    StopValue env (.record e) v
  | child {e child : Element} {own : Option String × List Command} {v : WrittenValue}
    (hown : env.ofAttributes e = .ok own) (hchild : Reaches env.ofChild e.elements child)
    (hv : env.ChildValue child v) : StopValue env (.record e) v

theorem Xml.Element.comparableName_of_comparableNames {e : Element} {names : List String}
    (h : e.comparableNames = .ok names) : e.comparableName = .ok e.name := by
  unfold comparableNames at h
  rw [List.mapM_cons] at h
  obtain ⟨name, hname, -⟩ := bind_eq_ok_iff.mp h
  obtain rfl := eq_of_comparable hname
  exact hname

namespace Environment

variable {env : Environment} {e : Element} {v : WrittenValue}

theorem CommandValue.comparableName (h : env.CommandValue e v) :
    v.element.comparableName = .ok v.element.name := by
  cases h with
  | given _ _ hnames _ _ => exact Element.comparableName_of_comparableNames hnames
  | tag _ hnames _ => exact Element.comparableName_of_comparableNames hnames

theorem ChildValue.comparableName (h : env.ChildValue e v) :
    v.element.comparableName = .ok v.element.name := by
  cases h with
  | text _ hname _ =>
    obtain rfl := Xml.eq_of_comparable hname
    exact hname
  | commands _ hv => exact hv.comparableName

theorem StopValue.comparableName {stop : Stop} {root : Element} (h : env.StopValue stop v)
    (hplaced : stop.Placed root) : v.element.comparableName = .ok v.element.name := by
  cases h with
  | command hv => exact hv.comparableName
  | binding _ _ =>
    cases hplaced with
    | binding _ hname =>
      unfold Element.comparableName
      rw [hname]
      rfl
  | own _ hv =>
    obtain ⟨-, -, rfl⟩ := hv
    cases hplaced with
    | record _ hname =>
      unfold Element.comparableName
      rw [hname]
      rfl
  | child _ _ hv => exact hv.comparableName

end Environment

namespace Collector

section

variable {sec : Section} (hsubstitute : sec.settings.substitute = true) {c : Collector Shelf}
  {opened : List (Option OpenScope)} {f : Fault} (hf : f.IsBadValue)
include hf

theorem build_eq_error_iff {e : Element} :
    (∃ c', c.build sec .shelf e = (.error f, c')) ↔
      (sec.environment c.present.vars).ofAttributes e = .error f ∨
      (∃ own, (sec.environment c.present.vars).ofAttributes e = .ok own) ∧
        (sec.environment c.present.vars).ofChildren e = .error f := by
  unfold build
  simp only
  cases (sec.environment c.present.vars).ofAttributes e with
  | error f' => simp
  | ok own =>
    cases (sec.environment c.present.vars).ofChildren e with
    | error f' => simp
    | ok children =>
      simp only
      split
      · next problem hadd =>
        -- A repeated id is refused too, but not for a value.
        obtain ⟨id, -, -, rfl⟩ := Shelf.add_eq_error_iff.mp hadd
        obtain ⟨err, herr⟩ := hf
        have hne : f ≠ ⟨.repeatedId id, e, none⟩ := by
          rintro rfl
          simp at herr
        simp [hne.symm]
      · simp

include hsubstitute

theorem step_record_eq_failed_iff {e : Element} :
    (∃ c', c.step sec .shelf opened (.record e) = .failed f c') ↔
      ∃ v, (sec.environment c.present.vars).StopValue (.record e) v ∧
        v.Spoils (sec.environment c.present.vars).lookup f := by
  have hsub : (sec.environment c.present.vars).substitute = true := hsubstitute
  have hstep : (∃ c', c.step sec .shelf opened (.record e) = .failed f c') ↔
      ∃ c', c.build sec .shelf e = (.error f, c') := by
    simp only [step]
    split
    · next hbuild => simp [hbuild]
    · next hbuild => simp [hbuild]
  rw [hstep, build_eq_error_iff hf, Environment.ofAttributes_eq_error_iff_spoils hsub hf,
    Environment.ofChildren_eq_error_iff_spoils hsub hf]
  constructor
  · rintro (⟨a, ha, v, hv, hspoils⟩ | ⟨⟨own, hown⟩, child, hchild, v, hv, hspoils⟩)
    · exact ⟨v, .own ha hv, hspoils⟩
    · exact ⟨v, .child hown hchild hv, hspoils⟩
  · rintro ⟨v, hv, hspoils⟩
    cases hv with
    | own ha hv => exact .inl ⟨_, ha, v, hv, hspoils⟩
    | child hown hchild hv => exact .inr ⟨⟨_, hown⟩, _, hchild, v, hv, hspoils⟩

theorem step_enter_eq_failed_iff {kind : ScopeKind} {e : Element} :
    (∃ c', c.step sec .shelf opened (.enter kind e) = .failed f c') ↔
      ∃ v, (sec.environment c.present.vars).StopValue (.enter kind e) v ∧
        v.Spoils (sec.environment c.present.vars).lookup f := by
  have hsub : (sec.environment c.present.vars).substitute = true := hsubstitute
  match kind with
  | .command =>
    have hstep : (∃ c', c.step sec .shelf opened (.enter .command e) = .failed f c') ↔
        (sec.environment c.present.vars).scopeEntry e = .error f := by
      simp only [step]
      split
      · next hentry => simp [hentry]
      · next hentry => simp [hentry]
      · next hentry => simp [hentry]
    rw [hstep, Environment.scopeEntry, map_eq_error_iff,
      Environment.ofCommandElement_eq_error_iff_spoils hsub hf]
    constructor
    · rintro ⟨v, hv, hspoils⟩
      exact ⟨v, .command hv, hspoils⟩
    · rintro ⟨v, hv, hspoils⟩
      cases hv with
      | command hv => exact ⟨v, hv, hspoils⟩
  | .variable =>
    have hstep : (∃ c', c.step sec .shelf opened (.enter .variable e) = .failed f c') ↔
        (sec.environment c.present.vars).ofVariableElement e = .error f := by
      simp only [step]
      split
      · next hv => simp [hv]
      · next hv => simp [hv]
    rw [hstep, Environment.ofVariableElement_eq_error_iff_spoils hsub hf]
    constructor
    · rintro ⟨name, hname, raw, hraw, hspoils⟩
      exact ⟨_, .binding hname hraw, hspoils⟩
    · rintro ⟨v, hv, hspoils⟩
      cases hv with
      | binding hname hraw => exact ⟨_, hname, _, hraw, hspoils⟩

theorem step_eq_failed_iff {stop : Stop} :
    (∃ c', c.step sec .shelf opened stop = .failed f c') ↔
      ∃ v, (sec.environment c.present.vars).StopValue stop v ∧
        v.Spoils (sec.environment c.present.vars).lookup f := by
  have hnothing (hfails : ∀ c', c.step sec .shelf opened stop ≠ .failed f c')
      (hvalues : ∀ v, ¬ (sec.environment c.present.vars).StopValue stop v) :
      (∃ c', c.step sec .shelf opened stop = .failed f c') ↔
        ∃ v, (sec.environment c.present.vars).StopValue stop v ∧
          v.Spoils (sec.environment c.present.vars).lookup f := by
    simp [hfails, hvalues]
  obtain ⟨err, herr⟩ := hf
  -- No value is resolved at the other stops, which fail for reasons of their own.
  cases stop with
  | record e => exact step_record_eq_failed_iff hsubstitute ⟨err, herr⟩
  | enter kind e => exact step_enter_eq_failed_iff hsubstitute ⟨err, herr⟩
  | reach first level =>
    apply hnothing
    · intro c' hstep
      simp only [step] at hstep
      split at hstep
      · simp at hstep
      · obtain ⟨rfl, -⟩ := Outcome.failed.inj hstep
        simp at herr
    · rintro v ⟨⟩
  | leave =>
    apply hnothing
    · intro c' hstep
      simp only [step] at hstep
      split at hstep
      · simp at hstep
      · simp at hstep
      · simp at hstep
    · rintro v ⟨⟩
  | unknown e =>
    apply hnothing
    · intro c' hstep
      obtain ⟨rfl, -⟩ := Outcome.failed.inj hstep
      simp at herr
    · rintro v ⟨⟩

end

theorem exhaust_of_past? {σ : Type} {sec : Section} {k : Keeper σ} {before : List Stop}
    {opened opened' : List (Option OpenScope)} {c c' : Collector σ}
    (h : past? sec k before opened c = some (opened', c')) (rest : List Stop) :
    (exhaust sec k (before ++ rest) opened c).2 = (exhaust sec k rest opened' c').2 := by
  induction before generalizing opened c with
  | nil =>
    obtain ⟨rfl, rfl⟩ := Prod.mk.inj (Option.some.inj h)
    rfl
  | cons stop before ih =>
    rw [List.cons_append]
    cases hstep : c.step sec k opened stop with
    | moved c₁ opened₁ =>
      rw [past?_of_moved hstep] at h
      rw [exhaust_of_moved hstep, ih h]
    | yielded r c₁ =>
      rw [past?_of_yielded hstep] at h
      rw [exhaust_of_yielded hstep, ← ih h]
    | failed f c₁ => simp [past?_of_failed hstep] at h

theorem readRecords_eq_error_iff {sec : Section} {c : Collector Shelf} {error : StructureError} :
    (c.readRecords sec).1 = .error error ↔
      (exhaust sec .shelf sec.stops [] (c.reset .shelf)).2.1 = some error := by
  simp only [readRecords, drain]
  generalize exhaust sec .shelf sec.stops [] (c.reset .shelf) = whole
  obtain ⟨rs, found, c'⟩ := whole
  cases found with
  | none => simp
  | some e => simp

/--
A reader that reads a section comes to resolve the value, and the names of variables stand for what
`lookup` finds there.
-/
def Meets (c : Collector Shelf) (sec : Section) (lookup : String → Option String)
    (v : WrittenValue) : Prop :=
  ∃ before stop after opened c', sec.stops = before ++ stop :: after ∧
    past? sec .shelf before [] (c.reset .shelf) = some (opened, c') ∧
    lookup = (sec.environment c'.present.vars).lookup ∧
    (sec.environment c'.present.vars).StopValue stop v

theorem report_of_stopValue {sec : Section} {env : Environment} {stop : Stop} {v : WrittenValue}
    (hstop : stop ∈ sec.stops) (hv : env.StopValue stop v) (err : ValueError) :
    sec.report ⟨.badValue err, v.element, v.attributeName⟩ =
      sec.told ⟨.badValue err, v.element, v.attributeName⟩ v.element.name := by
  apply sec.report_of_comparable
  · simp
  · exact hv.comparableName (Stop.placed_ofSection sec.element stop hstop)

theorem readRecords_eq_badValue_iff {sec : Section} (hsubstitute : sec.settings.substitute = true)
    {c : Collector Shelf} {error : StructureError} :
    ((c.readRecords sec).1 = .error error ∧ ∃ err, error.problem = .badValue err) ↔
      ∃ lookup v err, c.Meets sec lookup v ∧ resolve? lookup v.raw = .error err ∧
        error = sec.told ⟨.badValue err, v.element, v.attributeName⟩ v.element.name := by
  rw [readRecords_eq_error_iff]
  constructor
  · rintro ⟨herror, err, hproblem⟩
    obtain ⟨before, stop, after, opened, c', f, c'', hstops, hpast, hstep, hend⟩ :=
      exists_failed_stop herror
    rw [hend] at herror
    obtain rfl : sec.report f = error := Option.some.inj herror
    -- A report keeps the problem, unless it tells of a name in its place.
    have hf : f.IsBadValue := by
      obtain hsame | ⟨n, hn⟩ := sec.problem_report f
      · exact ⟨err, hsame ▸ hproblem⟩
      · simp [hn] at hproblem
    obtain ⟨v, hv, err', herr', rfl⟩ := (step_eq_failed_iff hsubstitute hf).mp ⟨c'', hstep⟩
    have hmem : stop ∈ sec.stops := by simp [hstops]
    exact ⟨_, v, err', ⟨before, stop, after, opened, c', hstops, hpast, rfl, hv⟩, herr',
      report_of_stopValue hmem hv err'⟩
  · rintro ⟨lookup, v, err, ⟨before, stop, after, opened, c', hstops, hpast, rfl, hv⟩, herr, rfl⟩
    refine ⟨?_, err, rfl⟩
    have hspoils : v.Spoils (sec.environment c'.present.vars).lookup
        ⟨.badValue err, v.element, v.attributeName⟩ := ⟨err, herr, rfl⟩
    obtain ⟨c'', hstep⟩ : ∃ c'', c'.step sec .shelf opened stop = .failed _ c'' :=
      (step_eq_failed_iff hsubstitute hspoils.isBadValue).mpr ⟨v, hv, hspoils⟩
    have hmem : stop ∈ sec.stops := by simp [hstops]
    rw [hstops, exhaust_of_past? hpast, exhaust_of_failed hstep, report_of_stopValue hmem hv err]

end Collector

namespace Referring

def recordElement (name : String) : Element where
  tag := {
    written := ⟨none, "new"⟩
    attributes := [{ written := ⟨none, "Title"⟩, value := "$(" ++ name ++ ")" }]
  }
  children := []

def variableElement (name : String) : Element where
  tag := {
    written := ⟨none, "variable"⟩
    attributes := [
      { written := ⟨none, "name"⟩, value := name },
      { written := ⟨none, "value"⟩, value := "v" }]
  }
  children := [.element (recordElement name).tag (recordElement name).children]

def ofName (name : String) : Section where
  element := ⟨{ written := ⟨none, "records"⟩ },
    [.element (variableElement name).tag (variableElement name).children]⟩
  entity := Titles.entity
  settings := default

def title (name : String) : WrittenValue := ⟨recordElement name, some "Title", "$(" ++ name ++ ")"⟩

theorem ofVariableElement_eq (name : String) (vars : Scope.Stack Variable) :
    ((ofName name).environment vars).ofVariableElement (variableElement name) =
      .ok { name, value := "v" } := by
  have hname : Xml.comparable "name" = .ok "name" := by
    with_unfolding_all rfl
  have hvalue : Xml.comparable "value" = .ok "value" := by
    with_unfolding_all rfl
  apply Environment.ofVariableElement_eq_ok_iff.mpr
  unfold variableElement Element.attribute? Element.attributes
  refine ⟨?_, "v", ?_, ?_⟩
  · simp only [Element.attribute?.go, hname]
    rfl
  · simp only [Element.attribute?.go, hname, hvalue]
    rfl
  · with_unfolding_all rfl

theorem meets_title (name : String) :
    ∃ lookup, Collector.Meets { kept := {} } (ofName name) lookup (title name) ∧
      lookup name = some "v" := by
  let reader : Collector Shelf := { kept := {} }
  let inside := (reader.reset .shelf).enterVariable { name, value := "v" }
  refine ⟨inside.present.vars.lookup (ofName name).entity, ?_, ?_⟩
  · refine ⟨[.enter .variable (variableElement name), .reach (recordElement name) 2],
      .record (recordElement name), [.leave], [some ⟨1, .variable⟩], inside, ?_, ?_, rfl, ?_⟩
    · rfl
    · simp only [Collector.past?, Collector.step, ofVariableElement_eq]
      rfl
    · have hname : Xml.comparable "Title" = .ok "Title" := by
        with_unfolding_all rfl
      exact .own ⟨[], [], rfl, List.forall_mem_nil _⟩ ⟨hname, .inr (.inr ⟨_, rfl⟩), rfl⟩
  · simp [Scope.Stack.lookup, Scope.Stack.findVariable?, Scope.Stack.push, inside,
      Collector.enterVariable]

end Referring

namespace Collector

open Referring Value

/--
A read comes to a value in which, behind whole tokens, there is a reference with an ill-formed name.
Then it ends with the error of this value, unless that name is a well-formed one with a line feed
behind it, a variable with just this name is there, and what stands in front of the reference and
behind it can be resolved.
-/
theorem readRecords_of_illFormed {sec : Section} (hsubstitute : sec.settings.substitute = true)
    {c : Collector Shelf} {lookup : String → Option String} {v : WrittenValue}
    (hv : c.Meets sec lookup v) {before : List Token} (hbefore : ∀ t ∈ before, t.IsWhole)
    {name after : List Char} (hname : ')' ∉ name)
    (hraw : v.raw.toList = Token.renderAll before ++ ('$' :: '(' :: name ++ [')'] ++ after))
    (hillFormed : ¬ IsWellFormedName name) :
    (∃ err, resolve? lookup v.raw = .error err ∧ (c.readRecords sec).1 =
        .error (sec.told ⟨.badValue err, v.element, v.attributeName⟩ v.element.name)) ↔
      ¬ ((∃ formed, IsWellFormedName formed ∧ name = formed ++ ['\n']) ∧
        (∃ value, lookup (String.ofList name) = some value) ∧
        (∃ text, (resolve lookup (Token.renderAll before)).result = .ok text) ∧
        ∃ text, (resolve lookup after).result = .ok text) := by
  have hresolved : (∃ text, resolve? lookup v.raw = .ok text) ↔
      (∃ formed, IsWellFormedName formed ∧ name = formed ++ ['\n']) ∧
        (∃ value, lookup (String.ofList name) = some value) ∧
        (∃ text, (resolve lookup (Token.renderAll before)).result = .ok text) ∧
        ∃ text, (resolve lookup after).result = .ok text := by
    have hrender : v.raw.toList =
        Token.renderAll before ++ ((Token.reference name).render ++ after) := by
      simpa [Token.render] using hraw
    have hlist : (∃ text, resolve? lookup v.raw = .ok text) ↔
        ∃ text, (resolve lookup v.raw.toList).result = .ok text := by
      constructor
      · rintro ⟨text, htext⟩
        exact ⟨text.toList, resolve?_eq_ok_iff_result.mp htext⟩
      · rintro ⟨text, htext⟩
        exact ⟨String.ofList text, resolve?_eq_ok_iff_result.mpr (by simpa using htext)⟩
    rw [hlist, hrender, resolve_reference_iff hbefore hname, isVariableName_iff,
      or_iff_right hillFormed, and_assoc]
  rw [← hresolved]
  cases hresult : resolve? lookup v.raw with
  | ok text => simp
  | error err =>
    have hread := (readRecords_eq_badValue_iff hsubstitute).mpr ⟨lookup, v, err, hv, hresult, rfl⟩
    simp [hread.1]

theorem readRecords_of_illFormed_digit :
    (ofName "1a").settings.substitute = true ∧ ')' ∉ ['1', 'a'] ∧ ¬ IsWellFormedName ['1', 'a'] ∧
      ∃ lookup, Meets { kept := {} } (ofName "1a") lookup (title "1a") ∧
        lookup "1a" = some "v" ∧
        ∃ err, resolve? lookup "$(1a)" = .error err ∧
          (Collector.readRecords { kept := {} } (ofName "1a")).1 =
            .error ((ofName "1a").told ⟨.badValue err, recordElement "1a", some "Title"⟩ "new") := by
  obtain ⟨lookup, hmeets, hvalue⟩ := meets_title "1a"
  have hclosed : ')' ∉ ['1', 'a'] := by decide
  have hillFormed : ¬ IsWellFormedName ['1', 'a'] := by decide
  have hraw : (title "1a").raw.toList =
      Token.renderAll [] ++ ('$' :: '(' :: ['1', 'a'] ++ [')'] ++ []) := by decide
  refine ⟨rfl, hclosed, hillFormed, lookup, hmeets, hvalue, ?_⟩
  apply (readRecords_of_illFormed rfl hmeets (List.forall_mem_nil _) hclosed hraw hillFormed).mpr
  rintro ⟨⟨formed, ⟨first, others, rfl, hfirst, -⟩, hname⟩, -⟩
  obtain ⟨rfl, -⟩ := List.cons.inj hname
  exact absurd hfirst (by decide)

theorem readRecords_lineFeed :
    (ofName "a\n").settings.substitute = true ∧ ¬ IsWellFormedName ['a', '\n'] ∧
      (∃ lookup, Meets { kept := {} } (ofName "a\n") lookup (title "a\n")) ∧
      (title "a\n").raw = "$(a\n)" ∧
      (Collector.readRecords { kept := {} } (ofName "a\n")).1 =
        .ok [{ properties := [("Title", .text "v")] }] := by
  have hillFormed : ¬ IsWellFormedName ['a', '\n'] := by
    rw [isWellFormedName_cons_iff, List.forall_mem_singleton]
    decide
  obtain ⟨lookup, hmeets, -⟩ := meets_title "a\n"
  refine ⟨rfl, hillFormed, ⟨lookup, hmeets⟩, rfl, ?_⟩
  with_unfolding_all rfl

end Collector
end Catalog
