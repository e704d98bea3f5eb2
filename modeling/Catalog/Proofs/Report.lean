import Catalog.Collector.Basic
/-!
This module contains what a section tells of a fault. A malformed name is told without a place; so
is any other fault of an element that itself has a malformed name.
-/

namespace Catalog

open Xml (Element)

theorem Place.ofElement_of_comparable {e : Element} {name : String}
    (h : e.comparableName = .ok name) (document attributeName : Option String) :
    Place.ofElement document e attributeName = .ok {
      elementName := some name
      attributeName := attributeName
      line := some e.tag.line
      document := document
      snippet := some (Place.snippetOf e)
    } := by
  unfold Place.ofElement
  rw [h]
  rfl

theorem Place.ofElement_of_malformed {e : Element} {n : Xml.MalformedName}
    (h : e.comparableName = .error n) (document attributeName : Option String) :
    Place.ofElement document e attributeName = .error n := by
  unfold Place.ofElement
  rw [h]
  rfl

def StructureError.withoutSnippet (e : StructureError) : StructureError :=
  { e with place := e.place.map fun place => { place with snippet := none } }

namespace Section

variable (sec : Section) (f : Fault)

theorem report_malformedName {f : Fault} {n : Xml.MalformedName} (h : f.problem = .malformedName n) :
    sec.report f = { problem := .malformedName n, level := sec.settings.level } := by
  unfold report Fault.report
  rw [h]

theorem report_of_malformed (h : ∀ n, f.problem ≠ .malformedName n) {n : Xml.MalformedName}
    (hname : f.element.comparableName = .error n) :
    sec.report f = { problem := .malformedName n, level := sec.settings.level } := by
  unfold report Fault.report
  rw [Place.ofElement_of_malformed hname]
  cases hproblem : f.problem with
  | malformedName n' => exact absurd hproblem (h n')
  | _ => rfl

def told (name : String) : StructureError where
  problem := f.problem
  place := some {
    elementName := some name
    attributeName := f.attributeName
    line := some f.element.tag.line
    document := sec.document
    snippet := some (Place.snippetOf f.element)
  }
  level := sec.settings.level

theorem report_of_comparable (h : ∀ n, f.problem ≠ .malformedName n) {name : String}
    (hname : f.element.comparableName = .ok name) :
    sec.report f = sec.told f name := by
  unfold report Fault.report told
  rw [Place.ofElement_of_comparable hname]
  cases hproblem : f.problem with
  | malformedName n => exact absurd hproblem (h n)
  | _ => rfl

theorem report_of_same (sec' : Section) {f f' : Fault} (hproblem : f'.problem = f.problem)
    (hname : f'.element.name = f.element.name) :
    (∃ n, sec.report f = { problem := .malformedName n, level := sec.settings.level } ∧
      sec'.report f' = { problem := .malformedName n, level := sec'.settings.level }) ∨
    ∃ name, sec.report f = sec.told f name ∧ sec'.report f' = sec'.told f' name := by
  have hcomparable' : f'.element.comparableName = f.element.comparableName :=
    congrArg Xml.comparable hname
  by_cases hmalformed : ∃ n, f.problem = .malformedName n
  · obtain ⟨n, hn⟩ := hmalformed
    exact .inl ⟨n, sec.report_malformedName hn, sec'.report_malformedName (hproblem.trans hn)⟩
  · rw [not_exists] at hmalformed
    have hmalformed' : ∀ n, f'.problem ≠ .malformedName n := by
      rw [hproblem]
      exact hmalformed
    cases hcomparable : f.element.comparableName with
    | error n =>
      exact .inl ⟨n, sec.report_of_malformed f hmalformed hcomparable,
        sec'.report_of_malformed f' hmalformed' (hcomparable'.trans hcomparable)⟩
    | ok name =>
      exact .inr ⟨name, sec.report_of_comparable f hmalformed hcomparable,
        sec'.report_of_comparable f' hmalformed' (hcomparable'.trans hcomparable)⟩

theorem problem_report :
    (sec.report f).problem = f.problem ∨ ∃ n, (sec.report f).problem = .malformedName n := by
  unfold report Fault.report
  split
  · next n hproblem => exact .inl hproblem.symm
  · next n _ _ => exact .inr ⟨n, rfl⟩
  · exact .inl rfl

end Section
end Catalog
