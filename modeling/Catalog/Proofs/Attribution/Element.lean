import Catalog.Proofs.Translation.Outcome
/-!
This module contains the faults that an environment can find with an element, each with the element
and the attribute that it is told of.
-/

namespace Catalog

open Xml (Element Attribute)

theorem value_of_resolve?_eq_error {lookup : String → Option String} {raw : String}
    {err : ValueError} (h : resolve? lookup raw = .error err) : err.value = raw := by
  unfold resolve? at h
  split at h
  · simp at h
  · obtain rfl := Except.error.inj h
    rfl

namespace Environment

/--
The faults that can be found with an element where it stands for commands.
-/
inductive Refuses (env : Environment) (e : Element) : Fault → Prop where
  | undefinedAttribute {a : Attribute} (h : a ∈ e.attributes)
    (hproperty : env.entity.findProperty? a.name = none) :
    Refuses env e ⟨.undefinedProperty a.name, e, some a.name⟩
  | undefinedElement (h : e.attributes = []) (hproperty : env.entity.findProperty? e.name = none) :
    Refuses env e ⟨.undefinedProperty e.name, e, none⟩
  | notCollection {a : Attribute} {p : Property} (h : a ∈ e.attributes)
    (hcommand : CommandElement.ofName? e.name = some .add)
    (hproperty : env.entity.findProperty? a.name = some p) (hcollection : p.collection = false) :
    Refuses env e ⟨.notCollection a.name, e, some a.name⟩
  | badAttribute {a : Attribute} {err : ValueError} (h : a ∈ e.attributes)
    (hsubstitute : env.substitute = true) (hvalue : resolve? env.lookup a.value = .error err) :
    Refuses env e ⟨.badValue err, e, some a.name⟩
  | badText {err : ValueError} (h : e.attributes = []) (hsubstitute : env.substitute = true)
    (hvalue : resolve? env.lookup e.content = .error err) :
    Refuses env e ⟨.badValue err, e, none⟩
  | undefinedCommand (h : e.attributes ≠ []) (hcommand : CommandElement.ofName? e.name = none) :
    Refuses env e ⟨.undefinedCommand e.name, e, none⟩
  | malformedName {name : String} {n : Xml.MalformedName}
    (h : name ∈ e.name :: e.attributes.map (·.name)) (hname : Xml.comparable name = .error n) :
    Refuses env e (Fault.ofName e n)

def RefusesVariable (env : Environment) (e : Element) (f : Fault) : Prop :=
  env.Refuses e f ∨
    ∃ name, name ∉ e.attributes.map (·.name) ∧ f = ⟨.missingAttribute name, e, none⟩

theorem Refuses.substitute_of_badValue {env : Environment} {e : Element} {f : Fault}
    (h : env.Refuses e f) {err : ValueError} (hproblem : f.problem = .badValue err) :
    env.substitute = true := by
  cases h with
  | badAttribute _ hsubstitute _ => exact hsubstitute
  | badText _ hsubstitute _ => exact hsubstitute
  | _ => simp [Fault.ofName] at hproblem

variable {env : Environment} {kind : CommandElement} {e : Element} {a : Attribute} {f : Fault}

theorem refuses_malformed {n : Xml.MalformedName} (h : a ∈ e.attributes)
    (hname : Xml.comparable a.name = .error n) : env.Refuses e (Fault.ofName e n) := by
  refine .malformedName ?_ hname
  exact List.mem_cons_of_mem e.name (List.mem_map_of_mem h)

theorem Rejects.refuses (ha : a ∈ e.attributes)
    (hadd : kind = .add → CommandElement.ofName? e.name = some .add)
    (h : env.Rejects kind e a f) : env.Refuses e f := by
  cases h with
  | undefinedProperty _ hproperty => exact .undefinedAttribute ha hproperty
  | notCollection hkind hproperty hcollection =>
    exact .notCollection ha (hadd hkind) hproperty hcollection
  | badValue _ hsubstitute hvalue => exact .badAttribute ha hsubstitute hvalue

theorem RejectsAll.refuses (hcommand : CommandElement.ofName? e.name = none → e.attributes ≠ [])
    (h : env.RejectsAll e f) : env.Refuses e f := by
  cases h with
  | malformedName hnames =>
    obtain ⟨name, hmem, hname⟩ := Element.exists_of_comparableNames_eq_error hnames
    exact .malformedName hmem hname
  | undefinedCommand _ hkind => exact .undefinedCommand (hcommand hkind) hkind
  | first _ hkind _ hattributes _ ha =>
    apply ha.refuses
    · simp [hattributes]
    · rintro rfl
      exact hkind
  | badTag _ _ hraw hsubstitute hvalue =>
    -- The value that is resolved is that of an attribute, so its fault names one.
    obtain ⟨a, ha, hname, rfl⟩ := Element.exists_of_attribute?_eq_some hraw
    rw [← hname]
    exact .badAttribute ha hsubstitute hvalue

theorem refuses_of_scopeEntry (hcommand : (CommandElement.ofName? e.name).isSome)
    (h : env.scopeEntry e = .error f) : env.Refuses e f := by
  apply (scopeEntry_eq_error_iff.mp h).refuses
  intro hnone
  simp [hnone] at hcommand

theorem refuses_of_ofChild (h : env.ofChild e = .error f) : env.Refuses e f := by
  by_cases hattributes : e.attributes = []
  · cases (ofChild_eq_error_iff hattributes).mp h with
    | malformedName hname => exact .malformedName List.mem_cons_self hname
    | undefinedProperty _ hproperty => exact .undefinedElement hattributes hproperty
    | badValue _ _ hsubstitute hvalue => exact .badText hattributes hsubstitute hvalue
  · rw [ofChild_of_attributes hattributes, ofCommandElement_eq_error_iff_rejectsAll] at h
    exact h.refuses fun _ => hattributes

theorem exists_refuses_of_ofChildren (h : env.ofChildren e = .error f) :
    ∃ child ∈ e.elements, env.Refuses child f := by
  rw [ofChildren_eq_error_iff, mapM_eq_error_iff] at h
  obtain ⟨before, child, after, hchildren, -, hchild⟩ := h
  exact ⟨child, by simp [hchildren], refuses_of_ofChild hchild⟩

theorem refuses_of_ofAttributes (h : env.ofAttributes e = .error f) : env.Refuses e f := by
  rw [ofAttributes_eq_error_iff, mapM_eq_error_iff] at h
  obtain ⟨before, a, after, hattributes, -, ha⟩ := h
  have hmem : a ∈ e.attributes := by simp [hattributes]
  cases ownAttribute_eq_error_iff.mp ha with
  | malformedName hname => exact refuses_malformed hmem hname
  | badId _ _ hsubstitute hvalue => exact .badAttribute hmem hsubstitute hvalue
  | command _ _ hrejects => exact hrejects.refuses hmem (by simp)

theorem refusesVariable_of_required {name : String} (h : required e name = .error f) :
    env.RefusesVariable e f := by
  obtain ⟨n, hn, rfl⟩ | ⟨hnone, rfl⟩ := required_eq_error_iff.mp h
  · obtain ⟨a, ha, hname⟩ := Element.exists_of_attribute?_eq_error hn
    exact .inl (refuses_malformed ha hname)
  · exact .inr ⟨name, Element.not_mem_of_attribute?_eq_none hnone, rfl⟩

theorem refusesVariable_of_ofVariableElement (h : env.ofVariableElement e = .error f) :
    env.RefusesVariable e f := by
  obtain hname | ⟨name, -, hraw | ⟨raw, hraw, hvalue⟩⟩ := ofVariableElement_eq_error_iff.mp h
  · exact refusesVariable_of_required hname
  · exact refusesVariable_of_required hraw
  · obtain ⟨a, ha, hname, rfl⟩ := Element.exists_of_attribute?_eq_some hraw
    obtain ⟨hsubstitute, err, herr, rfl⟩ := value_eq_error_iff.mp hvalue
    rw [← hname]
    exact .inl (.badAttribute ha hsubstitute herr)

end Environment
end Catalog
