import Catalog.Proofs.Environment
import Catalog.Proofs.Lexical.Basic
/-!
This module contains the laws of lexical reading: what is read of nodes one after the other, and of
an element that opens a scope.
-/

namespace Catalog

open Xml (Element Node)

namespace Xml.Element

theorem elements_append (tag : Tag) (ns ns' : List Node) :
    (Element.mk tag (ns ++ ns')).elements =
      (Element.mk tag ns).elements ++ (Element.mk tag ns').elements := by
  exact List.filterMap_append

theorem elements_ne_nil_of_cons {tag : Tag} {ns : List Node}
    (h : (Element.mk tag ns).elements ≠ []) (n : Node) :
    (Element.mk tag (n :: ns)).elements ≠ [] := by
  rw [← List.singleton_append, elements_append]
  exact List.append_ne_nil_of_right_ne_nil _ h

end Xml.Element

namespace Reading

theorem fault_of_followedBy {first second : Reading} (h : (first.followedBy second).fault = none) :
    first.fault = none ∧ second.fault = none := by
  unfold followedBy at h
  cases hfirst : first.fault with
  | none =>
    rw [hfirst] at h
    exact ⟨rfl, h⟩
  | some f =>
    rw [hfirst] at h
    simp [hfirst] at h

theorem followedBy_assoc (first second third : Reading) :
    (first.followedBy second).followedBy third = first.followedBy (second.followedBy third) := by
  obtain ⟨visits, scopes, fault⟩ := first
  obtain ⟨visits', scopes', fault'⟩ := second
  cases fault with
  | some f => rfl
  | none =>
    cases fault' with
    | some f => rfl
    | none => simp only [followedBy, List.append_assoc]

end Reading

namespace Lexical

variable {sec : Section} {limit : Option Nat} {level : Nat} {around : Surroundings}

theorem ofScope_of_isEmpty {e : Element} (h : e.elements.isEmpty)
    (opened : Except Fault (Surroundings × List ScopeKind)) (inside : Surroundings → Reading) :
    ofScope limit level e opened inside = {} := by
  unfold ofScope
  rw [List.isEmpty_iff.mp h]

theorem ofScope_of_ok {e : Element} (h : ¬ e.elements.isEmpty) (scopes : List ScopeKind)
    (inside : Surroundings → Reading) (hlevel : ∀ n ∈ limit, level ≤ n) :
    ofScope limit level e (.ok (around, scopes)) inside =
      { inside around with scopes := scopes ++ (inside around).scopes } := by
  unfold ofScope
  cases he : e.elements with
  | nil => simp [he] at h
  | cons first others =>
    cases limit with
    | none => rfl
    | some n => exact if_pos (hlevel n rfl)

theorem ofScope_of_error {e : Element} (h : ¬ e.elements.isEmpty) (f : Fault)
    (inside : Surroundings → Reading) :
    ofScope limit level e (.error f) inside = { fault := some f } := by
  unfold ofScope
  cases he : e.elements with
  | nil => simp [he] at h
  | cons first others => rfl

theorem exists_of_ofScope {e : Element} (he : ¬ e.elements.isEmpty)
    {opened : Except Fault (Surroundings × List ScopeKind)} {inside : Surroundings → Reading}
    (h : (ofScope limit level e opened inside).fault = none) :
    ∃ around scopes, opened = .ok (around, scopes) ∧ (∀ n ∈ limit, level ≤ n) ∧
      (inside around).fault = none := by
  unfold ofScope at h
  cases helements : e.elements with
  | nil => simp [helements] at he
  | cons first others =>
    rw [helements] at h
    cases opened with
    | error f => simp at h
    | ok p =>
      obtain ⟨around, scopes⟩ := p
      refine ⟨around, scopes, rfl, ?_⟩
      cases limit with
      | none => exact ⟨by simp, h⟩
      | some n =>
        simp only at h
        split at h
        · next hlevel =>
          refine ⟨?_, h⟩
          intro n' hn'
          rw [← Option.mem_some.mp hn']
          exact hlevel
        · simp at h

section

variable {tag : Xml.Tag} {children : List Node}

theorem exists_of_command (hkind : ElementKind.ofName tag.name = .command)
    (he : ¬ (Element.mk tag children).elements.isEmpty)
    (h : (ofNode sec limit level around (.element tag children)).fault = none) :
    ∃ commands, (around.environment sec).ofCommandElement ⟨tag, children⟩ = .ok commands ∧
      (ofNodes sec limit (level + 1) (around.inherit commands) children).fault = none := by
  unfold ofNode at h
  rw [hkind] at h
  obtain ⟨inner, scopes, hopened, -, hinside⟩ := exists_of_ofScope he h
  obtain ⟨commands, hcommand, hinner⟩ := map_eq_ok_iff.mp hopened
  obtain ⟨rfl, -⟩ := Prod.mk.inj hinner
  exact ⟨commands, hcommand, hinside⟩

theorem exists_of_variable (hkind : ElementKind.ofName tag.name = .variable)
    (he : ¬ (Element.mk tag children).elements.isEmpty)
    (h : (ofNode sec limit level around (.element tag children)).fault = none) :
    ∃ u, (around.environment sec).ofVariableElement ⟨tag, children⟩ = .ok u ∧
      (ofNodes sec limit (level + 1) (around.bind u) children).fault = none := by
  unfold ofNode at h
  rw [hkind] at h
  obtain ⟨inner, scopes, hopened, -, hinside⟩ := exists_of_ofScope he h
  obtain ⟨u, hvariable, hinner⟩ := map_eq_ok_iff.mp hopened
  obtain ⟨rfl, -⟩ := Prod.mk.inj hinner
  exact ⟨u, hvariable, hinside⟩

theorem ofNode_of_isEmpty
    (hkind : ElementKind.ofName tag.name = .command ∨ ElementKind.ofName tag.name = .variable)
    (h : (Element.mk tag children).elements.isEmpty) :
    ofNode sec limit level around (.element tag children) = {} := by
  unfold ofNode
  obtain hkind | hkind := hkind
  · rw [hkind]
    exact ofScope_of_isEmpty h _ _
  · rw [hkind]
    exact ofScope_of_isEmpty h _ _

end

theorem ofNodes_append (limit : Option Nat) (level : Nat) (ns ns' : List Node) :
    ofNodes sec limit level around (ns ++ ns') =
      (ofNodes sec limit level around ns).followedBy (ofNodes sec limit level around ns') := by
  induction ns with
  | nil => rfl
  | cons n ns ih => rw [List.cons_append, ofNodes, ofNodes, ih, Reading.followedBy_assoc]

theorem ofRecord_congr {sec' : Section} (hentity : sec'.entity = sec.entity)
    (hsubstitute : sec'.settings.substitute = sec.settings.substitute) (around : Surroundings)
    (e : Element) : ofRecord sec' around e = ofRecord sec around e := by
  unfold ofRecord record Surroundings.environment
  rw [hentity, hsubstitute]

mutual

theorem ofNode_congr {sec' : Section} (hentity : sec'.entity = sec.entity)
    (hsubstitute : sec'.settings.substitute = sec.settings.substitute) (limit : Option Nat)
    (level : Nat) (around : Surroundings) (n : Node) :
    ofNode sec' limit level around n = ofNode sec limit level around n := by
  cases n with
  | element tag children =>
    have hinside (level : Nat) (around : Surroundings) :=
      ofNodes_congr hentity hsubstitute limit level around children
    unfold ofNode Surroundings.environment
    simp only [hinside, ofRecord_congr hentity hsubstitute, hentity, hsubstitute]
  | text s => rfl
  | comment s => rfl
  | instruction target data => rfl

theorem ofNodes_congr {sec' : Section} (hentity : sec'.entity = sec.entity)
    (hsubstitute : sec'.settings.substitute = sec.settings.substitute) (limit : Option Nat)
    (level : Nat) (around : Surroundings) (ns : List Node) :
    ofNodes sec' limit level around ns = ofNodes sec limit level around ns := by
  cases ns with
  | nil => rfl
  | cons n ns =>
    unfold ofNodes
    rw [ofNode_congr hentity hsubstitute limit level around n,
      ofNodes_congr hentity hsubstitute limit level around ns]

end

theorem ofNodes_with (e : Element) (limit : Option Nat) (level : Nat) (around : Surroundings)
    (ns : List Node) :
    ofNodes { sec with element := e } limit level around ns =
      ofNodes sec limit level around ns := by
  apply ofNodes_congr
  · rfl
  · rfl

end Lexical
end Catalog
