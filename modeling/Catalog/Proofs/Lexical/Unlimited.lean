import Catalog.Proofs.Lexical.Harvest
import Catalog.Proofs.Lexical.Scope
/-!
This module contains lexical reading without a limit on the depth. Then it does not matter at which
level nodes are, and a limit that is high enough comes to the same.
-/

namespace Catalog

open Xml (Element Node)

def Xml.Tag.OpensScope (tag : Tag) : Prop :=
  ElementKind.ofName tag.name = .command ∨ ElementKind.ofName tag.name = .variable

namespace Lexical

variable {sec : Section} {around inner : Surroundings} {tag : Xml.Tag} {children : List Node}

def enter (sec : Section) (around : Surroundings) (e : Element) : Except Fault Surroundings :=
  match ElementKind.ofName e.name with
  | .variable => ((around.environment sec).ofVariableElement e).map around.bind
  | _ => ((around.environment sec).ofCommandElement e).map around.inherit

theorem enter_of_command (h : ElementKind.ofName tag.name = .command) :
    enter sec around ⟨tag, children⟩ =
      ((around.environment sec).ofCommandElement ⟨tag, children⟩).map around.inherit := by
  unfold enter Element.name
  simp only [h]

theorem enter_of_variable (h : ElementKind.ofName tag.name = .variable) :
    enter sec around ⟨tag, children⟩ =
      ((around.environment sec).ofVariableElement ⟨tag, children⟩).map around.bind := by
  unfold enter Element.name
  simp only [h]

section

variable {f : Fault} {cs : List Command} (h : ElementKind.ofName tag.name = .command)

include h

theorem enter_of_commands_ok
    (hcs : (around.environment sec).ofCommandElement ⟨tag, children⟩ = .ok cs) :
    enter sec around ⟨tag, children⟩ = .ok (around.inherit cs) := by
  rw [enter_of_command h, hcs]
  rfl

theorem enter_of_commands_error
    (hf : (around.environment sec).ofCommandElement ⟨tag, children⟩ = .error f) :
    enter sec around ⟨tag, children⟩ = .error f := by
  rw [enter_of_command h, hf]
  rfl

end

def unlimited (sec : Section) (around : Surroundings) (ns : List Node) : Reading :=
  { ofNodes sec none 1 around ns with scopes := [] }

theorem followedBy_without_scopes (first second : Reading) :
    { first.followedBy second with scopes := [] } =
      Reading.followedBy { first with scopes := [] } { second with scopes := [] } := by
  obtain ⟨visits, scopes, fault⟩ := first
  cases fault with
  | none => rfl
  | some f => rfl

theorem ofScope_level (level level' : Nat) (e : Element)
    (opened : Except Fault (Surroundings × List ScopeKind)) (inside : Surroundings → Reading) :
    ofScope none level e opened inside = ofScope none level' e opened inside := by
  unfold ofScope
  cases e.elements with
  | nil => rfl
  | cons first others =>
    cases opened with
    | error f => rfl
    | ok p => rfl

mutual

theorem ofNode_level (level level' : Nat) (around : Surroundings) (n : Node) :
    ofNode sec none level around n = ofNode sec none level' around n := by
  cases n with
  | element tag children =>
    have hinside (around : Surroundings) :=
      ofNodes_level (level + 1) (level' + 1) around children
    unfold ofNode
    match ElementKind.ofName tag.name with
    | .record => rfl
    | .command =>
      simp only [hinside]
      apply ofScope_level
    | .variable =>
      simp only [hinside]
      apply ofScope_level
    | .unknown => rfl
  | text s => rfl
  | comment s => rfl
  | instruction target data => rfl

theorem ofNodes_level (level level' : Nat) (around : Surroundings) (ns : List Node) :
    ofNodes sec none level around ns = ofNodes sec none level' around ns := by
  cases ns with
  | nil => rfl
  | cons n ns =>
    unfold ofNodes
    rw [ofNode_level level level' around n, ofNodes_level level level' around ns]

end

theorem unlimited_congr {sec' : Section} (hentity : sec'.entity = sec.entity)
    (hsubstitute : sec'.settings.substitute = sec.settings.substitute) (around : Surroundings)
    (ns : List Node) : unlimited sec' around ns = unlimited sec around ns := by
  unfold unlimited
  rw [ofNodes_congr hentity hsubstitute]

theorem unlimited_append (around : Surroundings) (ns ns' : List Node) :
    unlimited sec around (ns ++ ns') =
      (unlimited sec around ns).followedBy (unlimited sec around ns') := by
  unfold unlimited
  rw [ofNodes_append, followedBy_without_scopes]

theorem unlimited_cons (around : Surroundings) (n : Node) (ns : List Node) :
    unlimited sec around (n :: ns) =
      (unlimited sec around [n]).followedBy (unlimited sec around ns) := by
  rw [← List.singleton_append, unlimited_append]

theorem unlimited_singleton (around : Surroundings) (n : Node) :
    unlimited sec around [n] = { ofNode sec none 1 around n with scopes := [] } := by
  unfold unlimited ofNodes
  rw [followedBy_without_scopes]
  generalize ofNode sec none 1 around n = reading
  obtain ⟨visits, scopes, fault⟩ := reading
  cases fault with
  | none => simp [Reading.followedBy, ofNodes]
  | some f => rfl

theorem unlimited_record (h : ElementKind.ofName tag.name = .record) :
    unlimited sec around [.element tag children] = ofRecord sec around ⟨tag, children⟩ := by
  rw [unlimited_singleton, ofNode, h]
  unfold ofRecord
  cases record sec around ⟨tag, children⟩ with
  | error f => rfl
  | ok r => rfl

theorem unlimited_unknown (h : ElementKind.ofName tag.name = .unknown) :
    unlimited sec around [.element tag children] =
      { fault := some ⟨.unknownElement tag.name, ⟨tag, children⟩, none⟩ } := by
  rw [unlimited_singleton, ofNode, h]

theorem unlimited_of_isEmpty (h : tag.OpensScope)
    (he : (Element.mk tag children).elements.isEmpty) :
    unlimited sec around [.element tag children] = {} := by
  rw [unlimited_singleton, ofNode_of_isEmpty h he]

section

variable (h : tag.OpensScope) (he : ¬ (Element.mk tag children).elements.isEmpty)

include h he

theorem unlimited_of_enter_ok (henter : enter sec around ⟨tag, children⟩ = .ok inner) :
    unlimited sec around [.element tag children] = unlimited sec inner children := by
  rw [unlimited_singleton, ofNode]
  obtain hkind | hkind := h
  · rw [enter_of_command hkind] at henter
    obtain ⟨commands, hcommands, rfl⟩ := map_eq_ok_iff.mp henter
    simp only [hkind, hcommands, Except.map]
    rw [ofScope_of_ok he _ _ (by simp), ofNodes_level (1 + 1) 1]
    rfl
  · rw [enter_of_variable hkind] at henter
    obtain ⟨v, hv, rfl⟩ := map_eq_ok_iff.mp henter
    simp only [hkind, hv, Except.map]
    rw [ofScope_of_ok he _ _ (by simp), ofNodes_level (1 + 1) 1]
    rfl

theorem unlimited_of_enter_error {f : Fault}
    (henter : enter sec around ⟨tag, children⟩ = .error f) :
    unlimited sec around [.element tag children] = { fault := some f } := by
  rw [unlimited_singleton, ofNode]
  obtain hkind | hkind := h
  · rw [enter_of_command hkind] at henter
    simp only [hkind, map_eq_error_iff.mp henter, Except.map]
    rw [ofScope_of_error he]
  · rw [enter_of_variable hkind] at henter
    simp only [hkind, map_eq_error_iff.mp henter, Except.map]
    rw [ofScope_of_error he]

end

mutual

theorem ofNode_of_sizeOf_le (limit level : Nat) (around : Surroundings) (n : Node)
    (h : level + sizeOf n ≤ limit) :
    ofNode sec (some limit) level around n = ofNode sec none level around n := by
  cases n with
  | element tag children =>
    -- One level down there is less left, so that the limit is never exceeded.
    rw [Node.element.sizeOf_spec] at h
    have hlevel : level + 1 ≤ limit := by omega
    have hinside (around : Surroundings) :=
      ofNodes_of_sizeOf_le limit (level + 1) around children (by omega)
    unfold ofNode ofScope
    simp only [hinside, if_pos hlevel]
  | text s => rfl
  | comment s => rfl
  | instruction target data => rfl

theorem ofNodes_of_sizeOf_le (limit level : Nat) (around : Surroundings) (ns : List Node)
    (h : level + sizeOf ns ≤ limit) :
    ofNodes sec (some limit) level around ns = ofNodes sec none level around ns := by
  cases ns with
  | nil => rfl
  | cons n ns =>
    rw [List.cons.sizeOf_spec] at h
    unfold ofNodes
    rw [ofNode_of_sizeOf_le limit level around n (by omega),
      ofNodes_of_sizeOf_le limit level around ns (by omega)]

end

end Lexical
end Catalog
