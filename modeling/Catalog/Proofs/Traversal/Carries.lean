import Catalog.Proofs.Lexical.Scope
import Catalog.Proofs.Traversal.Likeness
/-!
This module contains readings that can stand for other ones: whenever the first one ends without a
fault, the second one makes the same records, and so does a reader of it.
-/

namespace Catalog

open Xml (Element Node)

variable {sec : Section} {limit : Option Nat} {level level' : Nat} {around around' : Surroundings}

namespace Reading

def Carries (reading reading' : Reading) : Prop :=
  reading.fault = none → Reading.Alike (fun _ _ => True) reading reading'

theorem carries_of_fault (f : Fault) (visits : List Visit) (scopes : List ScopeKind)
    (reading' : Reading) : Carries ⟨visits, scopes, some f⟩ reading' := by
  intro hfault
  simp at hfault

theorem carries_refl (reading : Reading) : Carries reading reading := by
  intro hfault
  constructor
  · apply List.forall₂_same.mpr
    intro v _
    exact ⟨rfl, trivial⟩
  · rw [hfault]
    exact .none

theorem carries_followedBy {first first' second second' : Reading} (h : Carries first first')
    (h' : Carries second second') :
    Carries (first.followedBy second) (first'.followedBy second') := by
  intro hfault
  obtain ⟨hfirst, hsecond⟩ := fault_of_followedBy hfault
  exact (h hfirst).followedBy (h' hsecond)

end Reading

namespace Lexical

open Reading (Carries carries_refl carries_followedBy carries_of_fault)

theorem carries_ofScope {α : Type} {e e' : Element} (hlevel : level' ≤ level)
    (he : e'.elements.isEmpty = e.elements.isEmpty) {x x' : Except Fault α} (hx : Yields x x')
    {opens opens' : α → Surroundings × List ScopeKind} {inside inside' : Surroundings → Reading}
    (h : ∀ a, x = .ok a → Carries (inside (opens a).1) (inside' (opens' a).1)) :
    Carries (ofScope limit level e (x.map opens) inside)
      (ofScope limit level' e' (x'.map opens') inside') := by
  by_cases hempty : e.elements.isEmpty
  · rw [ofScope_of_isEmpty hempty, ofScope_of_isEmpty (he.trans hempty)]
    apply carries_refl
  · intro hfault
    obtain ⟨around, scopes, hopened, hdeep, hinside⟩ := exists_of_ofScope hempty hfault
    obtain ⟨a, rfl, hopens⟩ := map_eq_ok_iff.mp hopened
    have hempty' : ¬ e'.elements.isEmpty := by
      rw [he]
      exact hempty
    have hcarries := h a rfl
    rw [hopens] at hcarries
    rw [hx a rfl, hopened, ofScope_of_ok hempty scopes inside hdeep]
    unfold Except.map
    rw [ofScope_of_ok hempty' _ inside']
    · exact (hcarries hinside).with_scopes _ _
    · intro n hn
      exact hlevel.trans (hdeep n hn)

theorem carries_ofRecord {e e' : Element}
    (h : Yields (record sec around e) (record sec around' e')) :
    Carries (ofRecord sec around e) (ofRecord sec around' e') := by
  unfold ofRecord
  cases hrecord : record sec around e with
  | error f => apply carries_of_fault
  | ok r =>
    rw [h r hrecord]
    intro _
    constructor
    · exact .cons ⟨rfl, trivial⟩ .nil
    · exact .none

section

variable {tag tag' : Xml.Tag} {children children' : List Node}

theorem carries_command (hlevel : level' ≤ level) (hkind : ElementKind.ofName tag.name = .command)
    (hkind' : ElementKind.ofName tag'.name = .command)
    (he : (Element.mk tag' children').elements.isEmpty =
      (Element.mk tag children).elements.isEmpty)
    (hcommand : Yields ((around.environment sec).ofCommandElement ⟨tag, children⟩)
      ((around'.environment sec).ofCommandElement ⟨tag', children'⟩))
    (hinside : ∀ commands,
      (around.environment sec).ofCommandElement ⟨tag, children⟩ = .ok commands →
        Carries (ofNodes sec limit (level + 1) (around.inherit commands) children)
          (ofNodes sec limit (level' + 1) (around'.inherit commands) children')) :
    Carries (ofNode sec limit level around (.element tag children))
      (ofNode sec limit level' around' (.element tag' children')) := by
  unfold ofNode
  simp only [hkind, hkind']
  exact carries_ofScope (Nat.succ_le_succ hlevel) he hcommand hinside

theorem carries_variable (hlevel : level' ≤ level)
    (hkind : ElementKind.ofName tag.name = .variable)
    (hkind' : ElementKind.ofName tag'.name = .variable)
    (he : (Element.mk tag' children').elements.isEmpty =
      (Element.mk tag children).elements.isEmpty)
    (hvariable : Yields ((around.environment sec).ofVariableElement ⟨tag, children⟩)
      ((around'.environment sec).ofVariableElement ⟨tag', children'⟩))
    (hinside : ∀ u, (around.environment sec).ofVariableElement ⟨tag, children⟩ = .ok u →
      Carries (ofNodes sec limit (level + 1) (around.bind u) children)
        (ofNodes sec limit (level' + 1) (around'.bind u) children')) :
    Carries (ofNode sec limit level around (.element tag children))
      (ofNode sec limit level' around' (.element tag' children')) := by
  unfold ofNode
  simp only [hkind, hkind']
  exact carries_ofScope (Nat.succ_le_succ hlevel) he hvariable hinside

end

end Lexical

namespace Collector

variable {σ : Type} {sec' : Section}

theorem fault_of_drain {k : Keeper σ} {c : Collector σ} (h : (c.drain sec k .fresh).2.1 = none) :
    (Lexical.read sec (some sec.settings.maxDepth)).fault = none := by
  rw [drain_fresh] at h
  simp only [course_error, Option.map_eq_none_iff] at h
  exact Reading.fault_of_harvest h

theorem error_of_readRecords {c : Collector Shelf} {rs : List Record}
    (h : (c.readRecords sec).1 = .ok rs) : (c.drain sec .shelf .fresh).2.1 = none := by
  rw [readRecords_eq] at h
  cases herror : (c.drain sec .shelf .fresh).2.1 with
  | none => rfl
  | some e =>
    rw [herror] at h
    simp at h

section

variable (hcarries : Reading.Carries (Lexical.read sec (some sec.settings.maxDepth))
  (Lexical.read sec' (some sec'.settings.maxDepth)))

include hcarries

theorem drain_of_carries {k : Keeper σ} {c : Collector σ}
    (h : (c.drain sec k .fresh).2.1 = none) :
    (c.drain sec' k .fresh).1 = (c.drain sec k .fresh).1 ∧ (c.drain sec' k .fresh).2.1 = none := by
  obtain ⟨hrecords, fault, fault', hfault, herror, herror'⟩ :=
    drain_of_alike (hcarries (fault_of_drain h)) k c c rfl
  refine ⟨hrecords, ?_⟩
  cases hfault with
  | none => exact herror'
  | some hfault =>
    rw [herror] at h
    simp at h

theorem readRecords_of_carries {c : Collector Shelf} {rs : List Record}
    (h : (c.readRecords sec).1 = .ok rs) (c' : Collector Shelf) :
    (c'.readRecords sec').1 = .ok rs := by
  have halike := hcarries (fault_of_drain (error_of_readRecords h))
  obtain ⟨-, fault, fault', hfault, hread, hread'⟩ := readRecords_of_alike halike c c'
  cases hfault with
  | none =>
    rw [← h, hread]
    exact hread'
  | some hfault =>
    rw [hread] at h
    simp at h

end

end Collector
end Catalog
