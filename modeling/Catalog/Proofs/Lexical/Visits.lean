import Catalog.Proofs.Lexical.Scope
import Catalog.Proofs.Traversal.Depth
import Catalog.Proofs.Traversal.Repeats
/-!
This module contains the proof that a reading without a fault visits exactly the elements that
records are made of, in document order, and how this shows in what a reader makes.
-/

namespace Catalog

open Xml (Element Node)

namespace Xml.Node

def new (id : String) : Node :=
  .element { written := ⟨none, "new"⟩, attributes := [{ written := ⟨none, "id"⟩, value := id }] } []

def news (ns : List Node) : List Element := (newLevelsAll 1 ns).map (·.1)

mutual

theorem map_fst_newLevels (level level' : Nat) (n : Node) :
    (n.newLevels level).map (·.1) = (n.newLevels level').map (·.1) := by
  cases n with
  | element tag children =>
    unfold newLevels
    match ElementKind.ofName tag.name with
    | .record => rfl
    | .command => apply map_fst_newLevelsAll
    | .variable => apply map_fst_newLevelsAll
    | .unknown => rfl
  | text s => rfl
  | comment s => rfl
  | instruction target data => rfl

theorem map_fst_newLevelsAll (level level' : Nat) (ns : List Node) :
    (newLevelsAll level ns).map (·.1) = (newLevelsAll level' ns).map (·.1) := by
  cases ns with
  | nil => rfl
  | cons n ns =>
    unfold newLevelsAll
    rw [List.map_append, List.map_append, map_fst_newLevels level level' n,
      map_fst_newLevelsAll level level' ns]

end

theorem map_fst_newLevelsAll_eq (level : Nat) (ns : List Node) :
    (newLevelsAll level ns).map (·.1) = news ns := by
  apply map_fst_newLevelsAll

theorem news_append (ns ns' : List Node) : news (ns ++ ns') = news ns ++ news ns' := by
  induction ns with
  | nil => rfl
  | cons n ns ih =>
    unfold news at ih ⊢
    rw [List.cons_append, newLevelsAll, newLevelsAll, List.map_append, List.map_append, ih,
      List.append_assoc]

end Xml.Node

theorem Reading.mem_followedBy {first second : Reading} {v : Visit}
    (h : v ∈ (first.followedBy second).visits) : v ∈ first.visits ∨ v ∈ second.visits := by
  unfold followedBy at h
  cases hfault : first.fault with
  | none =>
    rw [hfault] at h
    exact List.mem_append.mp h
  | some f =>
    rw [hfault] at h
    exact .inl h

theorem Reading.followedBy_visits {first second : Reading} (h : first.fault = none) :
    (first.followedBy second).visits = first.visits ++ second.visits := by
  unfold followedBy
  rw [h]

namespace Lexical

variable {sec : Section} {limit : Option Nat} {level : Nat} {around : Surroundings}

theorem forall_visits_ofScope {p : Visit → Prop} {inside : Surroundings → Reading}
    (h : ∀ around, ∀ v ∈ (inside around).visits, p v) (e : Element)
    (opened : Except Fault (Surroundings × List ScopeKind)) :
    ∀ v ∈ (ofScope limit level e opened inside).visits, p v := by
  unfold ofScope
  cases e.elements with
  | nil => simp
  | cons first others =>
    cases opened with
    | error f => simp
    | ok q =>
      cases limit with
      | none => exact h q.1
      | some n =>
        simp only
        split
        · exact h q.1
        · simp

mutual

theorem record_of_mem_ofNode (limit : Option Nat) (level : Nat) (around : Surroundings) (n : Node) :
    ∀ v ∈ (ofNode sec limit level around n).visits,
      record sec v.around v.element = .ok v.record := by
  cases n with
  | element tag children =>
    unfold ofNode
    match ElementKind.ofName tag.name with
    | .record =>
      intro v hv
      simp only [ofRecord] at hv
      cases hrecord : record sec around ⟨tag, children⟩ with
      | error f => simp [hrecord] at hv
      | ok r =>
        rw [hrecord] at hv
        obtain rfl := List.mem_singleton.mp hv
        exact hrecord
    | .command =>
      apply forall_visits_ofScope
      intro inner
      apply record_of_mem_ofNodes
    | .variable =>
      apply forall_visits_ofScope
      intro inner
      apply record_of_mem_ofNodes
    | .unknown => simp
  | text s => simp [ofNode]
  | comment s => simp [ofNode]
  | instruction target data => simp [ofNode]

theorem record_of_mem_ofNodes (limit : Option Nat) (level : Nat) (around : Surroundings)
    (ns : List Node) :
    ∀ v ∈ (ofNodes sec limit level around ns).visits,
      record sec v.around v.element = .ok v.record := by
  cases ns with
  | nil => simp [ofNodes]
  | cons n ns =>
    intro v hv
    obtain hv | hv := Reading.mem_followedBy hv
    · exact record_of_mem_ofNode limit level around n v hv
    · exact record_of_mem_ofNodes limit level around ns v hv

end

theorem elements_ofScope {e : Element}
    {opened : Except Fault (Surroundings × List ScopeKind)} {inside : Surroundings → Reading}
    (h : (ofScope limit level e opened inside).fault = none)
    (hinside : ∀ around, (inside around).fault = none →
      (inside around).visits.map (·.element) = Node.news e.children) :
    (ofScope limit level e opened inside).visits.map (·.element) = Node.news e.children := by
  by_cases hempty : e.elements.isEmpty
  · rw [ofScope_of_isEmpty hempty, Node.news,
      Node.newLevelsAll_of_elements (List.isEmpty_iff.mp hempty)]
    rfl
  · obtain ⟨inner, scopes, rfl, hlevel, hfault⟩ := exists_of_ofScope hempty h
    rw [ofScope_of_ok hempty scopes inside hlevel]
    exact hinside inner hfault

mutual

theorem elements_ofNode (n : Node) {level : Nat} {around : Surroundings}
    (h : (ofNode sec limit level around n).fault = none) :
    (ofNode sec limit level around n).visits.map (·.element) = (n.newLevels level).map (·.1) := by
  cases n with
  | element tag children =>
    match hkind : ElementKind.ofName tag.name with
    | .record =>
      simp only [ofNode, hkind, ofRecord] at h ⊢
      rw [Node.newLevels, hkind]
      cases hrecord : record sec around ⟨tag, children⟩ with
      | error f => simp [hrecord] at h
      | ok r => rfl
    | .command =>
      simp only [ofNode, hkind] at h ⊢
      rw [Node.newLevels, hkind]
      refine (elements_ofScope h ?_).trans (Node.map_fst_newLevelsAll_eq _ _).symm
      intro inner hinner
      exact elements_ofNodes children hinner
    | .variable =>
      simp only [ofNode, hkind] at h ⊢
      rw [Node.newLevels, hkind]
      refine (elements_ofScope h ?_).trans (Node.map_fst_newLevelsAll_eq _ _).symm
      intro inner hinner
      exact elements_ofNodes children hinner
    | .unknown => simp [ofNode, hkind] at h
  | text s => rfl
  | comment s => rfl
  | instruction target data => rfl

theorem elements_ofNodes (ns : List Node) {level : Nat} {around : Surroundings}
    (h : (ofNodes sec limit level around ns).fault = none) :
    (ofNodes sec limit level around ns).visits.map (·.element) = Node.news ns := by
  cases ns with
  | nil => rfl
  | cons n ns =>
    obtain ⟨hfirst, hothers⟩ := Reading.fault_of_followedBy h
    unfold ofNodes
    rw [Reading.followedBy_visits hfirst, List.map_append, elements_ofNode n hfirst,
      elements_ofNodes ns hothers, ← List.singleton_append, Node.news_append,
      ← Node.map_fst_newLevelsAll_eq level [n], Node.newLevelsAll, Node.newLevelsAll,
      List.append_nil]

end

end Lexical

theorem Reading.harvest_shelf_eq_ok_iff {reading : Reading} {report : Fault → StructureError}
    {rs : List Record} :
    ((reading.harvest .shelf {}).fault.map report).elim
        (.ok ((reading.harvest .shelf {}).visits.map (·.record))) .error = Except.ok rs ↔
      reading.fault = none ∧ (Visit.ids reading.visits).Nodup ∧ reading.records = rs := by
  unfold Reading.harvest
  by_cases hnodup : (Visit.ids reading.visits).Nodup
  · obtain ⟨s, hs⟩ := Keeper.harvest_shelf_of_nodup hnodup reading.fault
    rw [hs]
    cases reading.fault with
    | none => simp [hnodup, Reading.records]
    | some f => simp
  · obtain ⟨before, v, after, id, hvisits, hbefore, hid, hmem⟩ :=
      exists_first_repeat (fun v : Visit => v.record.id) reading.visits hnodup
    obtain ⟨s, hs⟩ := Keeper.harvest_shelf_of_repeat hbefore hid hmem after reading.fault
    rw [← hvisits] at hs
    rw [hs]
    simp [hnodup]

namespace Collector

variable {sec : Section} {reader : Collector Shelf} {rs : List Record}

theorem made_of_readRecords (h : (reader.readRecords sec).1 = .ok rs) :
    List.Forall₂ (fun r e => ∃ around, Lexical.record sec around e = .ok r) rs
      (Node.news sec.element.children) := by
  have hharvest : harvest sec .shelf reader =
      (Lexical.read sec (some sec.settings.maxDepth)).harvest .shelf {} := rfl
  obtain ⟨-, hends⟩ := readRecords_of_harvest hharvest
  obtain ⟨hfault, -, rfl⟩ := Reading.harvest_shelf_eq_ok_iff.mp (hends.symm.trans h)
  rw [← Lexical.elements_ofNodes sec.element.children hfault, Reading.records,
    List.forall₂_map_left_iff, List.forall₂_map_right_iff]
  apply List.forall₂_same.mpr
  intro v hv
  exact ⟨v.around, Lexical.record_of_mem_ofNodes _ _ _ _ v hv⟩

end Collector
end Catalog
