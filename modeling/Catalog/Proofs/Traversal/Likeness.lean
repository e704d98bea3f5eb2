import Catalog.Proofs.Traversal.Repeats
/-!
This module contains what two readings have in common that make the same records and end with the
same problem, though of elements that are not the same but related to each other. Traversals that
follow such readings cannot be told apart by their records.
-/

namespace Catalog

open Xml (Element)

variable {σ : Type} {R : Element → Element → Prop}

structure Fault.Alike (R : Element → Element → Prop) (f f' : Fault) : Prop where
  problem : f'.problem = f.problem
  attributeName : f'.attributeName = f.attributeName
  element : R f.element f'.element

structure Visit.Alike (R : Element → Element → Prop) (v v' : Visit) : Prop where
  record : v'.record = v.record
  element : R v.element v'.element

structure Reading.Alike (R : Element → Element → Prop) (reading reading' : Reading) : Prop where
  visits : List.Forall₂ (Visit.Alike R) reading.visits reading'.visits
  fault : Option.Rel (Fault.Alike R) reading.fault reading'.fault

structure Harvest.Alike (R : Element → Element → Prop) (h h' : Harvest σ) : Prop where
  visits : List.Forall₂ (Visit.Alike R) h.visits h'.visits
  fault : Option.Rel (Fault.Alike R) h.fault h'.fault

namespace Visit

theorem records_of_alike {visits visits' : List Visit}
    (h : List.Forall₂ (Alike R) visits visits') :
    visits'.map (·.record) = visits.map (·.record) := by
  induction h with
  | nil => rfl
  | cons halike _ ih => rw [List.map_cons, List.map_cons, ih, halike.record]

end Visit

structure Reading.Related (V : Visit → Visit → Prop) (F : Fault → Fault → Prop)
    (reading reading' : Reading) : Prop where
  visits : List.Forall₂ V reading.visits reading'.visits
  fault : Option.Rel F reading.fault reading'.fault

namespace Reading.Related

variable {V : Visit → Visit → Prop} {F : Fault → Fault → Prop}
  {first first' second second' reading reading' : Reading}

theorem nothing : Related V F {} {} := by
  constructor
  · exact .nil
  · exact .none

theorem of_fault {f f' : Fault} (h : F f f') :
    Related V F { fault := some f } { fault := some f' } := by
  constructor
  · exact .nil
  · exact .some h

theorem refl (hV : ∀ v, V v v) (hF : ∀ f, F f f) (reading : Reading) :
    Related V F reading reading := by
  constructor
  · apply List.forall₂_same.mpr
    intro v _
    exact hV v
  · cases reading.fault with
    | none => exact .none
    | some f => exact .some (hF f)

theorem imp {V' : Visit → Visit → Prop} {F' : Fault → Fault → Prop}
    (h : Related V F reading reading') (hV : ∀ v v', V v v' → V' v v') (hF : ∀ f f', F f f' → F' f f') :
    Related V' F' reading reading' := by
  obtain ⟨visits, scopes, fault⟩ := reading
  obtain ⟨visits', scopes', fault'⟩ := reading'
  obtain ⟨hvisits, hfault⟩ := h
  constructor
  · exact hvisits.imp hV
  · cases hfault with
    | none => exact .none
    | some h => exact .some (hF _ _ h)

theorem followedBy (h : Related V F first first') (h' : Related V F second second') :
    Related V F (first.followedBy second) (first'.followedBy second') := by
  obtain ⟨visits, scopes, fault⟩ := first
  obtain ⟨visits', scopes', fault'⟩ := first'
  obtain ⟨hvisits, hfault⟩ := h
  cases hfault with
  | none =>
    constructor
    · exact List.rel_append hvisits h'.visits
    · exact h'.fault
  | some hrelated =>
    constructor
    · exact hvisits
    · exact .some hrelated

theorem fault_eq_none (h : Related V F reading reading') (hfault : reading.fault = none) :
    reading'.fault = none := by
  have hrelated := h.fault
  rw [hfault] at hrelated
  cases hfault' : reading'.fault with
  | none => rfl
  | some f =>
    rw [hfault'] at hrelated
    cases hrelated

theorem harvest (h : Related V F reading reading')
    (hrecord : ∀ v v', V v v' → v'.record = v.record)
    (hrefused : ∀ v v' problem, V v v' → F ⟨problem, v.element, none⟩ ⟨problem, v'.element, none⟩)
    (k : Keeper σ) (kept : σ) :
    List.Forall₂ V (reading.harvest k kept).visits (reading'.harvest k kept).visits ∧
      Option.Rel F (reading.harvest k kept).fault (reading'.harvest k kept).fault := by
  obtain ⟨visits, scopes, fault⟩ := reading
  obtain ⟨visits', scopes', fault'⟩ := reading'
  obtain ⟨hvisits, hfault⟩ := h
  unfold Reading.harvest
  simp only at hvisits hfault ⊢
  induction hvisits generalizing kept with
  | nil => exact ⟨.nil, hfault⟩
  | @cons v v' visits visits' hv _ ih =>
    simp only [Keeper.harvest, hrecord v v' hv]
    cases k.add v.record (k.create v.record.id kept) with
    | error problem => exact ⟨.nil, .some (hrefused v v' problem hv)⟩
    | ok kept' =>
      obtain ⟨hrest, hfault⟩ := ih kept'
      exact ⟨.cons hv hrest, hfault⟩

end Reading.Related

namespace Reading.Alike

theorem nothing : Reading.Alike R {} {} := by
  constructor
  · exact .nil
  · exact .none

theorem of_fault {f f' : Fault} (h : Fault.Alike R f f') (scopes scopes' : List ScopeKind) :
    Reading.Alike R { scopes, fault := some f } { scopes := scopes', fault := some f' } := by
  constructor
  · exact .nil
  · exact .some h

theorem with_scopes {reading reading' : Reading} (h : Reading.Alike R reading reading')
    (scopes scopes' : List ScopeKind) :
    Reading.Alike R { reading with scopes } { reading' with scopes := scopes' } := by
  constructor
  · exact h.visits
  · exact h.fault

theorem related {reading reading' : Reading} (h : Reading.Alike R reading reading') :
    Reading.Related (Visit.Alike R) (Fault.Alike R) reading reading' := by
  constructor
  · exact h.visits
  · exact h.fault

theorem followedBy {first first' second second' : Reading} (h : Reading.Alike R first first')
    (h' : Reading.Alike R second second') :
    Reading.Alike R (first.followedBy second) (first'.followedBy second') := by
  have hrelated := h.related.followedBy h'.related
  constructor
  · exact hrelated.visits
  · exact hrelated.fault

theorem harvest {reading reading' : Reading} (h : Reading.Alike R reading reading')
    (k : Keeper σ) (kept : σ) :
    Harvest.Alike R (reading.harvest k kept) (reading'.harvest k kept) := by
  obtain ⟨hvisits, hfault⟩ := h.related.harvest (fun _ _ hv => hv.record)
    (fun _ _ _ hv => ⟨rfl, rfl, hv.element⟩) k kept
  constructor
  · exact hvisits
  · exact hfault

end Reading.Alike

namespace Collector

variable {sec sec' : Section}

theorem drain_of_alike
    (h : Reading.Alike R (Lexical.read sec (some sec.settings.maxDepth))
      (Lexical.read sec' (some sec'.settings.maxDepth)))
    (k : Keeper σ) (c c' : Collector σ) (hkept : k.renew c'.kept = k.renew c.kept) :
    (c'.drain sec' k .fresh).1 = (c.drain sec k .fresh).1 ∧
      ∃ fault fault', Option.Rel (Fault.Alike R) fault fault' ∧
        (c.drain sec k .fresh).2.1 = fault.map sec.report ∧
        (c'.drain sec' k .fresh).2.1 = fault'.map sec'.report := by
  have hharvest := h.harvest k (k.renew c.kept)
  rw [drain_fresh, drain_fresh, course_records, course_records, course_error, course_error]
  unfold Collector.harvest
  rw [hkept]
  exact ⟨Visit.records_of_alike hharvest.visits, _, _, hharvest.fault, rfl, rfl⟩

theorem readRecords_of_alike
    (h : Reading.Alike R (Lexical.read sec (some sec.settings.maxDepth))
      (Lexical.read sec' (some sec'.settings.maxDepth)))
    (c c' : Collector Shelf) :
    (c'.readRecords sec').2.kept.records = (c.readRecords sec).2.kept.records ∧
      ∃ fault fault', Option.Rel (Fault.Alike R) fault fault' ∧
        (c.readRecords sec).1 =
          (fault.map sec.report).elim (.ok (c.readRecords sec).2.kept.records) .error ∧
        (c'.readRecords sec').1 =
          (fault'.map sec'.report).elim (.ok (c.readRecords sec).2.kept.records) .error := by
  have hharvest := h.harvest Keeper.shelf {}
  have hsame := Visit.records_of_alike hharvest.visits
  obtain ⟨hkept, hread⟩ := readRecords_of_harvest (Eq.refl (harvest sec .shelf c))
  obtain ⟨hkept', hread'⟩ := readRecords_of_harvest (Eq.refl (harvest sec' .shelf c'))
  have hrecords : (c'.readRecords sec').2.kept.records = (c.readRecords sec).2.kept.records := by
    rw [hkept, hkept']
    exact hsame
  rw [← hkept] at hread
  rw [← hkept', hrecords] at hread'
  exact ⟨hrecords, _, _, hharvest.fault, hread, hread'⟩

theorem same_of_alike {α : Type} {g : StructureError → α}
    (h : Reading.Alike R (Lexical.read sec (some sec.settings.maxDepth))
      (Lexical.read sec' (some sec'.settings.maxDepth)))
    (hreport : ∀ f f', Fault.Alike R f f' → g (sec'.report f') = g (sec.report f))
    (reader reader' : Collector Shelf) (k : Keeper σ) (c : Collector σ) :
    (reader'.readRecords sec').2.kept.records = (reader.readRecords sec).2.kept.records ∧
      (reader'.readRecords sec').1.mapError g = (reader.readRecords sec).1.mapError g ∧
      (c.drain sec' k .fresh).1 = (c.drain sec k .fresh).1 ∧
      (c.drain sec' k .fresh).2.1.map g = (c.drain sec k .fresh).2.1.map g := by
  obtain ⟨hrecords, _, _, hfault, hread, hread'⟩ := readRecords_of_alike h reader reader'
  obtain ⟨hdrain, _, _, hfault₁, hdrained, hdrained'⟩ := drain_of_alike h k c c rfl
  refine ⟨hrecords, ?_, hdrain, ?_⟩
  · rw [hread, hread']
    cases hfault with
    | none => rfl
    | some hf => exact congrArg Except.error (hreport _ _ hf)
  · rw [hdrained, hdrained']
    cases hfault₁ with
    | none => rfl
    | some hf => exact congrArg some (hreport _ _ hf)

end Collector
end Catalog
