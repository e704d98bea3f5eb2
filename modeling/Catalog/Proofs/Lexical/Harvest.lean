import Catalog.Collector.Keeper
import Catalog.Proofs.Lexical.Basic
import Mathlib.Data.List.Nodup
/-!
This module contains what comes of a reading when its records are handed to a keeper, who may refuse
one of them. A shelf refuses the first one whose id it has seen.
-/

namespace Catalog

variable {σ : Type}

structure Harvest (σ : Type) where
  visits : List Visit
  fault : Option Fault
  kept : σ

namespace Harvest

def after (visits : List Visit) (h : Harvest σ) : Harvest σ :=
  { h with visits := visits ++ h.visits }

end Harvest

def Keeper.Accepting (k : Keeper σ) : Prop := ∀ r kept, ∃ kept', k.add r kept = .ok kept'

theorem Keeper.journal_accepting : Keeper.journal.Accepting := by
  intro r calls
  exact ⟨calls ++ [.added r], rfl⟩

def Keeper.harvest (k : Keeper σ) (fault : Option Fault) : List Visit → σ → Harvest σ
  | [], kept => ⟨[], fault, kept⟩
  | v :: visits, kept =>
    match k.add v.record (k.create v.record.id kept) with
    | .error problem => ⟨[], some ⟨problem, v.element, none⟩, kept⟩
    | .ok kept => (k.harvest fault visits kept).after [v]

namespace Reading

def harvest (reading : Reading) (k : Keeper σ) (kept : σ) : Harvest σ :=
  k.harvest reading.fault reading.visits kept

theorem harvest_with_scopes (reading : Reading) (scopes : List ScopeKind) (k : Keeper σ)
    (kept : σ) : { reading with scopes }.harvest k kept = reading.harvest k kept := by
  rfl

theorem fault_of_harvest {k : Keeper σ} {fault : Option Fault} {visits : List Visit} {kept : σ}
    (h : (k.harvest fault visits kept).fault = none) : fault = none := by
  induction visits generalizing kept with
  | nil => exact h
  | cons v visits ih =>
    simp only [Keeper.harvest] at h
    split at h
    · simp at h
    · exact ih h

theorem harvest_append_of_fault {k : Keeper σ} {first : List Visit} {kept : σ} {f : Fault}
    (h : (k.harvest none first kept).fault = some f) (second : List Visit)
    (fault : Option Fault) :
    k.harvest fault (first ++ second) kept = k.harvest none first kept := by
  induction first generalizing kept with
  | nil => simp [Keeper.harvest] at h
  | cons v first ih =>
    simp only [List.cons_append, Keeper.harvest] at h ⊢
    split
    · rfl
    · next kept' hadd =>
      rw [hadd] at h
      rw [ih h]

theorem harvest_append_of_no_fault {k : Keeper σ} {first : List Visit} {kept : σ}
    (h : (k.harvest none first kept).fault = none) (second : List Visit) (fault : Option Fault) :
    k.harvest fault (first ++ second) kept =
      (k.harvest fault second (k.harvest none first kept).kept).after
        (k.harvest none first kept).visits := by
  induction first generalizing kept with
  | nil => rfl
  | cons v first ih =>
    simp only [List.cons_append, Keeper.harvest] at h ⊢
    split
    · next problem hadd =>
      rw [hadd] at h
      simp at h
    · next kept' hadd =>
      rw [hadd] at h
      rw [ih h]
      rfl

theorem harvest_followedBy_of_fault {first : Reading} {k : Keeper σ} {kept : σ} {f : Fault}
    (h : (first.harvest k kept).fault = some f) (second : Reading) :
    (first.followedBy second).harvest k kept = first.harvest k kept := by
  unfold harvest at h ⊢
  cases hfault : first.fault with
  | some f => simp only [followedBy, hfault]
  | none =>
    rw [hfault] at h
    simp only [followedBy, hfault]
    exact harvest_append_of_fault h second.visits second.fault

theorem harvest_followedBy_of_no_fault {first : Reading} {k : Keeper σ} {kept : σ}
    (h : (first.harvest k kept).fault = none) (second : Reading) :
    (first.followedBy second).harvest k kept =
      (second.harvest k (first.harvest k kept).kept).after (first.harvest k kept).visits := by
  unfold harvest at h ⊢
  have hfault : first.fault = none := fault_of_harvest h
  rw [hfault] at h
  simp only [followedBy, hfault]
  exact harvest_append_of_no_fault h second.visits second.fault

theorem harvest_of_accepting {k : Keeper σ} (hk : k.Accepting) (reading : Reading) (kept : σ) :
    ∃ kept', reading.harvest k kept = ⟨reading.visits, reading.fault, kept'⟩ := by
  unfold harvest
  generalize reading.visits = visits
  induction visits generalizing kept with
  | nil => exact ⟨kept, rfl⟩
  | cons v visits ih =>
    obtain ⟨next, hadd⟩ := hk v.record (k.create v.record.id kept)
    obtain ⟨kept', h⟩ := ih next
    refine ⟨kept', ?_⟩
    simp only [Keeper.harvest, hadd, h]
    rfl

theorem harvest_journal (reading : Reading) (calls : List Call) :
    ∃ calls', reading.harvest .journal calls = ⟨reading.visits, reading.fault, calls'⟩ := by
  exact harvest_of_accepting Keeper.journal_accepting reading calls

theorem harvest_visits_isPrefix (reading : Reading) (k : Keeper σ) (kept : σ) :
    (reading.harvest k kept).visits <+: reading.visits := by
  unfold harvest
  generalize reading.visits = visits
  induction visits generalizing kept with
  | nil => exact List.prefix_rfl
  | cons v visits ih =>
    rw [Keeper.harvest]
    split
    · exact List.nil_prefix
    · next kept' _ => exact List.cons_prefix_cons.mpr ⟨rfl, ih kept'⟩

end Reading

namespace Visit

def ids (visits : List Visit) : List String := visits.filterMap (·.record.id)

theorem ids_cons_of_none {v : Visit} (h : v.record.id = none) (visits : List Visit) :
    ids (v :: visits) = ids visits := by
  exact List.filterMap_cons_none h

theorem ids_cons_of_some {v : Visit} {id : String} (h : v.record.id = some id)
    (visits : List Visit) : ids (v :: visits) = id :: ids visits := by
  exact List.filterMap_cons_some h

end Visit

namespace Keeper

theorem shelf_add_of_none {r : Record} (h : r.id = none) (s : Shelf) :
    Keeper.shelf.add r s = .ok { s with records := s.records ++ [r] } := by
  simp only [shelf, Shelf.add, h]

theorem shelf_add_of_not_mem {r : Record} {id : String} {s : Shelf} (h : r.id = some id)
    (hid : id ∉ s.seen) :
    Keeper.shelf.add r s = .ok { records := s.records ++ [r], seen := id :: s.seen } := by
  simp only [shelf, Shelf.add, h, if_neg hid]

theorem shelf_add_of_mem {r : Record} {id : String} {s : Shelf} (h : r.id = some id)
    (hid : id ∈ s.seen) : Keeper.shelf.add r s = .error (.repeatedId id) := by
  simp only [shelf, Shelf.add, h, if_pos hid]

theorem harvest_shelf_append {visits : List Visit} {s : Shelf}
    (h : ((Visit.ids visits).reverse ++ s.seen).Nodup) :
    ∃ s' : Shelf, s'.seen = (Visit.ids visits).reverse ++ s.seen ∧
      ∀ (fault : Option Fault) (rest : List Visit),
        Keeper.shelf.harvest fault (visits ++ rest) s =
          (Keeper.shelf.harvest fault rest s').after visits := by
  induction visits generalizing s with
  | nil => exact ⟨s, rfl, fun _ _ => rfl⟩
  | cons v visits ih =>
    cases hid : v.record.id with
    | none =>
      rw [Visit.ids_cons_of_none hid] at h ⊢
      obtain ⟨s', hseen, hharvest⟩ := ih (s := { s with records := s.records ++ [v.record] }) h
      refine ⟨s', hseen, ?_⟩
      intro fault rest
      have hadd := shelf_add_of_none hid (Keeper.shelf.create v.record.id s)
      simp only [List.cons_append, harvest, hadd]
      exact congrArg (Harvest.after [v]) (hharvest fault rest)
    | some id =>
      rw [Visit.ids_cons_of_some hid, List.reverse_cons, List.append_assoc] at h ⊢
      have hfresh : id ∉ s.seen := by
        have hcons := (List.nodup_append.mp h).2.1
        exact (List.nodup_cons.mp hcons).1
      obtain ⟨s', hseen, hharvest⟩ :=
        ih (s := { records := s.records ++ [v.record], seen := id :: s.seen }) h
      refine ⟨s', hseen, ?_⟩
      intro fault rest
      have hadd := shelf_add_of_not_mem hid (s := Keeper.shelf.create v.record.id s) hfresh
      simp only [List.cons_append, harvest, hadd]
      exact congrArg (Harvest.after [v]) (hharvest fault rest)

theorem harvest_shelf_of_nodup {visits : List Visit} (h : (Visit.ids visits).Nodup)
    (fault : Option Fault) :
    ∃ s, Keeper.shelf.harvest fault visits {} = ⟨visits, fault, s⟩ := by
  have hfresh : ((Visit.ids visits).reverse ++ ({} : Shelf).seen).Nodup := by simpa using h
  obtain ⟨s, -, hharvest⟩ := harvest_shelf_append hfresh
  refine ⟨s, ?_⟩
  rw [← List.append_nil visits, hharvest]
  simp only [harvest, Harvest.after, List.append_nil]

theorem harvest_shelf_of_repeat {before : List Visit} (h : (Visit.ids before).Nodup)
    {v : Visit} {id : String} (hid : v.record.id = some id) (hmem : id ∈ Visit.ids before)
    (after : List Visit) (fault : Option Fault) :
    ∃ s, Keeper.shelf.harvest fault (before ++ v :: after) {} =
      ⟨before, some ⟨.repeatedId id, v.element, none⟩, s⟩ := by
  have hfresh : ((Visit.ids before).reverse ++ ({} : Shelf).seen).Nodup := by simpa using h
  obtain ⟨s, hseen, hharvest⟩ := harvest_shelf_append hfresh
  have hadd : Keeper.shelf.add v.record (Keeper.shelf.create v.record.id s) =
      .error (.repeatedId id) := by
    apply shelf_add_of_mem hid
    simpa [Keeper.shelf, hseen] using hmem
  refine ⟨s, ?_⟩
  rw [hharvest, harvest]
  simp only [hadd, Harvest.after, List.append_nil]

end Keeper
end Catalog
