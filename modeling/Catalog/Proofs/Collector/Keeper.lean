import Catalog.Collector.Keeper
/-!
This module contains what a keeper comes to keep when it gets a number of calls.
-/

namespace Catalog

variable {σ : Type}

def Keeper.obey (k : Keeper σ) : List Call → σ → Except Problem σ
  | [], kept => .ok kept
  | .created id :: calls, kept => k.obey calls (k.create id kept)
  | .added r :: calls, kept =>
    match k.add r kept with
    | .error problem => .error problem
    | .ok kept => k.obey calls kept

def Record.calls (r : Record) : List Call := [.created r.id, .added r]

namespace Keeper

theorem obey_calls {k : Keeper σ} {r : Record} {kept kept' : σ}
    (h : k.add r (k.create r.id kept) = .ok kept') (calls : List Call) :
    k.obey (r.calls ++ calls) kept = k.obey calls kept' := by
  simp only [Record.calls, List.cons_append, List.nil_append, obey, h]

theorem obey_journal (calls before : List Call) :
    Keeper.journal.obey calls before = .ok (before ++ calls) := by
  induction calls generalizing before with
  | nil => simp [obey]
  | cons call calls ih =>
    cases call with
    | created id =>
      rw [obey, ih]
      simp [journal]
    | added r =>
      rw [obey]
      simp only [journal] at ih ⊢
      rw [ih]
      simp

theorem records_of_shelf_add {r : Record} {s s' : Shelf} (h : s.add r = .ok s') :
    s'.records = s.records ++ [r] := by
  unfold Shelf.add at h
  split at h
  · simp only [Except.ok.injEq] at h
    rw [← h]
  · split at h
    · simp at h
    · simp only [Except.ok.injEq] at h
      rw [← h]

theorem records_of_obey_shelf {rs : List Record} {s s' : Shelf}
    (h : Keeper.shelf.obey (rs.flatMap Record.calls) s = .ok s') :
    s'.records = s.records ++ rs := by
  induction rs generalizing s with
  | nil =>
    obtain rfl : s = s' := by simpa [obey] using h
    simp
  | cons r rs ih =>
    rw [List.flatMap_cons] at h
    cases hadd : s.add r with
    | error problem => simp [Record.calls, obey, shelf, hadd] at h
    | ok next =>
      have hcalls : Keeper.shelf.add r (Keeper.shelf.create r.id s) = .ok next := hadd
      rw [obey_calls hcalls] at h
      rw [ih h, records_of_shelf_add hadd]
      simp

end Keeper
end Catalog
