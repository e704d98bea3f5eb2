import Catalog.Proofs.Lexical.Harvest
import Catalog.Proofs.Traversal.Moments
/-!
This module contains the proof that a shelf always knows the ids of its records, whoever puts records
on it and whenever it is cleared.
-/

namespace Catalog

namespace Shelf

def ids (s : Shelf) : List String := s.records.filterMap (·.id)

structure Sound (s : Shelf) : Prop where
  mem_seen : ∀ id, id ∈ s.seen ↔ id ∈ s.ids
  nodup : s.ids.Nodup

theorem sound_empty : Sound {} := by
  constructor
  · intro id
    exact Iff.rfl
  · exact List.nodup_nil

theorem ids_of_records_eq {s s' : Shelf} {r : Record} (h : s'.records = s.records ++ [r]) :
    s'.ids = s.ids ++ r.id.toList := by
  unfold ids
  rw [h, List.filterMap_append]
  cases hid : r.id with
  | none => simp [hid]
  | some id => simp [hid]

theorem add_eq_error_iff {s : Shelf} {r : Record} {problem : Problem} :
    s.add r = .error problem ↔ ∃ id, r.id = some id ∧ id ∈ s.seen ∧ problem = .repeatedId id := by
  cases hid : r.id with
  | none => simp [add, hid]
  | some id =>
    by_cases hmem : id ∈ s.seen
    · simp [add, hid, hmem, eq_comm]
    · simp [add, hid, hmem]

theorem Sound.add {s s' : Shelf} {r : Record} (h : s.Sound) (hadd : s.add r = .ok s') :
    s'.Sound := by
  have hids := ids_of_records_eq (Keeper.records_of_shelf_add hadd)
  cases hid : r.id with
  | none =>
    obtain rfl := Except.ok.inj ((Keeper.shelf_add_of_none hid s).symm.trans hadd)
    rw [hid, Option.toList_none, List.append_nil] at hids
    constructor
    · rw [hids]
      exact h.mem_seen
    · rw [hids]
      exact h.nodup
  | some id =>
    rw [hid, Option.toList_some] at hids
    by_cases hmem : id ∈ s.seen
    · simp [Shelf.add, hid, hmem] at hadd
    · obtain rfl := Except.ok.inj ((Keeper.shelf_add_of_not_mem hid hmem).symm.trans hadd)
      constructor
      · intro id'
        simp [hids, h.mem_seen, or_comm]
      · rw [hids, ← List.concat_eq_append]
        exact h.nodup.concat ((h.mem_seen id).not.mp hmem)

theorem kept_of_failed {sec : Section} {c c' : Collector Shelf} {opened : List (Option OpenScope)}
    {stop : Stop} {f : Fault} (h : c.step sec .shelf opened stop = .failed f c') :
    c'.kept = c.kept := by
  obtain rfl | ⟨id, rfl⟩ := Collector.step_failed h
  · rfl
  · rfl

theorem sound_stable (sec : Section) :
    Collector.Stable sec .shelf fun c => c.kept.Sound where
  steps := {
    moved := by
      intro c c' opened opened' stop h hstep
      rw [Collector.kept_of_moved hstep]
      exact h
    yielded := by
      intro c c' opened stop r h hstep
      obtain ⟨e, kept, -, hadd, rfl⟩ := Collector.step_yielded hstep
      exact h.add hadd
    failed := by
      intro c c' opened stop f h hstep
      rw [kept_of_failed hstep]
      exact h
    left := by
      intro c o os h
      rw [← Collector.kept_foldl_leave [o] c] at h
      exact h
    finished := id
  }
  reset _ := sound_empty
  add h hadd := h.add hadd

end Shelf

namespace Session

/--
In every session with a reader the ids that it has seen are at every moment those of its records, and
they are all different. Records are refused just for an id that it has seen, and refusing one changes
nothing that is kept, whether it comes from outside or is made by a traversal.
-/
theorem seen_of_mem_moments (sec : Section) (history : List Move) (m : Move) :
    let s := (fresh {}).run sec .shelf history
    s.collector.kept.Sound ∧
    (∀ x ∈ s.moments sec .shelf m, x.collector.kept.Sound ∧
      ∀ opened stop f c, x.collector.step sec .shelf opened stop = .failed f c →
        c.kept = x.collector.kept) ∧
    ∀ r problem, s.collector.kept.add r = .error problem →
      (∃ id, r.id = some id ∧ id ∈ s.collector.kept.ids ∧ problem = .repeatedId id) ∧
        s.move sec .shelf (.add r) = s := by
  intro s
  have hsound : s.collector.kept.Sound :=
    collector_run (Shelf.sound_stable sec) Shelf.sound_empty history
  refine ⟨hsound, ?_, ?_⟩
  · intro x hx
    refine ⟨forall_collectors (Shelf.sound_stable sec) hsound m x hx, ?_⟩
    intro opened stop f c hstep
    exact Shelf.kept_of_failed hstep
  · intro r problem hadd
    obtain ⟨id, hid, hmem, rfl⟩ := Shelf.add_eq_error_iff.mp hadd
    refine ⟨⟨id, hid, (hsound.mem_seen id).mp hmem, rfl⟩, ?_⟩
    have hrefused : Keeper.shelf.add r s.collector.kept = .error (.repeatedId id) := hadd
    simp only [move, hrefused]

theorem seen_of_mem_moments_added :
    let r : Record := { id := some "a" }
    let s := (fresh {}).run .titled .shelf [.start, .take 0, .start, .add r, .take 1, .take 0, .add r]
    s.collector.kept.add r = .error (.repeatedId "a") ∧ "a" ∈ s.collector.kept.ids := by
  intro r s
  have hadd : s.collector.kept.add r = .error (.repeatedId "a") := by
    with_unfolding_all rfl
  obtain ⟨-, -, hrefuses⟩ := seen_of_mem_moments .titled
    [.start, .take 0, .start, .add r, .take 1, .take 0, .add r] (.add r)
  obtain ⟨⟨id, hid, hmem, -⟩, -⟩ := hrefuses r _ hadd
  obtain rfl : "a" = id := Option.some.inj hid
  exact ⟨hadd, hmem⟩

end Session
end Catalog
