import Catalog.Proofs.Traversal.Takes
/-!
This module contains how a traversal ends: run to its end, failed or closed, it leaves all scopes
that it opened, and it has kept what it made.
-/

namespace Catalog

variable {σ : Type}

namespace Collector

theorem final_current (sec : Section) (k : Keeper σ) (stops : List Stop)
    (opened : List (Option OpenScope)) (c : Collector σ) :
    (trace sec k stops opened c).final.current = none := by
  induction stops generalizing opened c with
  | nil => rfl
  | cons stop stops ih =>
    cases hstep : c.step sec k opened stop with
    | moved c opened =>
      rw [trace_of_moved hstep]
      apply ih
    | yielded r c =>
      rw [trace_of_yielded hstep]
      apply ih
    | failed f c =>
      rw [trace_of_failed hstep]
      rfl

theorem Balanced.final {sec : Section} {k : Keeper σ} {stops : List Stop}
    {opened : List (Option OpenScope)} {c : Collector σ} {others : List OpenScope}
    (h : c.Balanced (opened.reduceOption ++ others)) :
    (trace sec k stops opened c).final.Balanced others := by
  induction stops generalizing opened c with
  | nil => exact h.finish
  | cons stop stops ih =>
    cases hstep : c.step sec k opened stop with
    | moved c opened =>
      rw [trace_of_moved hstep]
      exact ih (h.moved hstep)
    | yielded r c =>
      rw [trace_of_yielded hstep]
      exact ih (h.yielded hstep)
    | failed f c =>
      rw [trace_of_failed hstep]
      exact (h.failed hstep).finish

theorem kept_foldl_leave (os : List OpenScope) (c : Collector σ) :
    (os.foldl leave c).kept = c.kept := by
  induction os generalizing c with
  | nil => rfl
  | cons o os ih =>
    rw [List.foldl_cons, ih]
    unfold leave
    split
    · rfl
    · rfl

theorem kept_finish (c : Collector σ) (opened : List (Option OpenScope)) :
    (c.finish opened).kept = c.kept := by
  apply kept_foldl_leave

theorem final_kept (sec : Section) (k : Keeper σ) (stops : List Stop)
    (opened : List (Option OpenScope)) (c : Collector σ) :
    ∃ kept, k.obey ((trace sec k stops opened c).records.flatMap Record.calls) c.kept = .ok kept ∧
      ((trace sec k stops opened c).final.kept = kept ∨
        ∃ id, (trace sec k stops opened c).final.kept = k.create id kept) := by
  induction stops generalizing opened c with
  | nil => exact ⟨c.kept, rfl, .inl (kept_finish c opened)⟩
  | cons stop stops ih =>
    cases hstep : c.step sec k opened stop with
    | moved c' opened =>
      rw [trace_of_moved hstep, ← kept_of_moved hstep]
      apply ih
    | yielded r c' =>
      rw [trace_of_yielded hstep]
      obtain ⟨e, kept, -, hadd, rfl⟩ := step_yielded hstep
      obtain ⟨kept', hkept', hfinal⟩ := ih opened { c with kept, current := some e }
      refine ⟨kept', ?_, hfinal⟩
      simp only [Trace.records, Trace.after, List.map_cons, List.cons_append, List.nil_append,
        List.flatMap_cons]
      rw [Keeper.obey_calls hadd]
      exact hkept'
    | failed f c' =>
      rw [trace_of_failed hstep]
      refine ⟨c.kept, rfl, ?_⟩
      simp only [kept_finish]
      obtain rfl | ⟨id, rfl⟩ := step_failed hstep
      · exact .inl rfl
      · exact .inr ⟨id, rfl⟩

theorem takeMany_of_over {sec : Section} {k : Keeper σ} {n : Nat} {stops : List Stop}
    {opened : List (Option OpenScope)} {c : Collector σ}
    (h : (takeMany sec k n (.paused stops opened) c).2.1 = .over) :
    (takeMany sec k n (.paused stops opened) c).2.2 = (trace sec k stops opened c).final := by
  induction n generalizing stops opened c with
  | zero => simp [takeMany] at h
  | succ n ih =>
    have hnext : c.next sec k (.paused stops opened) = _ := advance_eq_trace sec k stops opened c
    rw [takeMany] at h ⊢
    cases hrests : (trace sec k stops opened c).rests with
    | nil =>
      rw [hrests] at hnext
      cases herror : (trace sec k stops opened c).error with
      | none =>
        rw [herror] at hnext
        simp only [hnext, takeMany_over]
      | some e =>
        rw [herror] at hnext
        simp only [hnext, takeMany_over]
    | cons r rests =>
      rw [hrests] at hnext
      simp only [hnext] at h ⊢
      rw [trace_of_rest hrests]
      exact ih h

end Collector
end Catalog
