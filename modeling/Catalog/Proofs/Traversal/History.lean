import Catalog.Proofs.Collector.Alike
import Catalog.Proofs.Traversal.Prefix
import Catalog.Proofs.Traversal.Session
/-!
This module contains the proof that a new traversal does not see what was done in a session before
it, as long as it is the only one that goes on.
-/

namespace Catalog

variable {σ : Type}

def Move.Spares (i : Nat) : Move → Prop
  | .start => True
  | .take j => j = i
  | .close j => j ≠ i
  | _ => False

instance (i : Nat) : (m : Move) → Decidable (m.Spares i)
  | .start => isTrue trivial
  | .take j => inferInstanceAs (Decidable (j = i))
  | .close j => inferInstanceAs (Decidable (j ≠ i))
  | .read => isFalse id
  | .reset => isFalse id
  | .add _ => isFalse id

namespace Collector

section

variable {R : σ → σ → Prop} {g g' : Nat} {c c' : Collector σ} {k : Keeper σ}

theorem Alike.leave_earlier (hc : Alike R g g' c c') {o : OpenScope} (ho : o.generation < g) :
    Alike R g g' (c.leave o) c' := by
  -- The present scopes are not those in which it was opened.
  have hne : o.generation ≠ c.generation := by
    rw [hc.generation]
    omega
  unfold Collector.leave
  rw [if_neg hne]
  constructor
  · exact hc.kept
  · exact hc.present
  · rw [← hc.generation]
    simp [Collector.generation]
  · exact hc.generation'

theorem Alike.leaveAll_earlier (hc : Alike R g g' c c') {os : List OpenScope}
    (hos : ∀ o ∈ os, o.generation < g) : Alike R g g' (os.foldl Collector.leave c) c' := by
  induction os generalizing c with
  | nil => exact hc
  | cons o os ih =>
    rw [List.foldl_cons]
    apply ih
    · exact hc.leave_earlier (hos o List.mem_cons_self)
    · intro o' ho'
      exact hos o' (List.mem_cons_of_mem o ho')

theorem Alike.close_earlier (hc : Alike R g g' c c') {t : Traversal}
    (ht : ∀ o ∈ t.opened, o.generation < g) : Alike R g g' (c.close t) c' := by
  match t, ht with
  | .fresh, _ => exact hc
  | .paused stops opened, ht =>
    have hleave := hc.leaveAll_earlier ht
    exact hleave.with_kept hleave.kept none c'.current
  | .over, _ => exact hc

theorem exhaust_alike (hk : k.Bisimulation R) (sec : Section) (stops : List Stop)
    {opened opened' : List (Option OpenScope)} (hc : Alike R g g' c c')
    (h : List.Forall₂ (OpenScope.Alike g g') opened opened') :
    (exhaust sec k stops opened c).1 = (exhaust sec k stops opened' c').1 ∧
      (exhaust sec k stops opened c).2.1 = (exhaust sec k stops opened' c').2.1 ∧
      Alike R g g' (exhaust sec k stops opened c).2.2 (exhaust sec k stops opened' c').2.2 := by
  induction stops generalizing opened opened' c c' with
  | nil => exact ⟨rfl, rfl, hc.finish h⟩
  | cons stop stops ih =>
    have hstep := step_alike hk hc h sec stop
    unfold exhaust
    generalize c.step sec k opened stop = outcome at hstep
    generalize c'.step sec k opened' stop = outcome' at hstep
    cases hstep with
    | moved hc h => exact ih hc h
    | yielded r hc =>
      obtain ⟨hrecords, herror, hfinal⟩ := ih hc h
      exact ⟨congrArg (r :: ·) hrecords, herror, hfinal⟩
    | failed f hc => exact ⟨rfl, rfl, hc.finish h⟩

end

theorem drain_fresh_alike {R : σ → σ → Prop} {k : Keeper σ} (hk : k.Bisimulation R)
    (sec : Section) (c c' : Collector σ) :
    (c.drain sec k .fresh).1 = (c'.drain sec k .fresh).1 ∧
      (c.drain sec k .fresh).2.1 = (c'.drain sec k .fresh).2.1 ∧
      R (c.drain sec k .fresh).2.2.kept (c'.drain sec k .fresh).2.2.kept := by
  obtain ⟨hrecords, herror, hfinal⟩ := exhaust_alike hk sec sec.stops (Alike.reset hk c c') .nil
  exact ⟨hrecords, herror, hfinal.kept⟩

theorem readRecords_eq (c : Collector Shelf) (sec : Section) :
    c.readRecords sec =
      ((c.drain sec .shelf .fresh).2.1.elim (.ok (c.drain sec .shelf .fresh).2.2.kept.records)
        .error, (c.drain sec .shelf .fresh).2.2) := by
  unfold readRecords
  generalize c.drain sec .shelf .fresh = drained
  obtain ⟨records, error, final⟩ := drained
  cases error with
  | none => rfl
  | some e => rfl

end Collector

namespace Session

open Collector (Alike Balanced)

/--
The traversal `i` of a session has come as far as `t`, and what it can see of the collector is what
it would see of `c`.
-/
inductive Isolated (R : σ → σ → Prop) (i : Nat) (s : Session σ) : Traversal → Collector σ → Prop
    where
  | waiting (hbalanced : s.collector.Balanced s.opened) (hi : s.traversals[i]? = some .fresh)
    (c : Collector σ) : Isolated R i s .fresh c
  | going {g g' : Nat} {t t' : Traversal} {c : Collector σ} (hc : Alike R g g' s.collector c)
    (ht : t.Alike g g' t') (hi : s.traversals[i]? = some t)
    (hothers : ∀ j ≠ i, ∀ o ∈ (s.traversal j).opened, o.generation < g) : Isolated R i s t' c

namespace Isolated

variable {R : σ → σ → Prop} {i : Nat} {s : Session σ} {t : Traversal} {c : Collector σ}
  {sec : Section} {k : Keeper σ}

theorem start (h : Isolated R i s t c) : Isolated R i (s.move sec k .start) t c := by
  have hbound {u : Traversal} (hi : s.traversals[i]? = some u) :
      (s.traversals ++ [.fresh])[i]? = some u := by
    rw [List.getElem?_append_left, hi]
    exact (List.getElem?_eq_some_iff.mp hi).1
  cases h with
  | waiting hbalanced hi c =>
    exact .waiting (move_balanced hbalanced sec k .start) (hbound hi) c
  | going hc ht hi hothers =>
    refine .going hc ht (hbound hi) ?_
    intro j hj
    rw [opened_traversal_start]
    exact hothers j hj

theorem close (h : Isolated R i s t c) {j : Nat} (hj : j ≠ i) :
    Isolated R i (s.move sec k (.close j)) t c := by
  have hset {u : Traversal} (hi : s.traversals[i]? = some u) :
      (s.traversals.set j .over)[i]? = some u := by
    rw [List.getElem?_set_ne hj, hi]
  cases h with
  | waiting hbalanced hi c =>
    exact .waiting (move_balanced hbalanced sec k (.close j)) (hset hi) c
  | going hc ht hi hothers =>
    refine .going (hc.close_earlier (hothers j hj)) ht (hset hi) ?_
    intro j' hj' o ho
    exact hothers j' hj' o (mem_opened_traversal_close ho)

theorem take (hk : k.Bisimulation R) (h : Isolated R i s t c) :
    (s.taken sec k i).1 = (c.next sec k t).1 ∧
      Isolated R i (s.move sec k (.take i)) (c.next sec k t).2.1 (c.next sec k t).2.2 := by
  have hset {u : Traversal} (hi : s.traversals[i]? = some u) (t' : Traversal) :
      (s.traversals.set i t')[i]? = some t' := by
    rw [List.getElem?_set_self]
    exact (List.getElem?_eq_some_iff.mp hi).1
  cases h with
  | waiting hbalanced hi c =>
    -- Its first step discards what the session has come to, so all other scopes are earlier ones.
    obtain ⟨hanswer, ht, hc⟩ :=
      Collector.advance_alike hk sec sec.stops (Alike.reset hk s.collector c) .nil
    have hothers : ∀ j ≠ i, ∀ o ∈ ((s.move sec k (.take i)).traversal j).opened,
        o.generation < s.collector.generation + 1 := by
      intro j hj o ho
      rw [traversal_take_of_ne sec k s hj.symm] at ho
      have := hbalanced.le o (mem_opened ho)
      omega
    simp only [move, taken_eq hi] at hothers ⊢
    exact ⟨hanswer, .going hc ht (hset hi _) hothers⟩
  | @going g g' _ _ _ hc ht hi hothers =>
    obtain ⟨hanswer, ht, hc⟩ := Collector.next_alike hk sec hc ht
    have hothers' : ∀ j ≠ i, ∀ o ∈ ((s.move sec k (.take i)).traversal j).opened,
        o.generation < g := by
      intro j hj
      rw [traversal_take_of_ne sec k s hj.symm]
      exact hothers j hj
    simp only [move, taken_eq hi] at hothers' ⊢
    exact ⟨hanswer, .going hc ht (hset hi _) hothers'⟩

end Isolated

theorem hears_of_isolated {R : σ → σ → Prop} {k : Keeper σ} (hk : k.Bisimulation R) {i : Nat}
    {s : Session σ} {t : Traversal} {c : Collector σ} (h : Isolated R i s t c) (sec : Section)
    (moves : List Move) (hmoves : ∀ m ∈ moves, m.Spares i) :
    s.hears sec k i moves = (Collector.takeMany sec k (moves.count (.take i)) t c).1 := by
  induction moves generalizing s t c with
  | nil => rfl
  | cons m moves ih =>
    have hrest := fun m' hm' => hmoves m' (List.mem_cons_of_mem m hm')
    have hm := hmoves m List.mem_cons_self
    rw [hears]
    cases m with
    | start =>
      rw [List.count_cons_of_ne (by simp)]
      exact ih h.start hrest
    | take j =>
      obtain rfl : j = i := hm
      obtain ⟨hanswer, hnext⟩ := h.take hk
      rw [List.count_cons_self, Collector.takeMany, if_pos rfl, hanswer, ih hnext hrest]
    | close j =>
      rw [List.count_cons_of_ne (by simp)]
      exact ih (h.close hm) hrest
    | read => exact absurd hm id
    | reset => exact absurd hm id
    | add r => exact absurd hm id

theorem fresh_balanced (kept : σ) : (fresh kept).collector.Balanced (fresh kept).opened := by
  exact Balanced.fresh kept

/--
After any history a traversal of a reader that has not begun makes the records and the error that it
makes when it is the first one, as long as no other one goes on. Reading all records does so too,
and leaves them on the shelf.
-/
theorem new_after_history (sec : Section) (history : List Move) :
    let s := (fresh {}).run sec .shelf history
    (∀ i moves, s.traversals[i]? = some .fresh → (∀ m ∈ moves, m.Spares i) →
      s.hears sec .shelf i moves =
        (Collector.takeMany sec .shelf (moves.count (.take i)) .fresh { kept := {} }).1) ∧
    (s.collector.readRecords sec).1 = sec.records ∧
    (s.collector.readRecords sec).2.kept.records =
      (Collector.drain { kept := {} } sec .shelf .fresh).1 := by
  intro s
  have hbalanced : s.collector.Balanced s.opened :=
    run_balanced (fresh_balanced {}) sec .shelf history
  obtain ⟨hrecords, herror, hkept⟩ :=
    Collector.drain_fresh_alike Keeper.shelf_bisimulation sec s.collector { kept := {} }
  refine ⟨?_, ?_, ?_⟩
  · intro i moves hi hmoves
    exact hears_of_isolated Keeper.shelf_bisimulation (.waiting hbalanced hi { kept := {} }) sec
      moves hmoves
  · unfold Section.records
    rw [Collector.readRecords_eq, Collector.readRecords_eq, herror, hkept]
  · rw [Collector.readRecords_eq, hkept]
    exact (Collector.shelf_of_taken (Collector.taken_nothing sec .shelf {})).2.2

theorem new_after_history_titled :
    let s := (fresh {}).run .titled .shelf [.start, .take 0, .start, .take 1, .start]
    s.hears .titled .shelf 2 [.take 2, .close 0, .take 2] =
      (Collector.takeMany .titled .shelf 2 .fresh { kept := {} }).1 := by
  exact (new_after_history .titled [.start, .take 0, .start, .take 1, .start]).1 2
    [.take 2, .close 0, .take 2] rfl (by decide)

end Session
end Catalog
