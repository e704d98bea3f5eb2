import Catalog.Proofs.Traversal.Ending
/-!
This module contains sessions, in which any number of traversals take turns on one collector. In
every session the scopes that are open are those of the traversals that are under way.
-/

namespace Catalog

variable {σ : Type}

structure Session (σ : Type) where
  collector : Collector σ
  traversals : List Traversal := []

inductive Move where
  | start
  | take (i : Nat)
  | close (i : Nat)
  | read
  | reset
  | add (r : Record)
deriving DecidableEq

def Traversal.opened : Traversal → List OpenScope
  | .paused _ opened => opened.reduceOption
  | _ => []

namespace Session

def fresh (kept : σ) : Session σ := ⟨{ kept }, []⟩

def traversal (s : Session σ) (i : Nat) : Traversal := s.traversals[i]?.getD .over

def taken (s : Session σ) (sec : Section) (k : Keeper σ) (i : Nat) :
    Take StructureError × Session σ :=
  let (x, t, c) := s.collector.next sec k (s.traversal i)
  (x, ⟨c, s.traversals.set i t⟩)

def move (sec : Section) (k : Keeper σ) (s : Session σ) : Move → Session σ
  | .start => { s with traversals := s.traversals ++ [.fresh] }
  | .take i => (s.taken sec k i).2
  | .close i => ⟨s.collector.close (s.traversal i), s.traversals.set i .over⟩
  | .read => { s with collector := (s.collector.drain sec k .fresh).2.2 }
  | .reset => { s with collector := s.collector.reset k }
  | .add r =>
    match k.add r s.collector.kept with
    | .error _ => s
    | .ok kept => { s with collector := { s.collector with kept } }

def run (sec : Section) (k : Keeper σ) (s : Session σ) (moves : List Move) : Session σ :=
  moves.foldl (move sec k) s

def hears (sec : Section) (k : Keeper σ) (i : Nat) : Session σ → List Move →
    List (Take StructureError)
  | _, [] => []
  | s, m :: moves =>
    let answers := hears sec k i (s.move sec k m) moves
    if m = .take i then (s.taken sec k i).1 :: answers else answers

def opened (s : Session σ) : List OpenScope := s.traversals.flatMap Traversal.opened

end Session

namespace Collector

namespace Balanced

variable {sec : Section} {k : Keeper σ} {c : Collector σ}

theorem perm {os os' : List OpenScope} (h : c.Balanced os) (hperm : os.Perm os') :
    c.Balanced os' := by
  constructor
  · intro o ho
    exact h.le o (hperm.mem_iff.mpr ho)
  · intro g s hs kind
    rw [← hperm.count_eq]
    exact h.counts g s hs kind

theorem advance {stops : List Stop} {opened : List (Option OpenScope)} {others : List OpenScope}
    (h : c.Balanced (opened.reduceOption ++ others)) :
    (Collector.advance sec k stops opened c).2.2.Balanced
      ((Collector.advance sec k stops opened c).2.1.opened ++ others) := by
  induction stops generalizing opened c with
  | nil => exact h.finish
  | cons stop stops ih =>
    unfold Collector.advance
    cases hstep : c.step sec k opened stop with
    | moved c' opened' => exact ih (h.moved hstep)
    | yielded r c' => exact h.yielded hstep
    | failed f c' => exact (h.failed hstep).finish

theorem next {t : Traversal} {others : List OpenScope} (h : c.Balanced (t.opened ++ others)) :
    (c.next sec k t).2.2.Balanced ((c.next sec k t).2.1.opened ++ others) := by
  match t, h with
  | .fresh, h => exact advance (h.reset k)
  | .paused stops opened, h => exact advance h
  | .over, h => exact h

theorem close {t : Traversal} {others : List OpenScope} (h : c.Balanced (t.opened ++ others)) :
    (c.close t).Balanced others := by
  match t, h with
  | .fresh, h => exact h
  | .paused stops opened, h => exact h.finish
  | .over, h => exact h

theorem drain_fresh {others : List OpenScope} (h : c.Balanced others) :
    (c.drain sec k .fresh).2.2.Balanced others := by
  have hreset : (c.reset k).Balanced ((List.reduceOption []) ++ others) := h.reset k
  simp only [Collector.drain, exhaust_eq_trace]
  exact hreset.final

end Balanced

end Collector

namespace Session

open Collector (Balanced)

theorem opened_traversal_start (sec : Section) (k : Keeper σ) (s : Session σ) (j : Nat) :
    ((s.move sec k .start).traversal j).opened = (s.traversal j).opened := by
  unfold traversal
  rw [move, List.getElem?_append]
  split
  · rfl
  · next hj =>
    rw [List.getElem?_eq_none (Nat.le_of_not_lt hj)]
    cases hget : [Traversal.fresh][j - s.traversals.length]? with
    | none => rfl
    | some t =>
      obtain rfl : t = .fresh := by simpa using List.mem_of_getElem? hget
      rfl

theorem traversal_of_getElem? {s : Session σ} {i : Nat} {t : Traversal}
    (h : s.traversals[i]? = some t) : s.traversal i = t := by
  unfold traversal
  rw [h]
  rfl

theorem taken_eq {s : Session σ} {i : Nat} {t : Traversal} (h : s.traversals[i]? = some t)
    (sec : Section) (k : Keeper σ) :
    s.taken sec k i = ((s.collector.next sec k t).1, ⟨(s.collector.next sec k t).2.2,
      s.traversals.set i (s.collector.next sec k t).2.1⟩) := by
  simp only [taken, traversal_of_getElem? h]

theorem traversal_take_of_ne (sec : Section) (k : Keeper σ) (s : Session σ) {i j : Nat}
    (h : i ≠ j) : (s.move sec k (.take i)).traversal j = s.traversal j := by
  simp only [traversal, move, taken, List.getElem?_set_ne h]

theorem mem_opened_traversal_close {sec : Section} {k : Keeper σ} {s : Session σ} {i j : Nat}
    {o : OpenScope} (h : o ∈ ((s.move sec k (.close i)).traversal j).opened) :
    o ∈ (s.traversal j).opened := by
  simp only [traversal, move, List.getElem?_set] at h
  split at h
  · split at h
    · simp [Traversal.opened] at h
    · simp [Traversal.opened] at h
  · exact h

theorem mem_opened {s : Session σ} {j : Nat} {o : OpenScope} (h : o ∈ (s.traversal j).opened) :
    o ∈ s.opened := by
  unfold traversal at h
  cases hj : s.traversals[j]? with
  | none => simp [hj, Traversal.opened] at h
  | some t =>
    rw [hj] at h
    exact List.mem_flatMap.mpr ⟨t, List.mem_of_getElem? hj, h⟩

theorem exists_others {s : Session σ} {i : Nat} {t : Traversal} (h : s.traversals[i]? = some t) :
    ∃ others, s.opened.Perm (t.opened ++ others) ∧ ∀ t' : Traversal,
      ((s.traversals.set i t').flatMap Traversal.opened).Perm (t'.opened ++ others) := by
  obtain ⟨hi, hget⟩ := List.getElem?_eq_some_iff.mp h
  have hsplit : s.traversals = s.traversals.take i ++ t :: s.traversals.drop (i + 1) := by
    rw [← hget, List.getElem_cons_drop, List.take_append_drop]
  refine ⟨(s.traversals.take i).flatMap Traversal.opened ++
    (s.traversals.drop (i + 1)).flatMap Traversal.opened, ?_, ?_⟩
  · have hopened : s.opened = (s.traversals.take i ++ t :: s.traversals.drop (i + 1)).flatMap
        Traversal.opened := congrArg (List.flatMap Traversal.opened) hsplit
    rw [hopened, List.flatMap_append, List.flatMap_cons]
    exact List.perm_append_comm_assoc _ _ _
  · intro t'
    rw [List.set_eq_take_append_cons_drop, if_pos hi, List.flatMap_append, List.flatMap_cons]
    exact List.perm_append_comm_assoc _ _ _

theorem taken_balanced {s : Session σ} (h : s.collector.Balanced s.opened) (sec : Section)
    (k : Keeper σ) (i : Nat) :
    (s.taken sec k i).2.collector.Balanced (s.taken sec k i).2.opened := by
  cases ht : s.traversals[i]? with
  | none =>
    have hset : s.traversals.set i .over = s.traversals := by
      rw [List.set_eq_of_length_le]
      exact List.getElem?_eq_none_iff.mp ht
    simpa [taken, traversal, ht, Collector.next, opened, hset] using h
  | some t =>
    obtain ⟨others, hopened, hset⟩ := exists_others ht
    simp only [taken_eq ht]
    exact (Balanced.next (h.perm hopened)).perm (hset _).symm

theorem close_balanced {s : Session σ} (h : s.collector.Balanced s.opened) (sec : Section)
    (k : Keeper σ) (i : Nat) :
    (s.move sec k (.close i)).collector.Balanced (s.move sec k (.close i)).opened := by
  cases ht : s.traversals[i]? with
  | none =>
    have hset : s.traversals.set i .over = s.traversals := by
      rw [List.set_eq_of_length_le]
      exact List.getElem?_eq_none_iff.mp ht
    simpa [move, traversal, ht, Collector.close, opened, hset] using h
  | some t =>
    obtain ⟨others, hopened, hset⟩ := exists_others ht
    have hclose := (h.perm hopened).close
    simp only [move, traversal, ht, Option.getD_some]
    exact hclose.perm (hset .over).symm

theorem move_balanced {s : Session σ} (h : s.collector.Balanced s.opened) (sec : Section)
    (k : Keeper σ) (m : Move) :
    (s.move sec k m).collector.Balanced (s.move sec k m).opened := by
  cases m with
  | start => simpa [move, opened, Traversal.opened] using h
  | take i => exact taken_balanced h sec k i
  | close i => exact close_balanced h sec k i
  | read => exact h.drain_fresh
  | reset => exact h.reset k
  | add r =>
    simp only [move]
    cases k.add r s.collector.kept with
    | error problem => exact h
    | ok kept => exact h.of_generations_eq rfl

theorem run_balanced {s : Session σ} (h : s.collector.Balanced s.opened) (sec : Section)
    (k : Keeper σ) (moves : List Move) :
    (s.run sec k moves).collector.Balanced (s.run sec k moves).opened := by
  induction moves generalizing s with
  | nil => exact h
  | cons m moves ih => exact ih (move_balanced h sec k m)

end Session
end Catalog
