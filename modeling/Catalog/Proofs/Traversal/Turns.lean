import Catalog.Proofs.Traversal.History
/-!
This module contains what becomes of two traversals that take turns on one collector. They do not
disturb each other as long as neither is asked again after the other one began; whenever one is,
there are sections for which it makes other records than it would make alone.
-/

namespace Catalog

variable {σ : Type}

namespace Session

def pair (kept : σ) : Session σ := ⟨{ kept }, [.fresh, .fresh]⟩

def takes (turns : List Bool) : List Move := turns.map fun i => .take i.toNat

/--
Each of two traversals that take turns makes what it makes alone.
-/
def Undisturbed (sec : Section) (k : Keeper σ) (kept : σ) (turns : List Bool) : Prop :=
  ∀ i : Bool, (pair kept).hears sec k i.toNat (takes turns) =
    (Collector.takeMany sec k (turns.count i) .fresh { kept }).1

def Sequential (turns : List Bool) : Prop :=
  ∃ i a b, turns = List.replicate a i ++ List.replicate b (!i)

theorem sequential_or_back (turns : List Bool) :
    Sequential turns ∨ ∃ i a b more,
      turns = List.replicate (a + 1) i ++ List.replicate (b + 1) (!i) ++ i :: more := by
  induction turns with
  | nil => exact .inl ⟨false, 0, 0, rfl⟩
  | cons j turns ih =>
    obtain ⟨i, a, b, rfl⟩ | ⟨i, a, b, more, rfl⟩ := ih
    · by_cases hj : j = i
      · exact .inl ⟨i, a + 1, b, by rw [hj, List.replicate_succ, List.cons_append]⟩
      · obtain rfl : j = !i := Bool.eq_not_of_ne hj
        -- A turn in front goes back to `!i` only if both traversals have turns behind it.
        cases a with
        | zero =>
          left
          refine ⟨!i, b + 1, 0, ?_⟩
          simp [List.replicate_succ]
        | succ a =>
          cases b with
          | zero =>
            left
            refine ⟨!i, 1, a + 1, ?_⟩
            simp
          | succ b =>
            right
            refine ⟨!i, 0, a, List.replicate b (!i), ?_⟩
            simp [List.replicate_succ]
    · right
      by_cases hj : j = i
      · exact ⟨i, a + 1, b, more, by simp [hj, List.replicate_succ]⟩
      · obtain rfl : j = !i := Bool.eq_not_of_ne hj
        refine ⟨!i, 0, a, List.replicate b (!i) ++ i :: more, ?_⟩
        simp [List.replicate_succ]

section

variable {sec : Section} {k : Keeper σ} {s : Session σ}

theorem hears_append (i : Nat) (first second : List Move) :
    s.hears sec k i (first ++ second) =
      s.hears sec k i first ++ (s.run sec k first).hears sec k i second := by
  induction first generalizing s with
  | nil => rfl
  | cons m first ih =>
    simp only [List.cons_append, hears, ih]
    split
    · rfl
    · rfl

theorem hears_replicate {i : Nat} {t : Traversal} (h : s.traversals[i]? = some t) (n : Nat) :
    s.hears sec k i (List.replicate n (.take i)) =
      (Collector.takeMany sec k n t s.collector).1 := by
  induction n generalizing s t with
  | zero => rfl
  | succ n ih =>
    have hset : (s.traversals.set i (s.collector.next sec k t).2.1)[i]? =
        some (s.collector.next sec k t).2.1 := by
      rw [List.getElem?_set_self]
      exact (List.getElem?_eq_some_iff.mp h).1
    rw [List.replicate_succ, hears, if_pos rfl, move, taken_eq h, ih hset]
    rfl

theorem run_replicate (sec : Section) (k : Keeper σ) {s : Session σ} {i : Nat} {t : Traversal}
    (h : s.traversals[i]? = some t) (n : Nat) :
    s.run sec k (List.replicate n (.take i)) =
      ⟨(Collector.takeMany sec k n t s.collector).2.2,
        s.traversals.set i (Collector.takeMany sec k n t s.collector).2.1⟩ := by
  induction n generalizing s t with
  | zero =>
    have hset : s.traversals.set i t = s.traversals := by
      obtain ⟨hi, hget⟩ := List.getElem?_eq_some_iff.mp h
      rw [← hget, List.set_getElem_self]
    simp only [List.replicate_zero, Collector.takeMany, hset]
    rfl
  | succ n ih =>
    have hset : (s.traversals.set i (s.collector.next sec k t).2.1)[i]? =
        some (s.collector.next sec k t).2.1 := by
      rw [List.getElem?_set_self]
      exact (List.getElem?_eq_some_iff.mp h).1
    rw [List.replicate_succ, run, List.foldl_cons, move, taken_eq h, ← run, ih hset, List.set_set]
    rfl

theorem hears_replicate_of_ne {i j : Nat} (h : j ≠ i) (n : Nat) :
    s.hears sec k i (List.replicate n (.take j)) = [] := by
  induction n generalizing s with
  | zero => rfl
  | succ n ih =>
    rw [List.replicate_succ, hears, ih]
    simp [h]

end

theorem toNat_not_ne (i : Bool) : (!i).toNat ≠ i.toNat := by
  cases i with
  | false => decide
  | true => decide

theorem pair_traversals (kept : σ) (i : Bool) :
    (pair kept).traversals[i.toNat]? = some .fresh := by
  cases i with
  | false => rfl
  | true => rfl

theorem pair_balanced (kept : σ) : (pair kept).collector.Balanced (pair kept).opened := by
  exact Collector.Balanced.fresh kept

theorem undisturbed_of_sequential {R : σ → σ → Prop} {k : Keeper σ} (hk : k.Bisimulation R)
    {turns : List Bool} (h : Sequential turns) (sec : Section) (kept : σ) :
    Undisturbed sec k kept turns := by
  obtain ⟨i, a, b, rfl⟩ := h
  intro j
  have htakes : takes (List.replicate a i ++ List.replicate b (!i)) =
      List.replicate a (.take i.toNat) ++ List.replicate b (.take (!i).toNat) := by
    simp [takes]
  rw [htakes, hears_append]
  by_cases hj : j = i
  · have hcount : (List.replicate a i ++ List.replicate b (!i)).count i = a := by
      simp [List.count_replicate]
    rw [hj, hcount, hears_replicate (pair_traversals kept i),
      hears_replicate_of_ne (toNat_not_ne i), List.append_nil]
    rfl
  · obtain rfl : j = !i := Bool.eq_not_of_ne hj
    have hcount : (List.replicate a i ++ List.replicate b (!i)).count (!i) = b := by
      simp [List.count_replicate]
    have hbalanced := run_balanced (pair_balanced kept) sec k (List.replicate a (.take i.toNat))
    have hfresh : ((pair kept).run sec k (List.replicate a (.take i.toNat))).traversals[
        (!i).toNat]? = some .fresh := by
      rw [run_replicate sec k (pair_traversals kept i), List.getElem?_set_ne (toNat_not_ne i).symm,
        pair_traversals]
    rw [hcount, hears_replicate_of_ne (toNat_not_ne i).symm, List.nil_append,
      hears_of_isolated hk (.waiting hbalanced hfresh { kept }), List.count_replicate_self]
    intro m hm
    rw [List.eq_of_mem_replicate hm]
    rfl

theorem recordIn_two_mem_hears {k : Keeper σ} (hk : k.TakesNameless) (kept : σ) (i : Bool)
    {a b len : Nat} {more : List Bool} (hlen : len = a + b + more.length + 4) :
    .record (Titles.recordIn 2) ∈ (pair kept).hears (Titles.ofLength len) k i.toNat
      (takes (List.replicate (a + 1) i ++ List.replicate (b + 1) (!i) ++ i :: more)) := by
  have hlenFirst : len = a + (b + more.length + 3) + 1 := by omega
  have hlenSecond : len = b + (a + more.length + 3) + 1 := by omega
  obtain ⟨c, hfirst, hgeneration, -⟩ :=
    Collector.takeMany_titles hk hlenFirst (pair kept).collector
  obtain ⟨c', hsecond, hgeneration', hentries⟩ := Collector.takeMany_titles hk hlenSecond c
  -- The second traversal has reset the collector, so the first one goes on in another generation.
  have hanswer := Collector.next_titles_of_ne (n := b + more.length + 2) hk len hentries
    (g := (pair kept).collector.generation + 1) (by omega)
  generalize Traversal.paused (.leave :: Titles.stops (b + more.length + 3))
    [some ⟨(pair kept).collector.generation + 1, .command⟩] = first at hfirst hanswer
  generalize Traversal.paused (.leave :: Titles.stops (a + more.length + 3))
    [some ⟨c.generation + 1, .command⟩] = second at hsecond
  have hrun := run_replicate (Titles.ofLength len) k (pair_traversals kept i) (a + 1)
  rw [hfirst] at hrun
  have hother : ((pair kept).traversals.set i.toNat first)[(!i).toNat]? = some .fresh := by
    rw [List.getElem?_set_ne (toNat_not_ne i).symm, pair_traversals]
  have hrun' := run_replicate (s := ⟨c, _⟩) (Titles.ofLength len) k hother (b + 1)
  simp only [hsecond] at hrun'
  have hi : (((pair kept).traversals.set i.toNat first).set (!i).toNat second)[i.toNat]? =
      some first := by
    rw [List.getElem?_set_ne (toNat_not_ne i), List.getElem?_set_self]
    exact (List.getElem?_eq_some_iff.mp (pair_traversals kept i)).1
  have htakes : takes (List.replicate (a + 1) i ++ List.replicate (b + 1) (!i) ++ i :: more) =
      List.replicate (a + 1) (.take i.toNat) ++
        (List.replicate (b + 1) (.take (!i).toNat) ++ .take i.toNat :: takes more) := by
    simp [takes]
  rw [htakes, hears_append, hrun, hears_append, hrun']
  apply List.mem_append_right
  apply List.mem_append_right
  rw [hears, if_pos rfl, taken_eq hi, hanswer]
  exact List.mem_cons_self

theorem not_undisturbed_of_back {k : Keeper σ} (hk : k.TakesNameless) (kept : σ) (i : Bool)
    (a b : Nat) (more : List Bool) :
    ¬ Undisturbed (Titles.ofLength (a + b + more.length + 4)) k kept
      (List.replicate (a + 1) i ++ List.replicate (b + 1) (!i) ++ i :: more) := by
  intro h
  have hmem := recordIn_two_mem_hears hk kept i (Eq.refl (a + b + more.length + 4))
  rw [h i] at hmem
  refine Collector.recordIn_two_not_mem hk ?_ _ hmem
  have hcount := List.count_le_length (a := i) (l := more)
  simp [List.count_replicate]
  omega

/--
Two traversals of one collector are independent in all sections if and only if they take their turns
one after the other, be the collector one that writes down every call or a reader.
-/
theorem undisturbed_iff_sequential (turns : List Bool) :
    ((∀ sec, (Collector.drain { kept := [] } sec .journal .fresh).2.1 = none →
      Undisturbed sec .journal [] turns) ↔ Sequential turns) ∧
    ((∀ sec, (Collector.drain { kept := {} } sec .shelf .fresh).2.1 = none →
      Undisturbed sec .shelf {} turns) ↔ Sequential turns) := by
  constructor
  · constructor
    · intro h
      obtain hsequential | ⟨i, a, b, more, rfl⟩ := sequential_or_back turns
      · exact hsequential
      · exact absurd (h _ (Collector.drain_titles Keeper.journal_takesNameless _ _))
          (not_undisturbed_of_back Keeper.journal_takesNameless [] i a b more)
    · intro h sec _
      exact undisturbed_of_sequential Keeper.journal_bisimulation h sec []
  · constructor
    · intro h
      obtain hsequential | ⟨i, a, b, more, rfl⟩ := sequential_or_back turns
      · exact hsequential
      · exact absurd (h _ (Collector.drain_titles Keeper.shelf_takesNameless _ _))
          (not_undisturbed_of_back Keeper.shelf_takesNameless {} i a b more)
    · intro h sec _
      exact undisturbed_of_sequential Keeper.shelf_bisimulation h sec {}

theorem undisturbed_iff_sequential_titled :
    Sequential [true, true, false, false] ∧
      Undisturbed .titled .journal [] [true, true, false, false] := by
  have h : Sequential [true, true, false, false] := ⟨true, 2, 2, rfl⟩
  exact ⟨h, (undisturbed_iff_sequential _).1.mpr h .titled (by cbv)⟩

theorem disturbed_titled :
    (Collector.drain { kept := [] } .titled .journal .fresh).2.1 = none ∧
      ¬ Undisturbed .titled .journal [] [false, true, false] := by
  have hdrain : (Collector.drain { kept := [] } .titled .journal .fresh).2.1 = none := by
    cbv
  have htakes : takes [false, true, false] = [.take 0, .take 1, .take 0] := by
    rfl
  have hheard : (pair []).hears .titled .journal 0 [.take 0, .take 1, .take 0] =
      [.record { properties := [("Title", .text "x")] },
        .record { properties := [("Title", .text "x")] }] := by
    cbv
  have halone : (Collector.takeMany .titled .journal 2 .fresh { kept := [] }).1 =
      [.record { properties := [("Title", .text "x")] }, .record {}] := by
    cbv
  refine ⟨hdrain, ?_⟩
  intro h
  have hfirst := h false
  change (pair []).hears .titled .journal 0 (takes [false, true, false]) =
    (Collector.takeMany .titled .journal 2 .fresh { kept := [] }).1 at hfirst
  rw [htakes, hheard, halone] at hfirst
  simp at hfirst

end Session
end Catalog
