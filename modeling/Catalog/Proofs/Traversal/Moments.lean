import Catalog.Proofs.Traversal.Prefix
import Catalog.Proofs.Traversal.Session
/-!
This module contains the moments of a session: what its collector is between any two steps of the
traversals, also while one of them leaves its scopes. At each of them every stack counts the scopes
that are open in it, so that no scope is left whose stack has nothing to pop.
-/

namespace Catalog

variable {σ : Type}

structure Moment (σ : Type) where
  collector : Collector σ
  opened : List OpenScope

namespace Moment

def beside (others : List OpenScope) (x : Moment σ) : Moment σ :=
  { x with opened := x.opened ++ others }

structure Invariant (sec : Section) (k : Keeper σ) (P : Moment σ → Prop) : Prop where
  moved : ∀ {c c' : Collector σ} {opened opened' : List (Option OpenScope)} {stop : Stop},
    P ⟨c, opened.reduceOption⟩ → c.step sec k opened stop = .moved c' opened' →
      P ⟨c', opened'.reduceOption⟩
  yielded : ∀ {c c' : Collector σ} {opened : List (Option OpenScope)} {stop : Stop} {r : Record},
    P ⟨c, opened.reduceOption⟩ → c.step sec k opened stop = .yielded r c' →
      P ⟨c', opened.reduceOption⟩
  failed : ∀ {c c' : Collector σ} {opened : List (Option OpenScope)} {stop : Stop} {f : Fault},
    P ⟨c, opened.reduceOption⟩ → c.step sec k opened stop = .failed f c' →
      P ⟨c', opened.reduceOption⟩
  left : ∀ {c : Collector σ} {o : OpenScope} {os : List OpenScope},
    P ⟨c, o :: os⟩ → P ⟨c.leave o, os⟩
  finished : ∀ {c : Collector σ}, P ⟨c, []⟩ → P ⟨{ c with current := none }, []⟩

end Moment

structure Collector.Stable (sec : Section) (k : Keeper σ) (Q : Collector σ → Prop) : Prop where
  steps : Moment.Invariant sec k fun x => Q x.collector
  reset : ∀ {c : Collector σ}, Q c → Q (c.reset k)
  add : ∀ {c : Collector σ} {r : Record} {kept : σ}, Q c → k.add r c.kept = .ok kept →
    Q { c with kept }

namespace Collector

def leavingMoments : List OpenScope → Collector σ → List (Moment σ)
  | [], c => [⟨{ c with current := none }, []⟩]
  | o :: os, c => ⟨c, o :: os⟩ :: leavingMoments os (c.leave o)

def moments (whole : Bool) (sec : Section) (k : Keeper σ) :
    List Stop → List (Option OpenScope) → Collector σ → List (Moment σ)
  | [], opened, c => leavingMoments opened.reduceOption c
  | stop :: stops, opened, c =>
    ⟨c, opened.reduceOption⟩ ::
      match c.step sec k opened stop with
      | .moved c opened => moments whole sec k stops opened c
      | .yielded _ c =>
        if whole then moments whole sec k stops opened c else [⟨c, opened.reduceOption⟩]
      | .failed _ c => leavingMoments opened.reduceOption c

def nextMoments (sec : Section) (k : Keeper σ) (c : Collector σ) : Traversal → List (Moment σ)
  | .fresh => moments false sec k sec.stops [] (c.reset k)
  | .paused stops opened => moments false sec k stops opened c
  | .over => [⟨c, []⟩]

def closeMoments (c : Collector σ) : Traversal → List (Moment σ)
  | .fresh => [⟨c, []⟩]
  | .paused _ opened => leavingMoments opened.reduceOption c
  | .over => [⟨c, []⟩]

section

variable {sec : Section} {k : Keeper σ} {P : Moment σ → Prop} {stops : List Stop}
  {opened : List (Option OpenScope)} {c : Collector σ}

theorem forall_leavingMoments (hP : Moment.Invariant sec k P) {os : List OpenScope}
    (h : P ⟨c, os⟩) : ∀ x ∈ leavingMoments os c, P x := by
  induction os generalizing c with
  | nil =>
    intro x hx
    obtain rfl := List.mem_singleton.mp hx
    exact hP.finished h
  | cons o os ih => exact List.forall_mem_cons.mpr ⟨h, ih (hP.left h)⟩

theorem forall_moments (hP : Moment.Invariant sec k P) (h : P ⟨c, opened.reduceOption⟩)
    (whole : Bool) : ∀ x ∈ moments whole sec k stops opened c, P x := by
  induction stops generalizing opened c with
  | nil => exact forall_leavingMoments hP h
  | cons stop stops ih =>
    rw [moments]
    refine List.forall_mem_cons.mpr ⟨h, ?_⟩
    cases hstep : c.step sec k opened stop with
    | moved c' opened' => exact ih (hP.moved h hstep)
    | yielded r c' =>
      have h' := hP.yielded h hstep
      cases whole with
      | true => exact ih h'
      | false => exact List.forall_mem_singleton.mpr h'
    | failed f c' => exact forall_leavingMoments hP (hP.failed h hstep)

theorem getLast?_leavingMoments (os : List OpenScope) (c : Collector σ) :
    (leavingMoments os c).getLast? = some ⟨{ os.foldl leave c with current := none }, []⟩ := by
  induction os generalizing c with
  | nil => rfl
  | cons o os ih =>
    rw [leavingMoments, List.getLast?_cons, ih]
    rfl

theorem getLast?_moments_advance (sec : Section) (k : Keeper σ) (stops : List Stop)
    (opened : List (Option OpenScope)) (c : Collector σ) :
    (moments false sec k stops opened c).getLast? =
      some ⟨(advance sec k stops opened c).2.2, (advance sec k stops opened c).2.1.opened⟩ := by
  induction stops generalizing opened c with
  | nil => apply getLast?_leavingMoments
  | cons stop stops ih =>
    rw [moments, List.getLast?_cons, advance]
    cases c.step sec k opened stop with
    | moved c' opened' =>
      simp only
      rw [ih]
      rfl
    | yielded r c' => rfl
    | failed f c' =>
      simp only
      rw [getLast?_leavingMoments]
      rfl

theorem getLast?_moments_exhaust (sec : Section) (k : Keeper σ) (stops : List Stop)
    (opened : List (Option OpenScope)) (c : Collector σ) :
    (moments true sec k stops opened c).getLast? =
      some ⟨(exhaust sec k stops opened c).2.2, []⟩ := by
  induction stops generalizing opened c with
  | nil => apply getLast?_leavingMoments
  | cons stop stops ih =>
    rw [moments, List.getLast?_cons, exhaust]
    cases c.step sec k opened stop with
    | moved c' opened' =>
      simp only
      rw [ih]
      rfl
    | yielded r c' =>
      simp only [if_true]
      rw [ih]
      rfl
    | failed f c' =>
      simp only
      rw [getLast?_leavingMoments]
      rfl

theorem getLast?_nextMoments (sec : Section) (k : Keeper σ) (c : Collector σ) (t : Traversal) :
    (nextMoments sec k c t).getLast? = some ⟨(c.next sec k t).2.2, (c.next sec k t).2.1.opened⟩ := by
  match t with
  | .fresh => apply getLast?_moments_advance
  | .paused stops opened => apply getLast?_moments_advance
  | .over => rfl

theorem getLast?_closeMoments (c : Collector σ) (t : Traversal) :
    (closeMoments c t).getLast? = some ⟨c.close t, []⟩ := by
  match t with
  | .fresh => rfl
  | .paused stops opened => apply getLast?_leavingMoments
  | .over => rfl

end

theorem Balanced.invariant (sec : Section) (k : Keeper σ) (others : List OpenScope) :
    Moment.Invariant sec k fun x => x.collector.Balanced (x.opened ++ others) where
  moved h hstep := h.moved hstep
  yielded h hstep := h.yielded hstep
  failed h hstep := h.failed hstep
  left h := h.leave
  finished h := h.of_generations_eq rfl

theorem generation_moved {sec : Section} {k : Keeper σ} {c c' : Collector σ}
    {opened opened' : List (Option OpenScope)} {stop : Stop}
    (h : c.step sec k opened stop = .moved c' opened') : c'.generation = c.generation := by
  obtain ⟨e, entry, -, rfl, -⟩ | ⟨v, rfl, -⟩ | ⟨rfl, -⟩ | ⟨rfl, -⟩ | ⟨rfl, -⟩ | ⟨o, rfl, -⟩ :=
    step_moved h
  · rfl
  · rfl
  · rfl
  · rfl
  · rfl
  · apply generation_leave

theorem generation_stable (sec : Section) (k : Keeper σ) (n : Nat) :
    Stable sec k fun c => n ≤ c.generation where
  steps := {
    moved := by
      intro c c' opened opened' stop h hstep
      rw [generation_moved hstep]
      exact h
    yielded := by
      intro c c' opened stop r h hstep
      obtain ⟨e, kept, -, -, rfl⟩ := step_yielded hstep
      exact h
    failed := by
      intro c c' opened stop f h hstep
      obtain rfl | ⟨id, rfl⟩ := step_failed hstep
      · exact h
      · exact h
    left := by
      intro c o os h
      rw [generation_leave]
      exact h
    finished := id
  }
  reset := by
    intro c h
    simp only [reset, generation, List.length_append] at h ⊢
    omega
  add h _ := h

namespace Balanced

variable {c : Collector σ} {os : List OpenScope}

theorem depth_eq (h : c.Balanced os) {g : Nat} {scopes : Scopes}
    (hg : c.generations[g]? = some scopes) (kind : ScopeKind) :
    (scopes.counts kind).depth = os.count ⟨g, kind⟩ ∧
      (scopes.counts kind).pushed = (scopes.counts kind).popped + (scopes.counts kind).depth := by
  have hcounts := h.counts g scopes hg kind
  refine ⟨hcounts.depth, ?_⟩
  rw [hcounts.pushed, hcounts.depth]

theorem depth_pos (h : c.Balanced os) {o : OpenScope} (ho : o ∈ os) :
    ∃ scopes, c.generations[o.generation]? = some scopes ∧ 0 < (scopes.counts o.kind).depth := by
  have hlt : o.generation < c.generations.length := by
    have := h.le o ho
    simp only [generations, generation, List.length_append, List.length_singleton] at this ⊢
    omega
  refine ⟨c.generations[o.generation], List.getElem?_eq_getElem hlt, ?_⟩
  rw [(h.depth_eq (List.getElem?_eq_getElem hlt) o.kind).1]
  exact List.count_pos_iff.mpr ho

end Balanced

end Collector

namespace Session

open Collector (Balanced)

def openedBesides (s : Session σ) (i : Nat) : List OpenScope :=
  (s.traversals.set i .over).flatMap Traversal.opened

def moments (sec : Section) (k : Keeper σ) (s : Session σ) : Move → List (Moment σ)
  | .take i =>
    (Collector.nextMoments sec k s.collector (s.traversal i)).map (.beside (s.openedBesides i))
  | .close i =>
    (Collector.closeMoments s.collector (s.traversal i)).map (.beside (s.openedBesides i))
  | .read =>
    (Collector.moments true sec k sec.stops [] (s.collector.reset k)).map (.beside s.opened)
  | .start => [⟨(s.move sec k .start).collector, s.opened⟩]
  | .reset => [⟨(s.move sec k .reset).collector, s.opened⟩]
  | .add r => [⟨(s.move sec k (.add r)).collector, s.opened⟩]

theorem set_over_of_none {s : Session σ} {i : Nat} (h : s.traversals[i]? = none) :
    s.traversals.set i .over = s.traversals := by
  rw [List.set_eq_of_length_le]
  exact List.getElem?_eq_none_iff.mp h

theorem opened_perm (s : Session σ) (i : Nat) :
    s.opened.Perm ((s.traversal i).opened ++ s.openedBesides i) := by
  unfold traversal openedBesides
  cases ht : s.traversals[i]? with
  | none =>
    rw [set_over_of_none ht]
    exact List.Perm.refl _
  | some t =>
    obtain ⟨others, hopened, hset⟩ := exists_others ht
    exact hopened.trans ((hset .over).symm.append_left t.opened)

theorem opened_set_perm (s : Session σ) {i : Nat} {t : Traversal} (h : s.traversals[i]? = some t)
    (t' : Traversal) :
    ((s.traversals.set i t').flatMap Traversal.opened).Perm (t'.opened ++ s.openedBesides i) := by
  obtain ⟨others, hopened, hset⟩ := exists_others h
  exact (hset t').trans ((hset .over).symm.append_left t'.opened)

theorem getLast?_map_beside {xs : List (Moment σ)} {x : Moment σ} (h : xs.getLast? = some x)
    (others : List OpenScope) :
    (xs.map (.beside others)).getLast? = some (x.beside others) := by
  rw [List.getLast?_map, h]
  rfl

theorem opened_add (sec : Section) (k : Keeper σ) (s : Session σ) (r : Record) :
    (s.move sec k (.add r)).opened = s.opened := by
  simp only [move]
  cases k.add r s.collector.kept with
  | error problem => rfl
  | ok kept => rfl

theorem getLast?_moments (sec : Section) (k : Keeper σ) (s : Session σ) (m : Move) :
    ∃ x, (s.moments sec k m).getLast? = some x ∧ x.collector = (s.move sec k m).collector ∧
      x.opened.Perm (s.move sec k m).opened := by
  cases m with
  | start => exact ⟨_, rfl, rfl, by simp [move, opened, Traversal.opened]⟩
  | take i =>
    have hlast := Collector.getLast?_nextMoments sec k s.collector (s.traversal i)
    refine ⟨_, getLast?_map_beside hlast _, rfl, ?_⟩
    cases ht : s.traversals[i]? with
    | none =>
      have hover : s.traversal i = .over := by
        unfold traversal
        rw [ht]
        rfl
      simp only [move, taken, hover, Collector.next, Moment.beside, Traversal.opened,
        List.nil_append]
      exact List.Perm.refl _
    | some t => exact (opened_set_perm s ht _).symm
  | close i =>
    have hlast := Collector.getLast?_closeMoments s.collector (s.traversal i)
    exact ⟨_, getLast?_map_beside hlast _, rfl, List.Perm.refl _⟩
  | read =>
    have hlast := Collector.getLast?_moments_exhaust sec k sec.stops [] (s.collector.reset k)
    exact ⟨_, getLast?_map_beside hlast _, rfl, List.Perm.refl _⟩
  | reset => exact ⟨_, rfl, rfl, List.Perm.refl _⟩
  | add r => exact ⟨_, rfl, rfl, List.Perm.of_eq (opened_add sec k s r).symm⟩

theorem forall_map_beside {P : Moment σ → Prop} {others : List OpenScope} {xs : List (Moment σ)}
    (h : ∀ x ∈ xs, P (x.beside others)) : ∀ x ∈ xs.map (Moment.beside others), P x := by
  intro x hx
  obtain ⟨y, hy, rfl⟩ := List.mem_map.mp hx
  exact h y hy

section

variable {sec : Section} {k : Keeper σ} {Q : Collector σ → Prop} {s : Session σ}

theorem forall_collectors (hQ : Collector.Stable sec k Q) (h : Q s.collector) (m : Move) :
    ∀ x ∈ s.moments sec k m, Q x.collector := by
  cases m with
  | start => exact List.forall_mem_singleton.mpr h
  | take i =>
    apply forall_map_beside
    match s.traversal i with
    | .fresh => exact Collector.forall_moments hQ.steps (hQ.reset h) false
    | .paused stops opened => exact Collector.forall_moments hQ.steps h false
    | .over => exact List.forall_mem_singleton.mpr h
  | close i =>
    apply forall_map_beside
    match s.traversal i with
    | .fresh => exact List.forall_mem_singleton.mpr h
    | .paused stops opened => exact Collector.forall_leavingMoments hQ.steps h
    | .over => exact List.forall_mem_singleton.mpr h
  | read =>
    apply forall_map_beside
    exact Collector.forall_moments hQ.steps (hQ.reset h) true
  | reset => exact List.forall_mem_singleton.mpr (hQ.reset h)
  | add r =>
    intro x hx
    obtain rfl := List.mem_singleton.mp hx
    simp only [move]
    cases hkept : k.add r s.collector.kept with
    | error problem => exact h
    | ok kept => exact hQ.add h hkept

theorem collector_run (hQ : Collector.Stable sec k Q) (h : Q s.collector) (moves : List Move) :
    Q (s.run sec k moves).collector := by
  induction moves generalizing s with
  | nil => exact h
  | cons m moves ih =>
    obtain ⟨x, hlast, hx, -⟩ := getLast?_moments sec k s m
    apply ih
    rw [← hx]
    exact forall_collectors hQ h m x (List.mem_of_getLast? hlast)

theorem balanced_of_mem_moments (h : s.collector.Balanced s.opened) (m : Move) :
    ∀ x ∈ s.moments sec k m, x.collector.Balanced x.opened := by
  have hone {c : Collector σ} (hc : c.Balanced s.opened) :
      ∀ x ∈ [(⟨c, s.opened⟩ : Moment σ)], x.collector.Balanced x.opened :=
    List.forall_mem_singleton.mpr hc
  cases m with
  | start => exact hone h
  | take i =>
    apply forall_map_beside
    have hi := h.perm (s.opened_perm i)
    have hinvariant := Balanced.invariant sec k (s.openedBesides i)
    match s.traversal i, hi with
    | .fresh, hi => exact Collector.forall_moments hinvariant (hi.reset k) false
    | .paused stops opened, hi => exact Collector.forall_moments hinvariant hi false
    | .over, hi => exact List.forall_mem_singleton.mpr hi
  | close i =>
    apply forall_map_beside
    have hi := h.perm (s.opened_perm i)
    have hinvariant := Balanced.invariant sec k (s.openedBesides i)
    match s.traversal i, hi with
    | .fresh, hi => exact List.forall_mem_singleton.mpr hi
    | .paused stops opened, hi => exact Collector.forall_leavingMoments hinvariant hi
    | .over, hi => exact List.forall_mem_singleton.mpr hi
  | read =>
    apply forall_map_beside
    have hreset : (s.collector.reset k).Balanced ([] ++ s.opened) := h.reset k
    exact Collector.forall_moments (Balanced.invariant sec k s.opened) hreset true
  | reset => exact hone (h.reset k)
  | add r =>
    have hmove := move_balanced h sec k (.add r)
    rw [opened_add] at hmove
    exact hone hmove

end

theorem opened_of_not_paused {s : Session σ}
    (h : ∀ t ∈ s.traversals, ∀ stops opened, t ≠ .paused stops opened) : s.opened = [] := by
  apply List.flatMap_eq_nil_iff.mpr
  intro t ht
  match t with
  | .fresh => rfl
  | .paused stops opened => exact absurd rfl (h _ ht stops opened)
  | .over => rfl

/--
At every moment of every session each stack that its collector has had is as deep as scopes are open
in it, and so many more entries have been pushed on it than popped. So no scope is left while its
stack has nothing to pop. When no traversal is under way, all stacks are empty.
-/
theorem depth_of_mem_moments (sec : Section) (k : Keeper σ) (kept : σ) (history : List Move)
    (m : Move) :
    let s := (fresh kept).run sec k history
    (∀ x ∈ s.moments sec k m,
      (∀ (g : Nat) (scopes : Scopes), x.collector.generations[g]? = some scopes → ∀ kind,
        (scopes.counts kind).depth = x.opened.count ⟨g, kind⟩ ∧
          (scopes.counts kind).pushed = (scopes.counts kind).popped + (scopes.counts kind).depth) ∧
      (∀ o ∈ x.opened, ∃ scopes, x.collector.generations[o.generation]? = some scopes ∧
        0 < (scopes.counts o.kind).depth) ∧
      s.collector.generations.length ≤ x.collector.generations.length) ∧
    (∃ x, (s.moments sec k m).getLast? = some x ∧ x.collector = (s.move sec k m).collector ∧
      x.opened.Perm (s.move sec k m).opened) ∧
    ((∀ t ∈ s.traversals, ∀ stops opened, t ≠ .paused stops opened) →
      ∀ scopes ∈ s.collector.generations, ∀ kind, (scopes.counts kind).depth = 0) := by
  intro s
  have hbalanced : s.collector.Balanced s.opened := run_balanced (Balanced.fresh kept) sec k history
  refine ⟨?_, getLast?_moments sec k s m, ?_⟩
  · intro x hx
    have hbalanced := balanced_of_mem_moments hbalanced m x hx
    have hgeneration := forall_collectors (Collector.generation_stable sec k _) (Nat.le_refl _)
      m x hx
    refine ⟨?_, ?_, ?_⟩
    · intro g scopes hscopes kind
      exact hbalanced.depth_eq hscopes kind
    · intro o ho
      exact hbalanced.depth_pos ho
    · simpa [Collector.generations, Collector.generation] using hgeneration
  · intro hover scopes hscopes kind
    obtain ⟨g, hg⟩ := List.mem_iff_getElem?.mp hscopes
    rw [(hbalanced.depth_eq hg kind).1, opened_of_not_paused hover]
    rfl

theorem depth_of_mem_moments_titled :
    let s := (fresh ({} : Shelf)).run .titled .shelf [.start, .take 0, .start, .take 1]
    ⟨s.collector, [⟨1, .command⟩, ⟨2, .command⟩]⟩ ∈ s.moments .titled .shelf (.close 0) ∧
      (∃ scopes, s.collector.generations[1]? = some scopes ∧
        0 < (scopes.counts .command).depth) := by
  intro s
  have hmem : ⟨s.collector, [⟨1, .command⟩, ⟨2, .command⟩]⟩ ∈
      s.moments .titled .shelf (.close 0) := by
    with_unfolding_all exact List.mem_cons_self
  obtain ⟨hmoments, -, -⟩ := depth_of_mem_moments .titled .shelf {}
    [.start, .take 0, .start, .take 1] (.close 0)
  exact ⟨hmem, (hmoments _ hmem).2.1 ⟨1, .command⟩ List.mem_cons_self⟩

end Session
end Catalog
