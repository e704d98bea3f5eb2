import Catalog.Proofs.Collector.Step
import Catalog.Scope.Script
import Mathlib.Data.List.ReduceOption
/-!
This module contains the balance of the scopes of a collector: in each generation the stacks hold
just the scopes that traversals have open there, and pushes outnumber pops by as many. Every step of
a traversal keeps the balance, and so does its end.
-/

namespace Catalog

variable {σ : Type}

namespace Scope

structure Counts.Balanced (counts : Counts) (n : Nat) : Prop where
  depth : counts.depth = n
  pushed : counts.pushed = counts.popped + n

theorem Stack.counts_push_balanced {α : Type} {s : Stack α} {n : Nat} (entry : α)
    (h : s.counts.Balanced n) : (s.push entry).counts.Balanced (n + 1) := by
  have hdepth := h.depth
  have hpushed := h.pushed
  simp only [counts, Stack.depth] at hdepth hpushed
  constructor
  · simp [counts, Stack.depth, push, hdepth]
  · simp only [counts, push]
    omega

theorem Stack.counts_leave_balanced {α : Type} {s : Stack α} {n : Nat}
    (h : s.counts.Balanced (n + 1)) : s.leave.counts.Balanced n := by
  obtain ⟨entries, pushed, popped⟩ := s
  cases entries with
  | nil => simpa [counts, Stack.depth] using h.depth
  | cons entry entries =>
    have hdepth := h.depth
    have hpushed := h.pushed
    simp only [counts, Stack.depth, List.length_cons] at hdepth hpushed
    constructor
    · simp only [counts, Stack.depth, leave, pop?]
      omega
    · simp only [counts, leave, pop?]
      omega

theorem Stack.entries_leave {α : Type} {s : Stack α} {entry : α} {entries : List α}
    (h : s.entries = entry :: entries) : s.leave.entries = entries := by
  simp only [leave, pop?, h]

theorem Stack.pushed_leave {α : Type} (s : Stack α) : s.leave.pushed = s.pushed := by
  obtain ⟨entries, pushed, popped⟩ := s
  cases entries with
  | nil => rfl
  | cons entry entries => rfl

end Scope

namespace Scopes

def counts (s : Scopes) : ScopeKind → Scope.Counts
  | .command => s.commands.counts
  | .variable => s.vars.counts

theorem counts_leaveIn_balanced {s : Scopes} {n : Nat} (kind : ScopeKind)
    (h : (s.counts kind).Balanced (n + 1)) :
    ((Collector.leaveIn kind s).counts kind).Balanced n := by
  match kind with
  | .command => exact Scope.Stack.counts_leave_balanced h
  | .variable => exact Scope.Stack.counts_leave_balanced h

theorem counts_leaveIn_of_ne (s : Scopes) {kind other : ScopeKind} (h : other ≠ kind) :
    (Collector.leaveIn kind s).counts other = s.counts other := by
  match kind, other with
  | .command, .command => contradiction
  | .command, .variable => rfl
  | .variable, .command => rfl
  | .variable, .variable => contradiction

theorem pushed_leaveIn (s : Scopes) (kind other : ScopeKind) :
    ((Collector.leaveIn kind s).counts other).pushed = (s.counts other).pushed := by
  match kind, other with
  | .command, .command => exact Scope.Stack.pushed_leave s.commands
  | .command, .variable => rfl
  | .variable, .command => rfl
  | .variable, .variable => exact Scope.Stack.pushed_leave s.vars

end Scopes

namespace Collector

def generations (c : Collector σ) : List Scopes := c.earlier ++ [c.present]

theorem generations_of_present (c : Collector σ) (f : Scopes → Scopes) :
    generations { c with present := f c.present } = c.generations.modify c.generation f := by
  unfold generations generation
  apply List.ext_getElem?
  grind

theorem generations_leave {c : Collector σ} {o : OpenScope} (h : o.generation ≤ c.generation) :
    (c.leave o).generations = c.generations.modify o.generation (leaveIn o.kind) := by
  unfold leave
  split
  · next heq =>
    rw [heq]
    apply generations_of_present
  · next hne =>
    unfold generations
    unfold generation at h hne
    apply List.ext_getElem?
    grind

theorem leave_of_generation_eq {c : Collector σ} {g : Nat} (h : c.generation = g)
    (kind : ScopeKind) : c.leave ⟨g, kind⟩ = { c with present := leaveIn kind c.present } := by
  simp only [leave, h, if_true]

theorem generation_leave (c : Collector σ) (o : OpenScope) :
    (c.leave o).generation = c.generation := by
  unfold leave
  split
  · rfl
  · simp [generation]

structure Balanced (c : Collector σ) (os : List OpenScope) : Prop where
  le : ∀ o ∈ os, o.generation ≤ c.generation
  counts : ∀ (g : Nat) (s : Scopes), c.generations[g]? = some s →
    ∀ kind, (s.counts kind).Balanced (os.count ⟨g, kind⟩)

namespace Balanced

theorem of_generations_eq {c c' : Collector σ} {os : List OpenScope} (h : c.Balanced os)
    (heq : c'.generations = c.generations) : c'.Balanced os := by
  have hlength : c'.generation = c.generation := by
    have := congrArg List.length heq
    simpa [generations, generation] using this
  constructor
  · intro o ho
    rw [hlength]
    exact h.le o ho
  · rw [heq]
    exact h.counts

theorem fresh (kept : σ) : Balanced { kept } [] := by
  constructor
  · simp
  · intro g s hs kind
    obtain rfl : s = {} := by
      have := List.mem_of_getElem? hs
      simpa [generations] using this
    match kind with
    | .command => exact ⟨rfl, rfl⟩
    | .variable => exact ⟨rfl, rfl⟩

theorem present {c : Collector σ} {os : List OpenScope} (h : c.Balanced os) (kind : ScopeKind) :
    (c.present.counts kind).Balanced (os.count ⟨c.generation, kind⟩) := by
  apply h.counts
  simp [generations, generation]

theorem reset {c : Collector σ} {os : List OpenScope} (h : c.Balanced os) (k : Keeper σ) :
    (c.reset k).Balanced os := by
  have hgenerations : (c.reset k).generations = c.generations ++ [({} : Scopes)] := by
    rfl
  have hle : ∀ o ∈ os, o.generation ≤ c.generation := h.le
  constructor
  · intro o ho
    have := hle o ho
    simp only [generation, Collector.reset, List.length_append, List.length_singleton] at this ⊢
    omega
  · intro g s hs kind
    rw [hgenerations, List.getElem?_append] at hs
    split at hs
    · exact h.counts g s hs kind
    · next hlt =>
      -- Nothing is open in scopes that are new.
      obtain rfl : s = {} := by
        have := List.mem_of_getElem? hs
        simpa using this
      have hcount : os.count ⟨g, kind⟩ = 0 := by
        rw [List.count_eq_zero]
        intro hmem
        have := hle _ hmem
        simp only [generations, generation, List.length_append, List.length_singleton] at hlt this
        omega
      rw [hcount]
      match kind with
      | .command => exact ⟨rfl, rfl⟩
      | .variable => exact ⟨rfl, rfl⟩

theorem enter {c : Collector σ} {os : List OpenScope} (h : c.Balanced os) (kind : ScopeKind)
    {f : Scopes → Scopes}
    (hf : ∀ s n, (s.counts kind).Balanced n → ((f s).counts kind).Balanced (n + 1))
    (hf' : ∀ s other, other ≠ kind → (f s).counts other = s.counts other) :
    Balanced { c with present := f c.present } (⟨c.generation, kind⟩ :: os) := by
  constructor
  · intro o ho
    rw [List.mem_cons] at ho
    cases ho with
    | inl heq => exact Nat.le_of_eq (congrArg OpenScope.generation heq)
    | inr hmem => exact h.le o hmem
  · intro g s hs other
    rw [generations_of_present, List.getElem?_modify] at hs
    obtain ⟨s', hs', rfl⟩ := Option.map_eq_some_iff.mp hs
    have hbefore := h.counts g s' hs' other
    rw [List.count_cons]
    split
    · next hg =>
      by_cases hkind : other = kind
      · rw [hkind] at hbefore ⊢
        simpa [hg] using hf s' _ hbefore
      · rw [hf' s' other hkind]
        simpa [Ne.symm hkind] using hbefore
    · next hg =>
      simpa [hg] using hbefore

theorem leave {c : Collector σ} {o : OpenScope} {os : List OpenScope} (h : c.Balanced (o :: os)) :
    (c.leave o).Balanced os := by
  have ho : o.generation ≤ c.generation := h.le o List.mem_cons_self
  constructor
  · intro o' ho'
    rw [generation_leave]
    exact h.le o' (List.mem_cons_of_mem o ho')
  · intro g s hs other
    rw [generations_leave ho, List.getElem?_modify] at hs
    obtain ⟨s', hs', rfl⟩ := Option.map_eq_some_iff.mp hs
    have hbefore := h.counts g s' hs' other
    obtain ⟨generation, kind⟩ := o
    rw [List.count_cons] at hbefore
    split
    · next hg =>
      simp only at hg
      by_cases hkind : other = kind
      · rw [hkind] at hbefore ⊢
        exact Scopes.counts_leaveIn_balanced kind (by simpa [hg] using hbefore)
      · simp only
        rw [Scopes.counts_leaveIn_of_ne s' hkind]
        simpa [Ne.symm hkind] using hbefore
    · next hg =>
      simpa [hg] using hbefore

theorem leaveAll {c : Collector σ} {os others : List OpenScope} (h : c.Balanced (os ++ others)) :
    (os.foldl Collector.leave c).Balanced others := by
  induction os generalizing c with
  | nil => exact h
  | cons o os ih =>
    rw [List.foldl_cons]
    apply ih
    exact leave h

theorem finish {c : Collector σ} {opened : List (Option OpenScope)} {others : List OpenScope}
    (h : c.Balanced (opened.reduceOption ++ others)) : (c.finish opened).Balanced others :=
  (leaveAll h).of_generations_eq rfl

section

variable {c c' : Collector σ} {sec : Section} {k : Keeper σ} {stop : Stop}
  {opened opened' : List (Option OpenScope)} {others : List OpenScope}

theorem moved (h : c.Balanced (opened.reduceOption ++ others))
    (hstep : c.step sec k opened stop = .moved c' opened') :
    c'.Balanced (opened'.reduceOption ++ others) := by
  obtain ⟨e, entry, -, rfl, rfl⟩ | ⟨v, rfl, rfl⟩ | ⟨rfl, rfl⟩ | ⟨rfl, rfl⟩ | ⟨rfl, rfl⟩ |
    ⟨o, rfl, rfl⟩ := step_moved hstep
  · apply h.enter .command (f := fun s => { s with commands := s.commands.push entry })
    · intro s n hs
      exact Scope.Stack.counts_push_balanced entry hs
    · intro s other hother
      match other with
      | .command => contradiction
      | .variable => rfl
  · apply h.enter .variable (f := fun s => { s with vars := s.vars.push v })
    · intro s n hs
      exact Scope.Stack.counts_push_balanced v hs
    · intro s other hother
      match other with
      | .command => rfl
      | .variable => contradiction
  · exact h
  · exact h
  · exact h
  · exact leave h

theorem yielded {r : Record} (h : c.Balanced others)
    (hstep : c.step sec k opened stop = .yielded r c') : c'.Balanced others := by
  obtain ⟨e, kept, -, -, rfl⟩ := step_yielded hstep
  exact h.of_generations_eq rfl

theorem failed {f : Fault} (h : c.Balanced others)
    (hstep : c.step sec k opened stop = .failed f c') : c'.Balanced others := by
  obtain rfl | ⟨id, rfl⟩ := step_failed hstep
  · exact h
  · exact h.of_generations_eq rfl

end

end Balanced
end Collector
end Catalog
