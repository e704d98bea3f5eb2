import Catalog.Proofs.Collector.Balance
import Catalog.Scope.Basic
/-!
This module contains what programs do to a scope stack. In every state that they come to the counts
agree with the depth. Blocks in which all else is balanced restore the entries, however they are
left, so that a variable is visible in its block and nowhere else.
-/

namespace Catalog.Scope

variable {α β κ σ : Type}

namespace Stack

def Counted (s : Stack α) : Prop := s.depth + s.popped = s.pushed

theorem Counted.push {s : Stack α} (h : s.Counted) (entry : α) : (s.push entry).Counted := by
  unfold Counted depth at h ⊢
  simp only [Stack.push, List.length_cons]
  omega

theorem Counted.leave {s : Stack α} (h : s.Counted) : s.leave.Counted := by
  obtain ⟨entries, pushed, popped⟩ := s
  cases entries with
  | nil => exact h
  | cons entry entries =>
    unfold Counted depth at h ⊢
    simp only [Stack.leave, pop?, List.length_cons] at h ⊢
    omega

theorem pop?_eq_none_iff {s : Stack α} : s.pop? = none ↔ s.entries = [] := by
  obtain ⟨entries, pushed, popped⟩ := s
  cases entries with
  | nil => simp [pop?]
  | cons entry entries => simp [pop?]

theorem pop?_of_entries {s : Stack α} {entry : α} {entries : List α}
    (h : s.entries = entry :: entries) : s.pop? = some (entry, s.leave) := by
  simp only [leave, pop?, h]

end Stack

namespace Step

section

variable (reply : Stack α → σ → κ → β × σ)

theorem stack_runAll_cons (step : Step α κ) (steps : List (Step α κ)) (s : Stack α) (st : σ) :
    (runAll reply (step :: steps) s st).2 =
      (runAll reply steps (step.run reply s st).2.1 (step.run reply s st).2.2).2 := by
  rfl

theorem stack_runAll_append (first second : List (Step α κ)) (s : Stack α) (st : σ) :
    (runAll reply (first ++ second) s st).2 =
      (runAll reply second (runAll reply first s st).2.1 (runAll reply first s st).2.2).2 := by
  induction first generalizing s st with
  | nil => rfl
  | cons step first ih =>
    rw [List.cons_append, stack_runAll_cons, ih]
    rfl

theorem run_pop_of_nil {s : Stack α} (h : s.entries = []) (st : σ) :
    Step.pop.run reply s st = (.nothingToPop, s, st) := by
  rw [run, Stack.pop?_eq_none_iff.mpr h]

theorem stack_run_pop (s : Stack α) (st : σ) : (Step.pop.run reply s st).2.1 = s.leave := by
  rw [run, Stack.leave]
  cases s.pop? with
  | none => rfl
  | some p => rfl

theorem run_block_of_nil (failing : Bool) (entry : α) (body : List (Step α κ)) (s : Stack α)
    (st : σ) (h : (runAll reply body (s.push entry) st).2.1.entries = []) :
    (Step.block failing entry body).run reply s st =
      (.nothingToPop, (runAll reply body (s.push entry) st).2) := by
  simp only [run, Stack.pop?_eq_none_iff.mpr h]

theorem run_block_of_cons (failing : Bool) (entry : α) (body : List (Step α κ)) (s : Stack α)
    (st : σ) {top : α} {entries : List α}
    (h : (runAll reply body (s.push entry) st).2.1.entries = top :: entries) :
    (Step.block failing entry body).run reply s st =
      (if failing then .failed else .left entry (runAll reply body (s.push entry) st).1,
        (runAll reply body (s.push entry) st).2.1.leave,
        (runAll reply body (s.push entry) st).2.2) := by
  simp only [run, Stack.pop?_of_entries h]

theorem stack_run_block (failing : Bool) (entry : α) (body : List (Step α κ)) (s : Stack α)
    (st : σ) :
    ((Step.block failing entry body).run reply s st).2.1 =
      (runAll reply body (s.push entry) st).2.1.leave := by
  cases h : (runAll reply body (s.push entry) st).2.1.entries with
  | nil =>
    rw [run_block_of_nil reply failing entry body s st h, Stack.leave,
      Stack.pop?_eq_none_iff.mpr h]
  | cons top entries => rw [run_block_of_cons reply failing entry body s st h]

mutual

theorem counted_run (step : Step α κ) {s : Stack α} (st : σ) (h : s.Counted) :
    (step.run reply s st).2.1.Counted := by
  cases step with
  | push entry => exact h.push entry
  | pop =>
    rw [stack_run_pop]
    exact h.leave
  | block failing entry body =>
    rw [stack_run_block]
    exact (counted_runAll body st (h.push entry)).leave
  | ask question => exact h

theorem counted_runAll (steps : List (Step α κ)) {s : Stack α} (st : σ) (h : s.Counted) :
    (runAll reply steps s st).2.1.Counted := by
  cases steps with
  | nil => exact h
  | cons step steps => exact counted_runAll steps _ (counted_run step st h)

end

inductive Reaches : List (Step α κ) → Stack α → σ → Stack α → Prop where
  | start {steps : List (Step α κ)} {s : Stack α} {st : σ} : Reaches steps s st s
  | inside {failing : Bool} {entry : α} {body steps : List (Step α κ)} {s t : Stack α} {st : σ}
    (h : Reaches body (s.push entry) st t) : Reaches (.block failing entry body :: steps) s st t
  | next {step : Step α κ} {steps : List (Step α κ)} {s t : Stack α} {st : σ}
    (h : Reaches steps (step.run reply s st).2.1 (step.run reply s st).2.2 t) :
    Reaches (step :: steps) s st t

variable {reply} {steps : List (Step α κ)} {s t : Stack α} {st : σ}

theorem Reaches.counted (h : Reaches reply steps s st t) (hs : s.Counted) : t.Counted := by
  induction h with
  | start => exact hs
  | inside _ ih => exact ih (hs.push _)
  | next _ ih => exact ih (counted_run reply _ _ hs)

theorem reaches_runAll (reply : Stack α → σ → κ → β × σ) (steps : List (Step α κ)) (s : Stack α)
    (st : σ) : Reaches reply steps s st (runAll reply steps s st).2.1 := by
  induction steps generalizing s st with
  | nil => exact .start
  | cons step steps ih => exact .next (ih _ _)

theorem Reaches.of_append {first second : List (Step α κ)}
    (h : Reaches reply (first ++ second) s st t) :
    Reaches reply first s st t ∨
      Reaches reply second (runAll reply first s st).2.1 (runAll reply first s st).2.2 t := by
  induction first generalizing s st with
  | nil => exact .inr h
  | cons step first ih =>
    cases h with
    | start => exact .inl .start
    | inside h => exact .inl (.inside h)
    | next h => exact (ih h).imp_left .next

end

/--
Programs of blocks, of pushes that a pop follows, and of questions. Between a push and its pop there
is such a program again, and so is the body of a block. What an error skips is not run and stands in
no program: a block that fails has run its body up to there.
-/
inductive Balanced : List (Step α κ) → Prop where
  | nil : Balanced []
  | ask {steps : List (Step α κ)} (question : κ) (h : Balanced steps) :
    Balanced (.ask question :: steps)
  | block {body steps : List (Step α κ)} (failing : Bool) (entry : α) (hbody : Balanced body)
    (h : Balanced steps) : Balanced (.block failing entry body :: steps)
  | paired {body steps : List (Step α κ)} (entry : α) (hbody : Balanced body) (h : Balanced steps) :
    Balanced (.push entry :: (body ++ .pop :: steps))

namespace Balanced

variable (reply : Stack α → σ → κ → β × σ) {steps body : List (Step α κ)}

theorem entries_runAll (h : Balanced steps) (s : Stack α) (st : σ) :
    (runAll reply steps s st).2.1.entries = s.entries := by
  induction h generalizing s st with
  | nil => rfl
  | ask question _ ih => exact ih s _
  | block failing entry _ _ ihbody ih =>
    rw [stack_runAll_cons, ih, stack_run_block, Stack.entries_leave (ihbody (s.push entry) st)]
  | paired entry _ _ ihbody ih =>
    rw [stack_runAll_cons, stack_runAll_append, stack_runAll_cons, ih, stack_run_pop]
    exact Stack.entries_leave (ihbody (s.push entry) st)

theorem run_block (h : Balanced body) (failing : Bool) (entry : α) (s : Stack α) (st : σ) :
    ((Step.block failing entry body).run reply s st).1 =
        (if failing then .failed else .left entry (runAll reply body (s.push entry) st).1) ∧
      ((Step.block failing entry body).run reply s st).2.1.entries = s.entries := by
  have hbody := h.entries_runAll reply (s.push entry) st
  rw [run_block_of_cons reply failing entry body s st hbody]
  exact ⟨rfl, Stack.entries_leave hbody⟩

theorem exists_of_reaches {t : Stack α} {st : σ} (h : Balanced steps) {s : Stack α}
    (ht : Reaches reply steps s st t) : ∃ opened, t.entries = opened ++ s.entries := by
  induction h generalizing s st with
  | nil =>
    cases ht with
    | start => exact ⟨[], rfl⟩
  | ask question _ ih =>
    cases ht with
    | start => exact ⟨[], rfl⟩
    | next ht => exact ih ht
  | block failing entry hbody _ ihbody ih =>
    cases ht with
    | start => exact ⟨[], rfl⟩
    | inside ht =>
      obtain ⟨opened, hopened⟩ := ihbody ht
      refine ⟨opened ++ [entry], ?_⟩
      rw [hopened, List.append_assoc]
      rfl
    | next ht =>
      obtain ⟨opened, hopened⟩ := ih ht
      refine ⟨opened, ?_⟩
      rw [hopened, (hbody.run_block reply failing entry s st).2]
  | paired entry hbody _ ihbody ih =>
    cases ht with
    | start => exact ⟨[], rfl⟩
    | next ht =>
      have hentries := hbody.entries_runAll reply (s.push entry) st
      obtain ht | ht := ht.of_append
      · obtain ⟨opened, hopened⟩ := ihbody ht
        refine ⟨opened ++ [entry], ?_⟩
        rw [hopened, List.append_assoc]
        rfl
      · cases ht with
        | start => exact ⟨[entry], hentries⟩
        | next ht =>
          obtain ⟨opened, hopened⟩ := ih ht
          refine ⟨opened, ?_⟩
          rw [hopened, stack_run_pop]
          exact congrArg (opened ++ ·) (Stack.entries_leave hentries)

end Balanced

end Step

namespace Stack

variable {entity : Entity} {s t : Stack Variable} {name : String}

theorem lookup_congr (h : t.entries = s.entries) : t.lookup entity name = s.lookup entity name := by
  unfold lookup findVariable?
  rw [h]

theorem lookup_of_unbound (h : ∀ v ∈ s.entries, v.name ≠ name) :
    s.lookup entity name = (entity.findVariable? name).map (·.value) := by
  have hnone : s.entries.find? (·.name == name) = none := by
    rw [List.find?_eq_none]
    intro v hv
    simpa using h v hv
  unfold lookup findVariable?
  rw [hnone]

theorem lookup_of_bound {inner outer : List Variable} {v : Variable}
    (hentries : s.entries = inner ++ v :: outer) (hv : v.name = name)
    (h : ∀ u ∈ inner, u.name ≠ name) : s.lookup entity name = some v.value := by
  have hsome : s.entries.find? (·.name == name) = some v := by
    rw [hentries, List.find?_eq_some_iff_append]
    refine ⟨by simpa using hv, inner, outer, rfl, ?_⟩
    intro u hu
    simpa using h u hu
  unfold lookup findVariable?
  rw [hsome]
  rfl

theorem lookup_of_other {inner : List Variable} (hentries : t.entries = inner ++ s.entries)
    (h : ∀ u ∈ inner, u.name ≠ name) : t.lookup entity name = s.lookup entity name := by
  have hnone : inner.find? (·.name == name) = none := by
    rw [List.find?_eq_none]
    intro u hu
    simpa using h u hu
  unfold lookup findVariable?
  rw [hentries, List.find?_append, hnone, Option.none_or]

theorem lookup_of_pushed {inner : List Variable} {v : Variable}
    (hentries : t.entries = inner ++ (s.push v).entries) (h : ∀ u ∈ inner, u.name ≠ name) :
    t.lookup entity name = if name = v.name then some v.value else s.lookup entity name := by
  split
  · next hname => exact lookup_of_bound hentries hname.symm h
  · next hname =>
    have hothers : t.entries = inner ++ [v] ++ s.entries := by
      rw [hentries, List.append_assoc]
      rfl
    apply lookup_of_other hothers
    intro u hu
    obtain hu | hu := List.mem_append.mp hu
    · exact h u hu
    · rw [List.mem_singleton.mp hu]
      exact Ne.symm hname

end Stack

namespace Step

structure Disciplined (reply : Stack α → σ → κ → β × σ) : Prop where
  depth : ∀ (steps : List (Step α κ)) (st : σ) (t : Stack α), Reaches reply steps {} st t →
    t.depth + t.popped = t.pushed
  last : ∀ (steps : List (Step α κ)) (s : Stack α) (st : σ),
    Reaches reply steps s st (runAll reply steps s st).2.1
  pop : ∀ (s : Stack α) (st : σ), s.entries = [] →
    Step.pop.run reply s st = (.nothingToPop, s, st)
  leave : ∀ (failing : Bool) (entry : α) (body : List (Step α κ)) (s : Stack α) (st : σ),
    (runAll reply body (s.push entry) st).2.1.entries = [] →
      (Step.block failing entry body).run reply s st =
        (.nothingToPop, (runAll reply body (s.push entry) st).2)
  block : ∀ (failing : Bool) (entry : α) (body : List (Step α κ)), Balanced body →
    ∀ (s : Stack α) (st : σ),
      ((Step.block failing entry body).run reply s st).1 =
          (if failing then .failed else .left entry (runAll reply body (s.push entry) st).1) ∧
        ((Step.block failing entry body).run reply s st).2.1.entries = s.entries

structure Scoped (entity : Entity) (reply : Stack Variable → σ → κ → β × σ) (v : Variable)
    (body : List (Step Variable κ)) : Prop where
  between : ∀ first second, body = first ++ second → Balanced first →
    ∀ (s : Stack Variable) (st : σ) (name : String),
      (runAll reply first (s.push v) st).2.1.lookup entity name =
        if name = v.name then some v.value else s.lookup entity name
  inside : ∀ (s : Stack Variable) (st : σ) (t : Stack Variable),
    Reaches reply body (s.push v) st t → ∃ opened, t.entries = opened ++ v :: s.entries ∧
      ∀ name, (∀ u ∈ opened, u.name ≠ name) →
        t.lookup entity name = if name = v.name then some v.value else s.lookup entity name
  behind : ∀ (failing : Bool) (s : Stack Variable) (st : σ) (name : String),
    ((Step.block failing v body).run reply s st).2.1.lookup entity name = s.lookup entity name

/--
In every state of a program the entries are the pushes that were not popped, and a pop that fails
changes nothing. A block with a balanced body restores the entries, whether it fails or not. So a
variable is visible in its block, and behind it all is as before. The innermost entry that binds a
name counts, and the entity and its bases only if there is none.
-/
theorem disciplined {β' κ' σ' : Type} (reply : Stack α → σ → κ → β × σ) (entity : Entity)
    (reply' : Stack Variable → σ' → κ' → β' × σ') :
    Disciplined reply ∧
      (∀ v body, Balanced body → Scoped entity reply' v body) ∧
      (∀ (s : Stack Variable) inner v outer, s.entries = inner ++ v :: outer →
        (∀ u ∈ inner, u.name ≠ v.name) → s.lookup entity v.name = some v.value) ∧
      ∀ (s : Stack Variable) name, (∀ v ∈ s.entries, v.name ≠ name) →
        s.lookup entity name = (entity.findVariable? name).map (·.value) := by
  refine ⟨⟨?_, ?_, ?_, ?_, ?_⟩, ?_, ?_, ?_⟩
  · intro steps st t ht
    exact ht.counted rfl
  · intro steps s st
    apply reaches_runAll
  · intro s st h
    exact run_pop_of_nil reply h st
  · intro failing entry body s st h
    exact run_block_of_nil reply failing entry body s st h
  · intro failing entry body hbody s st
    exact hbody.run_block reply failing entry s st
  · intro v body hbody
    constructor
    · rintro first second - hfirst s st name
      have hentries : (runAll reply' first (s.push v) st).2.1.entries =
          [] ++ (s.push v).entries :=
        hfirst.entries_runAll reply' (s.push v) st
      exact Stack.lookup_of_pushed hentries (by simp)
    · intro s st t ht
      obtain ⟨opened, hopened⟩ := hbody.exists_of_reaches reply' ht
      exact ⟨opened, hopened, fun name h => Stack.lookup_of_pushed hopened h⟩
    · intro failing s st name
      exact Stack.lookup_congr (hbody.run_block reply' failing v s st).2
  · intro s inner v outer hentries h
    exact Stack.lookup_of_bound hentries rfl h
  · intro s name h
    exact Stack.lookup_of_unbound h

theorem disciplined_shadowed :
    let entity : Entity := { own := { vars := [⟨"w", "0"⟩] } }
    let reply : Stack Variable → Unit → Empty → Unit × Unit := fun _ st _ => ((), st)
    let body : List (Step Variable Empty) := [.block true ⟨"v", "2"⟩ [], .push ⟨"w", "3"⟩, .pop]
    let inner := (runAll reply body (Stack.push {} ⟨"v", "1"⟩) ()).2.1
    let outer := ((Step.block true ⟨"v", "1"⟩ body).run reply {} ()).2.1
    Balanced body ∧ inner.lookup entity "v" = some "1" ∧ inner.lookup entity "w" = some "0" ∧
      outer.lookup entity "v" = none ∧ outer.entries = [] ∧
      Step.pop.run reply outer () = (.nothingToPop, outer, ()) := by
  intro entity reply body inner outer
  have hbody : Balanced body := .block true _ .nil (.paired _ .nil .nil)
  obtain ⟨hstack, hvariable, -, -⟩ := disciplined reply entity reply
  have hscoped := hvariable ⟨"v", "1"⟩ body hbody
  have houter : outer.entries = [] := (hstack.block true _ body hbody {} ()).2
  refine ⟨hbody, ?_, ?_, ?_, houter, hstack.pop outer () houter⟩
  · exact hscoped.between body [] (List.append_nil body).symm hbody {} () "v"
  · exact hscoped.between body [] (List.append_nil body).symm hbody {} () "w"
  · exact hscoped.behind true {} () "v"

end Step
end Catalog.Scope
