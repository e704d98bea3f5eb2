import Catalog.Scope.Stack
/-!
This module contains programs over a scope stack. Besides single pushes and pops they have blocks,
which push an entry, run their body and pop one entry when they are left, whether the body ends or
fails. A block whose closing pop finds no entry fails for that reason, whatever its body did.
-/

namespace Catalog.Scope

inductive Step (α κ : Type) where
  | push (entry : α)
  | pop
  | block (failing : Bool) (entry : α) (body : List (Step α κ))
  | ask (question : κ)
deriving Inhabited

structure Counts where
  depth : Nat
  pushed : Nat
  popped : Nat
deriving DecidableEq, Repr, Inhabited

def Stack.counts {α : Type} (s : Stack α) : Counts := ⟨s.depth, s.pushed, s.popped⟩

inductive Answer (α β : Type) where
  | pushed
  | popped (entry : α)
  | nothingToPop
  | left (entry : α) (inner : List (Answer α β × Counts))
  | failed
  | told (reply : β)
deriving Inhabited

namespace Step

variable {α κ β σ : Type}

mutual

def run (reply : Stack α → σ → κ → β × σ) : Step α κ → Stack α → σ → Answer α β × Stack α × σ
  | .push entry, s, st => (.pushed, s.push entry, st)
  | .pop, s, st =>
    match s.pop? with
    | none => (.nothingToPop, s, st)
    | some (entry, s) => (.popped entry, s, st)
  | .block failing entry body, s, st =>
    let (inner, s, st) := runAll reply body (s.push entry) st
    match s.pop? with
    | none => (.nothingToPop, s, st)
    | some (_, s) => (if failing then .failed else .left entry inner, s, st)
  | .ask question, s, st =>
    let (answer, st) := reply s st question
    (.told answer, s, st)

def runAll (reply : Stack α → σ → κ → β × σ) : List (Step α κ) → Stack α → σ →
    List (Answer α β × Counts) × Stack α × σ
  | [], s, st => ([], s, st)
  | step :: steps, s, st =>
    let (answer, s, st) := step.run reply s st
    let (answers, s', st) := runAll reply steps s st
    ((answer, s.counts) :: answers, s', st)

end

end Step
end Catalog.Scope
