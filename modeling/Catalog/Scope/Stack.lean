/-!
This module contains stacks that count what is pushed and popped.
-/

namespace Catalog.Scope

/--
A stack of scope entries, the innermost first, with the numbers of pushes and pops so far.
-/
structure Stack (α : Type) where
  entries : List α := []
  pushed : Nat := 0
  popped : Nat := 0
deriving Repr, Inhabited

namespace Stack

variable {α : Type}

def depth (s : Stack α) : Nat := s.entries.length

def push (s : Stack α) (entry : α) : Stack α :=
  { s with entries := entry :: s.entries, pushed := s.pushed + 1 }

def pop? (s : Stack α) : Option (α × Stack α) :=
  match s.entries with
  | [] => none
  | entry :: entries => some (entry, { s with entries, popped := s.popped + 1 })

def leave (s : Stack α) : Stack α :=
  match s.pop? with
  | none => s
  | some (_, s) => s

def innermostFirst (s : Stack α) : List α := s.entries

def outermostFirst (s : Stack α) : List α := s.entries.reverse

end Stack
end Catalog.Scope
