import Catalog.Value.Token
/-!
This module contains the resolution of raw values: every `$(name)` is replaced by what the variable
`name` holds and `$$` by a single `$`. What a variable holds is inserted as it is and not read
again.
-/

namespace Catalog.Value

structure Failure where
  reason : Reason
  position : Nat
deriving DecidableEq, Repr, Inhabited

/--
The outcome of a resolution: the names that were asked for, in order, and the text or the failure.
-/
structure Resolution where
  asked : List String
  result : Except Failure (List Char)

namespace Resolution

def after (text : List Char) (r : Resolution) : Resolution :=
  { r with result := r.result.map (text ++ ·) }

def asking (name : String) (r : Resolution) : Resolution :=
  { r with asked := name :: r.asked }

end Resolution

def evaluate (lookup : String → Option String) (mistake : Option Reason) (position : Nat) :
    List Token → Resolution
  | [] =>
    match mistake with
    | none => ⟨[], .ok []⟩
    | some reason => ⟨[], .error ⟨reason, position⟩⟩
  | .char c :: ts => (evaluate lookup mistake (position + (Token.char c).width) ts).after [c]
  | .reference name :: ts =>
    let name' := String.ofList name
    match lookup name' with
    | none => ⟨[name'], .error ⟨.undefined name', position⟩⟩
    | some value =>
      ((evaluate lookup mistake (position + (Token.reference name).width) ts).after
        value.toList).asking name'

def scan (lookup : String → Option String) (raw : List Char) : Resolution :=
  evaluate lookup (Token.read raw).2 0 (Token.read raw).1

@[irreducible]
def resolve (lookup : String → Option String) (raw : List Char) : Resolution :=
  -- A raw value without a marker stands for itself, there is nothing to look for in it.
  if '$' ∈ raw then scan lookup raw else ⟨[], .ok raw⟩

end Catalog.Value

namespace Catalog

structure ValueError where
  value : String
  reason : Value.Reason
  position : Option Int
deriving DecidableEq, Repr, Inhabited

def ValueError.message (e : ValueError) : String :=
  let place :=
    match e.position with
    | none => ""
    | some n => " at position " ++ toString n
  "Invalid value '" ++ e.value ++ "'" ++ place ++ ": " ++ e.reason.message

def resolve? (lookup : String → Option String) (raw : String) : Except ValueError String :=
  match (Value.resolve lookup raw.toList).result with
  | .ok text => .ok (String.ofList text)
  | .error f => .error ⟨raw, f.reason, some f.position⟩

end Catalog
