import Catalog.Text.Numeral
/-!
This module contains loosely typed data, as a caller that does not know the types of a definition
hands it over, and the checks that turn it into text, truth values and numbers.
-/

namespace Catalog

inductive Datum where
  | null
  | truth (b : Bool)
  | integer (n : Int)
  | whole (n : Int)
  | fraction
  | text (s : String)
  | compound
deriving DecidableEq, Repr, Inhabited

abbrev Fields := List (String × Datum)

inductive Flaw where
  | missing
  | notText
  | unreadableTruth
  | notTruth
  | unreadableInteger
  | oversizedInteger
  | fractionalInteger
  | notInteger
  | belowMinimum
  | notAChoice
deriving DecidableEq, Repr, Inhabited

structure FieldProblem where
  field : String
  flaw : Flaw
deriving DecidableEq, Repr, Inhabited

abbrev Checked (α : Type) := Except (List FieldProblem) α

namespace Checked

def and {α β : Type} (a : Checked α) (b : Checked β) : Checked (α × β) :=
  match a, b with
  | .ok x, .ok y => .ok (x, y)
  | .ok _, .error qs => .error qs
  | .error ps, .ok _ => .error ps
  | .error ps, .error qs => .error (ps ++ qs)

end Checked

namespace Datum

def text? : Datum → Except Flaw String
  | .text s => .ok s
  | _ => .error .notText

def optionalText? : Datum → Except Flaw (Option String)
  | .null => .ok none
  | .text s => .ok (some s)
  | _ => .error .notText

def falseWords : List String := ["0", "off", "f", "false", "n", "no"]

def trueWords : List String := ["1", "on", "t", "true", "y", "yes"]

def inRange (n : Int) : Bool := n.natAbs < 0x8000000000000000

def inTruthRange (n : Int) : Bool := inRange n || n == -0x8000000000000000

def ofNumber? (n : Int) : Except Flaw Bool :=
  if n = 0 then .ok false
  else if n = 1 then .ok true
  else .error .unreadableTruth

def truth? : Datum → Except Flaw Bool
  | .truth b => .ok b
  | .integer n => if inTruthRange n then ofNumber? n else .error .notTruth
  | .whole n => if inRange n then ofNumber? n else .error .notTruth
  | .text s =>
    if falseWords.any (Text.isWord · s.toList) then .ok false
    else if trueWords.any (Text.isWord · s.toList) then .ok true
    else .error .unreadableTruth
  | _ => .error .notTruth

def integer? : Datum → Except Flaw Int
  | .integer n => .ok n
  | .whole n => if inRange n then .ok n else .error .oversizedInteger
  | .truth b => .ok (if b then 1 else 0)
  | .text s =>
    match Text.integer? s with
    | .ok n => .ok n
    | .error .malformed => .error .unreadableInteger
    | .error .tooLong => .error .oversizedInteger
  | .fraction => .error .fractionalInteger
  | _ => .error .notInteger

end Datum

namespace Fields

def require {α : Type} (fields : Fields) (name : String) (check : Datum → Except Flaw α) :
    Checked α :=
  match fields.lookup name with
  | none => .error [⟨name, .missing⟩]
  | some d => (check d).mapError fun flaw => [⟨name, flaw⟩]

def optional {α : Type} (fields : Fields) (name : String) (absent : α)
    (check : Datum → Except Flaw α) : Checked α :=
  match fields.lookup name with
  | none => .ok absent
  | some d => (check d).mapError fun flaw => [⟨name, flaw⟩]

end Fields
end Catalog
