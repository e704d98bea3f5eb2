import Catalog.Text.Blank
/-!
This module contains the reading of decimal numerals. Around them white space may stand, in front of
them a sign and zeros, between their digits single underscores, and behind them a fraction of zeros.
-/

namespace Catalog.Text

inductive NumeralFlaw where
  | malformed
  | tooLong
deriving DecidableEq, Repr, Inhabited

namespace Numeral

def maxLength : Nat := 4300

def amount (value : Nat) (digits : List Char) : Nat :=
  digits.foldl (fun n c => n * 10 + (c.toNat - '0'.toNat)) value

def digits? : List Char → Except NumeralFlaw Nat
  | ['0'] => .ok 0
  | '0' :: _ => .error .malformed
  | cs =>
    let digits := cs.takeWhile Char.isDigit
    -- Too many digits are too many whatever follows them.
    if maxLength < digits.length then .error .tooLong
    else if digits.isEmpty || digits.length < cs.length then .error .malformed
    else .ok (amount 0 digits)

def signed? : List Char → Except NumeralFlaw Int
  | '-' :: cs => (digits? cs).map fun n => -(n : Int)
  | cs => (digits? cs).map fun n => (n : Int)

def dropPlus? : List Char → Option (List Char)
  | '+' :: '-' :: _ => none
  | '+' :: cs => some cs
  | cs => some cs

def isLeading (c : Char) : Bool := c == '-' || ('1' ≤ c && c ≤ '9')

def dropZeros? : List Char → Option (List Char)
  -- The last character stays if a point or nothing at all follows.
  | '0' :: cs => go '0' cs
  | c :: cs => if isLeading c then some (c :: cs) else none
  | [] => none
where
  go (last : Char) : List Char → Option (List Char)
    | [] => some [last]
    | c :: cs =>
      if c = '0' || c = '_' then go c cs
      else if c = '.' then some (last :: c :: cs)
      else if isLeading c then some (c :: cs)
      else none

def dropZeroFraction (cs : List Char) : List Char :=
  match cs.span (· != '.') with
  | (whole, _ :: fraction) => if fraction != [] && fraction.all (· == '0') then whole else cs
  | (_, []) => cs

def separates : List Char → Bool
  | '_' :: _ => false
  | [_, '_'] => false
  | _ :: '_' :: c :: cs => separates (c :: cs)
  | _ :: cs => separates cs
  | [] => true

def dropSeparators (cs : List Char) : List Char :=
  if separates cs then cs.filter (· != '_') else cs

def bare? (cs : List Char) : Option (List Char) :=
  (dropZeros? cs).map fun cs => dropSeparators (dropZeroFraction cs)

def plain? (cs : List Char) : Option (List Char) :=
  match dropPlus? (trim isSpace cs) with
  | some ('-' :: cs) => (bare? cs).map ('-' :: ·)
  | some cs => bare? cs
  | none => none

end Numeral

def integer? (text : String) : Except NumeralFlaw Int :=
  match Numeral.signed? text.toList with
  | .error .malformed =>
    ((Numeral.plain? text.toList).bind fun cs => (Numeral.signed? cs).toOption).elim
      (.error .malformed) .ok
  | r => r

end Catalog.Text
