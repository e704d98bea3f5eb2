import Catalog.Charset.Basic
/-!
This module contains the sets of characters in which a backslash and the digits of its number stand
for a character.
-/

namespace Catalog.Charset

def escapeDigit? (b : UInt8) : Option Nat :=
  -- All letters count as digits, whatever their case.
  (offset? '0'.toUInt8 '9'.toUInt8 b)
    |>.or ((offset? 'A'.toUInt8 'Z'.toUInt8 b).map (10 + ·))
    |>.or ((offset? 'a'.toUInt8 'z'.toUInt8 b).map (10 + ·))

def escaped? (letter : Char) (count : Nat) (bytes : List UInt8) : Option Nat :=
  -- What is too large for the four bits of a digit goes to the next ones.
  match bytes with
  | [] => none
  | b :: bytes =>
    if b = letter.toUInt8 then do
      let digits ← (bytes.take count).mapM escapeDigit?
      if digits.length = count then
        some (digits.foldl (fun n d => n * 16 ||| d) 0 % 0x100000000)
      else
        none
    else
      none

def javaEscape? (bytes : List UInt8) : Option (Char × Nat) := do
  let n ← escaped? 'u' 4 bytes
  if n.isValidChar then
    some (Char.ofNat n, 5)
  else
    let low ←
      match bytes.drop 5 with
      | [] => none
      | b :: bytes => if b = '\\'.toUInt8 then escaped? 'u' 4 bytes else none
    if n < 0xDC00 ∧ 0xDC00 ≤ low ∧ low < 0xE000 then
      some (Char.ofNat (0x10000 + (n - 0xD800) * 0x400 + (low - 0xDC00)), 11)
    else
      none

def java : Charset :=
  ofStep ["java"] fun b bytes =>
    (if b = '\\'.toUInt8 then javaEscape? bytes else none).getD (Char.ofNat b.toNat, 0)

def isUniversal (n : Nat) : Bool :=
  (0xA0 ≤ n && !(0xD800 ≤ n && n ≤ 0xDFFF)) || n == 0x24 || n == 0x40 || n == 0x60

def c99 : Charset :=
  -- Bytes that print beyond ASCII in Latin-1 stand for nothing.
  ofStep ["c99"] fun b bytes =>
    if b < 0xA0 then
      let escape :=
        if b = '\\'.toUInt8 then
          ((escaped? 'u' 4 bytes).map (·, 5)).or ((escaped? 'U' 8 bytes).map (·, 9))
        else
          none
      match escape with
      | none => some (Char.ofNat b.toNat, 0)
      | some (n, more) => if isUniversal n then some (charOrReplacement n, more) else none
    else
      none

def escaped : List Charset := [java, c99]

end Catalog.Charset
