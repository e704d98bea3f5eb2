import Catalog.Charset.Basic
/-!
This module contains the forms of Unicode: those that are made of single bytes or of units of
several bytes, and the one that gets by with seven bits.
-/

namespace Catalog.Charset

def further? (b : UInt8) : Option Nat := if 0x80 ≤ b ∧ b ≤ 0xBF then some (b.toNat - 0x80) else none

def utf8Step? (b : UInt8) (bytes : List UInt8) : Option (Char × Nat) :=
  -- Each character has one form only, which is the shortest one.
  if b < 0x80 then
    some (Char.ofNat b.toNat, 0)
  else if b < 0xE0 then
    match bytes with
    | b₂ :: _ => do check 0x80 1 ((b.toNat - 0xC0) * 0x40 + (← further? b₂))
    | _ => none
  else if b < 0xF0 then
    match bytes with
    | b₂ :: b₃ :: _ => do
      check 0x800 2 (((b.toNat - 0xE0) * 0x40 + (← further? b₂)) * 0x40 + (← further? b₃))
    | _ => none
  else
    match bytes with
    | b₂ :: b₃ :: b₄ :: _ => do
      check 0x10000 3
        ((((b.toNat - 0xF0) * 0x40 + (← further? b₂)) * 0x40 + (← further? b₃)) * 0x40
          + (← further? b₄))
    | _ => none
where
  check (least more n : Nat) : Option (Char × Nat) :=
    if least ≤ n ∧ n.isValidChar then some (Char.ofNat n, more) else none

def utf8 : List UInt8 → List Char
  | [] => []
  | b :: bytes =>
    match utf8Step? b bytes with
    -- A character without meaning stands for these bytes and for all that follow.
    | none => ['\x00']
    | some (c, n) => c :: utf8 (bytes.drop n)
termination_by bytes => bytes.length
decreasing_by
  simp only [List.length_drop, List.length_cons]
  omega

def number (base : Nat) (digits : List Nat) : Nat := digits.foldl (fun n d => n * base + d) 0

def groups (base size : Nat) (digits : List Nat) : List Nat :=
  if _ : size = 0 ∨ digits.length < size then
    []
  else
    number base (digits.take size) :: groups base size (digits.drop size)
termination_by digits.length
decreasing_by
  simp only [List.length_drop]
  omega

def units? (size : Nat) (bigEndian : Bool) (bytes : List UInt8) : Option (List Nat) :=
  if bytes.length % size = 0 then
    let digits := bytes.map UInt8.toNat
    if bigEndian then some (groups 256 size digits)
    else some (groups 256 size digits.reverse).reverse
  else
    none

def joinUnits? : List Nat → Option (List Char)
  | [] => some []
  | high :: low :: us =>
    -- A surrogate counts only as one half of a pair.
    if 0xD800 ≤ high ∧ high ≤ 0xDBFF then
      if 0xDC00 ≤ low ∧ low ≤ 0xDFFF then
        (joinUnits? us).map
          (Char.ofNat (0x10000 + (high - 0xD800) * 0x400 + (low - 0xDC00)) :: ·)
      else
        none
    else if 0xDC00 ≤ high ∧ high ≤ 0xDFFF then
      none
    else
      (joinUnits? (low :: us)).map (Char.ofNat high :: ·)
  | [unit] => if 0xD800 ≤ unit ∧ unit ≤ 0xDFFF then none else some [Char.ofNat unit]

def utf16? (bigEndian : Bool) (bytes : List UInt8) : Option (List Char) :=
  (units? 2 bigEndian bytes).bind joinUnits?

def character? (n : Nat) : Option Char := if n.isValidChar then some (Char.ofNat n) else none

def characters? (size : Nat) (bigEndian : Bool) (bytes : List UInt8) : Option (List Char) :=
  (units? size bigEndian bytes).bind (·.mapM character?)

def utf32? (bigEndian : Bool) (bytes : List UInt8) : Option (List Char) :=
  characters? 4 bigEndian bytes

def markedStep (character? : Nat → Option Char) (size : Nat) (bigEndian : Bool) (b : UInt8)
    (bytes : List UInt8) : Option (Bool × List Char × Nat) :=
  let digits := (b :: bytes.take (size - 1)).map UInt8.toNat
  let unit (bigEndian : Bool) := number 256 (if bigEndian then digits else digits.reverse)
  if digits.length ≠ size then none
  -- Byte order marks stand for no character.
  else if unit bigEndian = 0xFEFF then some (bigEndian, [], size - 1)
  else if unit (!bigEndian) = 0xFEFF then some (!bigEndian, [], size - 1)
  else (character? (unit bigEndian)).map fun c => (bigEndian, [c], size - 1)

def marked (names : List String) (character? : Nat → Option Char) (size : Nat) : Charset :=
  ⟨names, decodeWith? (markedStep character? size) true⟩

def ucs4Character? (n : Nat) : Option Char :=
  if n < 0x80000000 then some (charOrReplacement n) else none

def ucs4? (bigEndian : Bool) (bytes : List UInt8) : Option (List Char) :=
  (units? 4 bigEndian bytes).map (·.map charOrReplacement)

def wide : List Charset := [
  ⟨["utf-16", "utf16", "utf-16le"], utf16? false⟩,
  ⟨["utf-16be"], utf16? true⟩,
  marked ["utf-32"] character? 4,
  ⟨["utf-32le"], utf32? false⟩,
  ⟨["utf-32be"], utf32? true⟩,
  marked ["ucs-2", "iso-10646-ucs-2", "csunicode"] character? 2,
  ⟨["ucs-2le", "unicodelittle", "ucs-2-internal"], characters? 2 false⟩,
  ⟨["ucs-2be", "unicodebig", "unicode-1-1", "csunicode11", "ucs-2-swapped"], characters? 2 true⟩,
  marked ["ucs-4", "iso-10646-ucs-4", "csucs4"] ucs4Character? 4,
  ⟨["ucs-4le", "ucs-4-internal", "wchar_t"], ucs4? false⟩,
  ⟨["ucs-4be", "ucs-4-swapped"], ucs4? true⟩]

def isDirect (b : UInt8) : Bool :=
  b = 0x09 || b = 0x0A || b = 0x0D
    || (0x20 ≤ b && b ≤ 0x7D && b != '+'.toUInt8 && b != '\\'.toUInt8)

def digit64? (b : UInt8) : Option Nat :=
  (offset? 'A'.toUInt8 'Z'.toUInt8 b)
    |>.or ((offset? 'a'.toUInt8 'z'.toUInt8 b).map (26 + ·))
    |>.or ((offset? '0'.toUInt8 '9'.toUInt8 b).map (52 + ·))
    |>.or (if b = '+'.toUInt8 then some 62 else if b = '/'.toUInt8 then some 63 else none)

def bits (n : Nat) : List Nat := [n / 32 % 2, n / 16 % 2, n / 8 % 2, n / 4 % 2, n / 2 % 2, n % 2]

def ofDigits64? (digits : List Nat) : Option (List Char) :=
  let all := digits.flatMap bits
  let left := all.drop (all.length / 16 * 16)
  -- The bits that are left over fill no digit, and they are zero.
  if left.length < 6 && left.all (· == 0) then joinUnits? (groups 2 16 all) else none

def decodeUtf7? : List UInt8 → Option (List Char)
  | [] => some []
  | b :: bytes =>
    if isDirect b then
      (decodeUtf7? bytes).map (Char.ofNat b.toNat :: ·)
    else if b = '+'.toUInt8 then
      match bytes with
      | [] => none
      | b' :: rest =>
        if b' = '-'.toUInt8 then
          (decodeUtf7? rest).map ('+' :: ·)
        else do
          let run := (b' :: rest).takeWhile fun b => (digit64? b).isSome
          let behind := (b' :: rest).drop run.length
          let cs ← ofDigits64? (run.filterMap digit64?)
          let behind := if behind.head? = some '-'.toUInt8 then behind.drop 1 else behind
          (decodeUtf7? behind).map (cs ++ ·)
    else
      none
termination_by bytes => bytes.length
decreasing_by
  all_goals grind

def utf7 : Charset := ⟨["utf-7", "unicode-1-1-utf-7", "csunicode11utf7"], decodeUtf7?⟩

def native : Charset := ofStep ["char"] utf8Step?

def unicode : List Charset := utf7 :: native :: wide

end Catalog.Charset
