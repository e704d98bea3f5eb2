import Catalog.Charset.Basic
import Catalog.Charset.Table.KsX1001
/-!
This module contains the sets of Korean characters.
-/

namespace Catalog.Charset

def eucKrPair? : UInt8 → UInt8 → Option Char := ofGraphicPair (place? ksX1001)

def eucKr : Charset :=
  ofStep ["euc-kr", "euckr", "cseuckr"] (orAscii (ofPair eucKrPair?))

def commonSyllables : List Char := ((ksX1001.toList.drop 15).take 25).flatMap String.toList

def without : List Char → List Nat → List Nat
  | _, [] => []
  | [], ns => ns
  | c :: cs, n :: ns => if c.toNat = n then without cs ns else n :: without (c :: cs) ns

def rareSyllables : List Nat := without commonSyllables (List.range' 0xAC00 11172)

def rareColumn? (trail : UInt8) : Option Nat :=
  (offsetIn2? 0x41 0x5A 0x61 0x7A trail).or ((offset? 0x81 0xFE trail).map (52 + ·))

def cp949Pair? (lead trail : UInt8) : Option Char :=
  if lead = 0xA2 ∧ trail = 0xE8 then
    none
  else
    (eucKrPair? lead trail).or <| do
      let column ← rareColumn? trail
      match offset? 0x81 0xA0 lead, offset? 0xA1 0xC6 lead with
      | some row, _ => (rareSyllables[row * 178 + column]?).map Char.ofNat
      | none, some row =>
        if column < 84 then (rareSyllables[32 * 178 + row * 84 + column]?).map Char.ofNat else none
      | none, none =>
        let first ← [(0xC9, 0xE000), (0xFE, 0xE05E)].lookup lead
        (offset? 0xA1 0xFE trail).map fun n => Char.ofNat (first + n)

def cp949 : Charset := ofStep ["cp949", "uhc"] (orAscii (ofPair cp949Pair?))

def lastConsonants : List Nat :=
  [0, 1, 2, 3, 4, 5, 6, 8, 9, 10, 11, 12, 13, 14, 15, 16, 17, 19, 20, 21, 22, 23, 25, 26, 27, 28,
   29]

def firstConsonants : List Nat :=
  [0, 1, 3, 6, 7, 8, 16, 17, 18, 20, 21, 22, 23, 24, 25, 26, 27, 28, 29]

def hangul? : Nat → Nat → Nat → Option Char
  -- Zero stands for a letter that is missing.
  | 0, 0, 0 => none
  | 0, 0, last + 1 =>
    (lastConsonants[last]?.filter (· ∉ firstConsonants)).map fun n => Char.ofNat (0x3131 + n)
  | 0, vowel + 1, 0 => some (Char.ofNat (0x314F + vowel))
  | first + 1, 0, 0 => firstConsonants[first]?.map fun n => Char.ofNat (0x3131 + n)
  | first + 1, vowel + 1, last => some (Char.ofNat (0xAC00 + (first * 21 + vowel) * 28 + last))
  | _, _, _ => none

def johabFirst? (n : Nat) : Option Nat := if 1 ≤ n ∧ n ≤ 20 then some (n - 1) else none

def johabVowel? (n : Nat) : Option Nat :=
  [2, 3, 4, 5, 6, 7, 10, 11, 12, 13, 14, 15, 18, 19, 20, 21, 22, 23, 26, 27, 28, 29].idxOf? n

def johabLast? (n : Nat) : Option Nat :=
  if 1 ≤ n ∧ n ≤ 17 then some (n - 1) else if 19 ≤ n ∧ n ≤ 29 then some (n - 2) else none

def johabPair? (lead trail : UInt8) : Option Char :=
  -- A syllable has five bits for each of its three parts. The rows of KS X 1001 come in pairs.
  if (offset? 0x84 0xD3 lead).isSome then do
    let _ ← offsetIn2? 0x41 0x7E 0x81 0xFE trail
    let code := lead.toNat * 256 + trail.toNat
    hangul? (← johabFirst? (code / 1024 % 32)) (← johabVowel? (code / 32 % 32))
      (← johabLast? (code % 32))
  else do
    let pair ← ((offset? 0xD9 0xDE lead).map (2 * ·)).or
      ((offset? 0xE0 0xF9 lead).map fun n => 41 + 2 * n)
    let column ← offsetIn2? 0x31 0x7E 0x91 0xFE trail
    if lead = 0xDA ∧ (offset? 0xA1 0xD3 trail).isSome then none
    else place? ksX1001 (pair + column / 94) (column % 94)

def johab : Charset :=
  ofStep ["johab", "cp1361"] fun b bytes =>
    if b = 0x5C then some ('₩', 0) else orAscii (ofPair johabPair?) b bytes

def korean : List Charset := [eucKr, cp949, johab]

end Catalog.Charset
