import Catalog.Charset.Chinese
import Catalog.Charset.Cns11643
import Catalog.Charset.Japanese
import Catalog.Charset.Korean
/-!
This module contains the sets that follow ISO 2022. They write all characters in seven bits and
change between coded sets by escape sequences.
-/

namespace Catalog.Charset

namespace Iso2022

inductive Coded where
  | ascii
  | roman
  | katakana
  | latin
  | greek
  | jisX0208
  | jisX0208Added
  | jisX0212
  | jisX0212Added
  | gb2312
  | isoIr165
  | ksX1001
  | cns11643 (plane : Nat)
deriving DecidableEq, Repr, Inhabited

def Coded.ofByte? (set : Coded) (b : UInt8) : Option (Option Char) :=
  match set with
  | .ascii => some (some (Char.ofNat b.toNat))
  | .roman => some (jisX0201? b)
  | .katakana => some (jisX0201? (b + 0x80))
  | .latin => some (some (Char.ofNat (b.toNat + 0x80)))
  | .greek => some ((latinGreek.decode? [b + 0x80]).bind List.head?)
  | _ => none

def addedJisX0208? (row column : Nat) : Option Char :=
  if row = 12 ∧ column = 63 then
    some '〞'
  else if row = 12 then
    -- These signs are in JIS X 0208 already.
    (place? cp932Rows 0 column).filter (!"≒≡∫√⊥∠∵∩∪".toList.contains ·)
  else if 88 ≤ row ∧ row < 92 then
    place? cp932Rows (1 + (row - 88) / 2) ((row - 88) % 2 * 94 + column)
  else
    none

def Coded.ofPlace? (set : Coded) (row column : Nat) : Option Char :=
  let pair (n : Nat) : UInt8 := UInt8.ofNat (0xA1 + n)
  match set with
  | .jisX0208 => place? Charset.jisX0208 row column
  | .jisX0208Added => (addedJisX0208? row column).or (jisX0208Place? row column)
  | .jisX0212 => place? Charset.jisX0212 row column
  | .jisX0212Added =>
    if row = 82 ∨ row = 83 then place? Charset.jisX0212Added (row - 82) column
    else jisX0212Place? row column
  | .gb2312 => gb2312Pair? (pair row) (pair column)
  | .isoIr165 => isoIr165Pair? (pair row) (pair column)
  | .ksX1001 => place? Charset.ksX1001 row column
  | .cns11643 plane => cns11643Place? plane row column
  | _ => none

def Coded.read? (set : Coded) (b : UInt8) (bytes : List UInt8) : Option (Char × Nat) :=
  match set.ofByte? b with
  | some c => if b < 0x80 then c.map (·, 0) else none
  | none => do
    let row ← offset? 0x21 0x7E b
    let column ← offset? 0x21 0x7E (← bytes.head?)
    (set.ofPlace? row column).map (·, 1)

inductive Slot where
  | g0
  | g1
  | g2
  | g3
deriving DecidableEq, Repr, Inhabited

structure State where
  sets : Slot → Option Coded
  isOut : Bool

def State.put (s : State) (slot : Slot) (set : Option Coded) : State :=
  { s with sets := fun slot' => if slot' = slot then set else s.sets slot' }

def State.shiftHalf (s : State) (out : Bool) : State :=
  match out, s.sets .g0 with
  | true, some .roman => s.put .g0 (some .katakana)
  | false, some .katakana => s.put .g0 (some .roman)
  | _, _ => s

structure Form where
  escapes : List (List Char × Slot × Coded)
  cleared : List Slot := []
  shiftsHalves : Bool := false

def start : State := ⟨fun slot => if slot = .g0 then some .ascii else none, false⟩

def Form.behind (form : Form) (c : Char) (s : State) : State :=
  if c = '\n' ∨ c = '\r' then form.cleared.foldl (·.put · none) s else s

def Form.read? (form : Form) (s : State) (slot : Slot) :
    List UInt8 → Option (State × List Char × Nat)
  | [] => none
  | b :: bytes => do
    let (c, n) ← (← s.sets slot).read? b bytes
    some (form.behind c s, [c], n)

def Form.escape? (form : Form) (s : State) (bytes : List UInt8) :
    Option (State × List Char × Nat) :=
  match form.escapes.find? fun (chars, _) => (chars.map Char.toUInt8).isPrefixOf bytes with
  | some (chars, slot, set) => some (s.put slot (some set), [], chars.length)
  | none =>
    match bytes with
    | [] => none
    | b :: bytes => do
      let (s, cs, n) ← form.read? s (← [('N'.toUInt8, .g2), ('O'.toUInt8, .g3)].lookup b) bytes
      some (s, cs, n + 2)

def Form.step (form : Form) (s : State) (b : UInt8) (bytes : List UInt8) :
    Option (State × List Char × Nat) :=
  let hasShifts := form.escapes.any fun (_, slot, _) => slot = .g1
  if b = 0x1B then
    form.escape? s bytes
  else if (b = 0x0E || b = 0x0F) && form.shiftsHalves then
    some (s.shiftHalf (b = 0x0E), [], 0)
  else if b = 0x0E && hasShifts then
    if (s.sets .g1).isSome then some ({ s with isOut := true }, [], 0) else none
  else if b = 0x0F && hasShifts then
    some ({ s with isOut := false }, [], 0)
  else
    form.read? s (if s.isOut then .g1 else .g0) (b :: bytes)

def Form.charset (form : Form) (names : List String) : Charset :=
  ⟨names, decodeWith? form.step start⟩

def onto (slot : Slot) (escapes : List (String × Coded)) : List (List Char × Slot × Coded) :=
  escapes.map fun (chars, set) => (chars.toList, slot, set)

end Iso2022

open Iso2022

def japaneseEscapes : List (List Char × Slot × Coded) :=
  onto .g0 [("(B", .ascii), ("(J", .roman), ("$@", .jisX0208), ("$B", .jisX0208)]

def iso2022Jp : Charset :=
  Form.charset { escapes := japaneseEscapes } ["iso-2022-jp", "csiso2022jp"]

def iso2022Jp1 : Charset :=
  Form.charset { escapes := japaneseEscapes ++ onto .g0 [("$(D", .jisX0212)] } ["iso-2022-jp-1"]

def iso2022Jp2 : Charset :=
  Form.charset
    { escapes :=
        japaneseEscapes ++ onto .g0 [("(I", .katakana), ("$(D", .jisX0212), ("$A", .gb2312),
          ("$(C", .ksX1001)] ++ onto .g2 [(".A", .latin), (".F", .greek)]
      cleared := [.g2] }
    ["iso-2022-jp-2", "csiso2022jp2"]

def iso2022JpMs : Charset :=
  Form.charset
    { escapes :=
        onto .g0 [("(B", .ascii), ("(J", .roman), ("(I", .katakana), ("$@", .jisX0208Added),
          ("$B", .jisX0208Added), ("$(D", .jisX0212Added)]
      shiftsHalves := true }
    ["iso-2022-jp-ms", "cp50221"]

def iso2022Kr : Charset :=
  Form.charset { escapes := onto .g1 [("$)C", .ksX1001)] } ["iso-2022-kr", "csiso2022kr"]

def chineseEscapes : List (List Char × Slot × Coded) :=
  onto .g1 [("$)A", .gb2312), ("$)G", .cns11643 1)] ++ onto .g2 [("$*H", .cns11643 2)]

def iso2022Cn : Charset :=
  Form.charset { escapes := chineseEscapes, cleared := [.g1, .g2] } ["iso-2022-cn", "csiso2022cn"]

def iso2022CnExt : Charset :=
  Form.charset
    { escapes :=
        chineseEscapes ++ onto .g1 [("$)E", .isoIr165)] ++
          onto .g3 [("$+I", .cns11643 3), ("$+J", .cns11643 4), ("$+K", .cns11643 5),
            ("$+L", .cns11643 6), ("$+M", .cns11643 7)]
      cleared := [.g1, .g2, .g3] }
    ["iso-2022-cn-ext"]

def iso2022 : List Charset :=
  [iso2022Jp, iso2022Jp1, iso2022Jp2, iso2022JpMs, iso2022Kr, iso2022Cn, iso2022CnExt]

end Catalog.Charset
