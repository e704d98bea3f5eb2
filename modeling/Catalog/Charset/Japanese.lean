import Catalog.Charset.Basic
import Catalog.Charset.Table.Cp932
import Catalog.Charset.Table.JisX0208
import Catalog.Charset.Table.JisX0212
/-!
This module contains the sets of Japanese characters. They write JIS X 0208 in different ways.
-/

namespace Catalog.Charset

def jisX0201? (b : UInt8) : Option Char :=
  if b = 0x5C then some '¥'
  else if b = 0x7E then some '‾'
  else if b < 0x80 then some (Char.ofNat b.toNat)
  else (offset? 0xA1 0xDF b).map fun n => Char.ofNat (0xFF61 + n)

def jisX0201 : Charset :=
  ofStep ["jis_x0201", "jisx0201-1976", "x0201", "cshalfwidthkatakana"] fun b _ =>
    (jisX0201? b).map (·, 0)

def privatePlace (first row column : Nat) : Char := Char.ofNat (first + row * 94 + column)

def jisX0208Place? (row column : Nat) : Option Char :=
  if row < 84 then place? jisX0208 row column else some (privatePlace 0xE000 (row - 84) column)

def jisX0212Place? (row column : Nat) : Option Char :=
  if row < 84 then place? jisX0212 row column else some (privatePlace 0xE3AC (row - 84) column)

def shiftedPair? (more? : UInt8 → Nat → Option Char) (lead trail : UInt8) : Option Char := do
  -- The rows come in pairs, 188 characters to a lead byte. Ten lead bytes are for private use.
  let column ← offsetIn2? 0x40 0x7E 0x80 0xFC trail
  match offset? 0xF0 0xF9 lead with
  | some row => some (Char.ofNat (0xE000 + row * 188 + column))
  | none =>
    (more? lead column).or <| do
      let row ← offsetIn2? 0x81 0x9F 0xE0 0xEA lead
      place? jisX0208 (row * 2 + column / 94) (column % 94)

def shiftJis : Charset :=
  ofStep ["shift_jis", "shift-jis", "sjis", "ms_kanji", "csshiftjis"] fun b bytes =>
    ((jisX0201? b).map (·, 0)).or (ofPair (shiftedPair? fun _ _ => none) b bytes)

def cp932Place? (lead : UInt8) (column : Nat) : Option Char :=
  if lead = 0x87 then place? cp932Rows 0 column
  else
    ((offset? 0xED 0xEE lead).map (1 + ·)).or ((offset? 0xFA 0xFC lead).map (3 + ·))
      |>.bind fun row => place? cp932Rows row column

def cp932 : Charset :=
  ofStep ["cp932"] <| orAscii fun b bytes =>
    ((offset? 0xA1 0xDF b).bind fun _ => (jisX0201? b).map (·, 0)).or
      (ofPair (shiftedPair? cp932Place?) b bytes)

def eucJp : Charset :=
  -- 0x8E stands in front of a small syllable, and 0x8F in front of the bytes of JIS X 0212.
  ofStep ["euc-jp", "eucjp", "extended_unix_code_packed_format_for_japanese",
      "cseucpkdfmtjapanese"] <|
    orAscii fun b bytes => do
      let trail ← bytes.head?
      if b = 0x8E then
        let c ← (offset? 0xA1 0xDF trail).bind fun _ => jisX0201? trail
        some (c, 1)
      else if b = 0x8F then
        let (c, n) ← ofPair (ofGraphicPair jisX0212Place?) trail (bytes.drop 1)
        some (c, n + 1)
      else
        ofPair (ofGraphicPair jisX0208Place?) b bytes

def japanese : List Charset := [jisX0201, shiftJis, cp932, eucJp]

end Catalog.Charset
