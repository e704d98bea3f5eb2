import Catalog.Charset.SingleByte
import Catalog.Charset.Table.Gb18030
import Catalog.Charset.Table.Gbk
import Catalog.Charset.Table.IsoIr165
/-!
This module contains the sets of simplified Chinese characters. GB 2312, GBK and GB 18030 extend
each other in this order, but for two signs.
-/

namespace Catalog.Charset

def gbkPair? (lead trail : UInt8) : Option Char := do
  let row ← offset? 0x81 0xFE lead
  let column ← offsetIn2? 0x40 0x7E 0x80 0xFE trail
  place? gbkRows row column

def gbk : Charset := ofStep ["gbk"] (orAscii (ofPair gbkPair?))

def gbkPrivatePair? (last lead trail : UInt8) : Option Char :=
  match offsetIn2? 0xAA 0xAF 0xF8 0xFE lead, offset? 0xA1 0xFE trail,
    offset? 0xA1 last lead, offsetIn2? 0x40 0x7E 0x80 0xA0 trail with
  | some row, some column, _, _ => some (Char.ofNat (0xE000 + row * 94 + column))
  | _, _, some row, some column => some (Char.ofNat (0xE4C6 + row * 96 + column))
  | _, _, _, _ => none

def cp936 : Charset :=
  ofStep ["cp936", "ms936", "windows-936"] <|
    orAscii fun b bytes =>
      if b = 0x80 then some ('€', 0)
      else ofPair
          (fun lead trail => (gbkPair? lead trail).or (gbkPrivatePair? 0xA2 lead trail)) b bytes

def beyondGb2312 : List (Nat × Nat) :=
  [(0xA2A1, 0xA2AA), (0xA6E0, 0xA6EB), (0xA6EE, 0xA6F2), (0xA6F4, 0xA6F5), (0xA8BB, 0xA8BB),
   (0xA8BD, 0xA8BE), (0xA8C0, 0xA8C0)]

def gb2312Pair? (lead trail : UInt8) : Option Char := do
  let _ ← offset? 0xA1 0xF7 lead
  let _ ← offset? 0xA1 0xFE trail
  let code := lead.toNat * 256 + trail.toNat
  if code = 0xA1A4 then some '・'
  else if code = 0xA1AA then some '―'
  else if beyondGb2312.any fun (first, last) => first ≤ code && code ≤ last then none
  else gbkPair? lead trail

def gb2312 : Charset :=
  ofStep ["euc-cn", "euccn", "gb2312", "cn-gb", "csgb2312"] (orAscii (ofPair gb2312Pair?))

def hzStep (inside : Bool) (b : UInt8) (bytes : List UInt8) : Option (Bool × List Char × Nat) :=
  -- Tildes begin and end GB 2312 in seven bits, join lines, and stand for themselves when doubled.
  if b = '~'.toUInt8 then
    match inside, bytes.head? with
    | false, some 0x7E => some (false, ['~'], 1)
    | false, some 0x7B => some (true, [], 1)
    | false, some 0x0A => some (false, [], 1)
    | true, some 0x7D => some (false, [], 1)
    | _, _ => none
  else if inside then do
    let trail ← bytes.head?
    if b < 0x80 ∧ trail < 0x80 then
      (gb2312Pair? (b + 0x80) (trail + 0x80)).map fun c => (true, [c], 1)
    else
      none
  else
    some (false, [Char.ofNat b.toNat], 0)

def hz : Charset := ⟨["hz", "hz-gb-2312"], decodeWith? hzStep false⟩

def isoIr165Pair? (lead trail : UInt8) : Option Char := do
  let row ← offset? 0xA1 0xFE lead
  let column ← offset? 0xA1 0xFE trail
  if lead = 0xA8 ∧ column < 32 then place? isoIr165Rows 10 column
  else
    (gb2312Pair? lead trail).or <|
      if lead = 0xAA then (iso646Cn.decode? [trail - 0x80]).bind List.head?
      else place? isoIr165Rows row column

def isoIr165 : Charset :=
  ofStep ["iso-ir-165", "cn-gb-isoir165"] fun b bytes =>
    ofPair (fun lead trail => isoIr165Pair? (lead + 0x80) (trail + 0x80)) b bytes

def gb18030Pair? (lead trail : UInt8) : Option Char :=
  let code := lead.toNat * 256 + trail.toNat
  let more := gb18030Runs.findSome? fun (first, run) =>
    if first ≤ code then run.toList[code - first]?.filter (· != ' ') else none
  let scattered := gb18030Private.findSome? fun (first, last, c) =>
    if first ≤ code ∧ code ≤ last then some (Char.ofNat (c + (code - first))) else none
  (gbkPair? lead trail).or (more.or (scattered.or (gbkPrivatePair? 0xA7 lead trail)))

def gb18030Place? (n : Nat) : Option Char :=
  if 189000 ≤ n then
    if n < 189000 + 0x100000 then some (Char.ofNat (0x10000 + (n - 189000))) else none
  else if n < 39420 then
    (gb18030Places.filter (·.1 ≤ n)).getLast?.map fun (place, c) => Char.ofNat (c + (n - place))
  else
    none

def gb18030 : Charset :=
  ofStep ["gb18030"] <|
    orAscii fun b bytes =>
      match bytes with
      | b₂ :: b₃ :: b₄ :: _ =>
        match offset? 0x81 0xFE b, offset? 0x30 0x39 b₂, offset? 0x81 0xFE b₃,
          offset? 0x30 0x39 b₄ with
        | some n, some n₂, some n₃, some n₄ =>
          (gb18030Place? (((n * 10 + n₂) * 126 + n₃) * 10 + n₄)).map (·, 3)
        | _, _, _, _ => ofPair gb18030Pair? b bytes
      | _ => ofPair gb18030Pair? b bytes

def chinese : List Charset := [gbk, cp936, gb2312, hz, isoIr165, gb18030]

end Catalog.Charset
