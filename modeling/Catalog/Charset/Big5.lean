import Catalog.Charset.Basic
import Catalog.Charset.Table.Big5
import Catalog.Charset.Table.Hkscs
/-!
This module contains Big5, the set of traditional Chinese characters, and its extensions for Taiwan
and for Hong Kong.
-/

namespace Catalog.Charset

def big5Column? : UInt8 → Option Nat := offsetIn2? 0x40 0x7E 0xA1 0xFE

def big5Pair? (lead trail : UInt8) : Option Char := do
  place? big5Rows (← offset? 0xA1 0xF9 lead) (← big5Column? trail)

def big5 : Charset :=
  ofStep ["big5", "big-5", "big-five", "bigfive", "cn-big5", "csbig5"] (orAscii (ofPair big5Pair?))

def commonBig5Pair? (lead trail : UInt8) : Option Char :=
  if lead = 0xC7 ∨ (lead = 0xC6 ∧ 0xA1 ≤ trail) then none else big5Pair? lead trail

def cp950Signs : List (Nat × Char) :=
  [(0xA145, '‧'), (0xA14E, '﹑'), (0xA15A, '╴'), (0xA1C2, '¯'), (0xA1C3, '￣'), (0xA1C5, 'ˍ'),
   (0xA1E3, '～'), (0xA1F2, '⊕'), (0xA1F3, '⊙'), (0xA1FE, '／'), (0xA240, '＼'), (0xA241, '∕'),
   (0xA242, '﹨'), (0xA244, '￥'), (0xA246, '￠'), (0xA247, '￡'), (0xA2CC, '十'), (0xA2CE, '卅'),
   (0xA3E1, '€')]

def cp950Tail : String := "碁銹裏墻恒粧嫺╔╦╗╠╬╣╚╩╝╒╤╕╞╪╡╘╧╛╓╥╖╟╫╢╙╨╜║═╭╮╰╯▓"

def cp950PrivatePair? (lead trail : UInt8) : Option Char := do
  let column ← big5Column? trail
  [(0xFA, 0xFE, 0xE000), (0x8E, 0xA0, 0xE311), (0x81, 0x8D, 0xEEB8)].findSome?
    fun (first, last, c) =>
      (offset? first last lead).map fun row => Char.ofNat (c + row * 157 + column)

def cp950Pair? (lead trail : UInt8) : Option Char :=
  let code := lead.toNat * 256 + trail.toNat
  (cp950Signs.lookup code)
    |>.or (commonBig5Pair? lead trail)
    |>.or (if 0xF9D6 ≤ code then cp950Tail.toList[code - 0xF9D6]? else none)
    |>.or (cp950PrivatePair? lead trail)

def cp950 : Charset := ofStep ["cp950"] (orAscii (ofPair cp950Pair?))

def hkscsRow? (lead : UInt8) : Option Nat :=
  (offsetIn2? 0x87 0xA0 0xC6 0xC8 lead).or ((offset? 0xF9 0xFE lead).map (29 + ·))

def hkscsPair? (lead trail : UInt8) : Option (List Char) :=
  let marked := [(0x8862, "Ê\u0304"), (0x8864, "Ê\u030c"), (0x88A3, "ê\u0304"), (0x88A5, "ê\u030c")]
  ((marked.lookup (lead.toNat * 256 + trail.toNat)).map String.toList)
    |>.or ((commonBig5Pair? lead trail).map ([·]))
    |>.or (do return [← place? hkscsRows (← hkscsRow? lead) (← big5Column? trail)])

def big5Hkscs : Charset :=
  ⟨["big5-hkscs", "big5hkscs"],
    decodeWith? (fun () b bytes =>
      if b < 0x80 then some ((), [Char.ofNat b.toNat], 0)
      else bytes.head?.bind fun trail => (hkscsPair? b trail).map fun cs => ((), cs, 1)) ()⟩

def traditional : List Charset := [big5, cp950, big5Hkscs]

end Catalog.Charset
