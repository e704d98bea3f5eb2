import Catalog.Charset.Basic
import Catalog.Charset.Table.Cns1
import Catalog.Charset.Table.Cns15
import Catalog.Charset.Table.Cns2
import Catalog.Charset.Table.Cns3
import Catalog.Charset.Table.Cns4
import Catalog.Charset.Table.Cns5
import Catalog.Charset.Table.Cns6
import Catalog.Charset.Table.Cns7
/-!
This module contains the traditional Chinese characters of CNS 11643, which has planes of 94 rows.
-/

namespace Catalog.Charset

def cns11643 : List (Nat × Array String) :=
  [(1, cns1), (2, cns2), (3, cns3), (4, cns4), (5, cns5), (6, cns6), (7, cns7), (15, cns15)]

def cns11643Place? (plane row column : Nat) : Option Char :=
  (cns11643.lookup plane).bind fun table => place? table row column

def eucTw : Charset :=
  -- 0x8E and a further byte stand for a plane. Without these bytes it is the first one.
  ofStep ["euc-tw", "euctw", "cseuctw"] <|
    orAscii fun b bytes =>
      if b = 0x8E then
        match bytes with
        | plane :: lead :: trail :: _ => do
          let plane ← offset? 0xA1 0xB0 plane
          let c ← ofGraphicPair (cns11643Place? (plane + 1)) lead trail
          some (c, 3)
        | _ => none
      else
        ofPair (ofGraphicPair (cns11643Place? 1)) b bytes

end Catalog.Charset
