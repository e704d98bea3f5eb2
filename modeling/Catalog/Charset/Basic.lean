/-!
This module contains sets of characters that are written as bytes.
-/

namespace Catalog

structure Charset where
  names : List String
  decode? : List UInt8 → Option (List Char)

namespace Charset

def decodeWith? (step : σ → UInt8 → List UInt8 → Option (σ × List Char × Nat)) (s : σ) :
    List UInt8 → Option (List Char)
  | [] => some []
  | b :: bytes =>
    match step s b bytes with
    | none => none
    | some (s, cs, n) => (decodeWith? step s (bytes.drop n)).map (cs ++ ·)
termination_by bytes => bytes.length
decreasing_by
  simp only [List.length_drop, List.length_cons]
  omega

def ofStep (names : List String) (step : UInt8 → List UInt8 → Option (Char × Nat)) : Charset :=
  ⟨names, decodeWith? (fun () b bytes => (step b bytes).map fun (c, n) => ((), [c], n)) ()⟩

def charOrReplacement (n : Nat) : Char := if n.isValidChar then Char.ofNat n else '\uFFFD'

def place? (table : Array String) (row column : Nat) : Option Char :=
  (table[row]?.bind (·.toList[column]?)).filter (· != ' ')

def orAscii (step : UInt8 → List UInt8 → Option (Char × Nat)) (b : UInt8) (bytes : List UInt8) :
    Option (Char × Nat) :=
  if b < 0x80 then some (Char.ofNat b.toNat, 0) else step b bytes

def offset? (first last : UInt8) (b : UInt8) : Option Nat :=
  if first ≤ b && b ≤ last then some (b.toNat - first.toNat) else none

def offsetIn2? (first last first' last' : UInt8) (b : UInt8) : Option Nat :=
  (offset? first last b).or
    ((offset? first' last' b).map (last.toNat + 1 - first.toNat + ·))

def ofPair (pair? : UInt8 → UInt8 → Option Char) (b : UInt8) (bytes : List UInt8) :
    Option (Char × Nat) :=
  bytes.head?.bind fun trail => (pair? b trail).map (·, 1)

def ofGraphicPair (place? : Nat → Nat → Option Char) (lead trail : UInt8) : Option Char := do
  place? (← offset? 0xA1 0xFE lead) (← offset? 0xA1 0xFE trail)

end Charset
end Catalog
