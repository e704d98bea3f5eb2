import Catalog.Charset.Known
import Catalog.Xml.Name
/-!
This module contains the step from the bytes of a document to its characters. A byte order mark
decides the encoding, and so do the bytes of the first characters if they are not those of ASCII.
Otherwise the XML declaration decides, and without any of these it is UTF-8.
-/

namespace Catalog.Xml

structure Declaration where
  version : String
  encoding : Option String
deriving DecidableEq, Repr, Inhabited

namespace Declaration

def dropBlanks (cs : List Char) : List Char := cs.dropWhile isBlank

def after? (front : String) (cs : List Char) : Option (List Char) :=
  if front.toList.isPrefixOf cs then some (cs.drop front.toList.length) else none

def quoted? (cs : List Char) : Option (List Char × List Char) := do
  let cs ← after? "=" (dropBlanks cs)
  match dropBlanks cs with
  | quote :: cs =>
    if quote = '"' || quote = '\'' then
      match cs.span (· != quote) with
      | (value, _ :: rest) => some (value, rest)
      | (_, []) => none
    else
      none
  | [] => none

def isVersion : List Char → Bool
  | '1' :: '.' :: cs => cs.all Char.isDigit
  | _ => false

def isEncodingName : List Char → Bool
  | [] => false
  | c :: cs =>
    c.isAlpha && cs.all fun c => c.isAlphanum || c == '.' || c == '_' || c == '-'

def part? (name : String) (ok : List Char → Bool) (cs : List Char) :
    Option (Option (List Char) × List Char) :=
  match after? name (dropBlanks cs) with
  | none => some (none, cs)
  | some rest =>
    if cs.head?.any isBlank then do
      let (value, rest) ← quoted? rest
      if ok value then some (some value, rest) else none
    else
      none

def front? (cs : List Char) : Option (Declaration × List Char) := do
  let cs ← after? "version" (dropBlanks cs)
  let (version, cs) ← quoted? cs
  if isVersion version then
    let (encoding, cs) ← part? "encoding" isEncodingName cs
    some (⟨String.ofList version, encoding.map String.ofList⟩, cs)
  else
    none

def read? (cs : List Char) : Option (Option Declaration × List Char) :=
  match after? "<?xml" cs with
  | none => some (none, cs)
  | some rest =>
    if rest.head?.any isBlank then do
      let (declaration, rest) ← front? rest
      let (_, rest) ← part? "standalone" (fun v => v == "yes".toList || v == "no".toList) rest
      let rest ← after? "?>" (dropBlanks rest)
      some (some declaration, rest)
    else
      some (none, cs)

def encoding? (cs : List Char) : Option (String × List Char) := do
  let cs ← after? "<?xml" cs
  if cs.head?.any isBlank then
    let (declaration, rest) ← front? cs
    declaration.encoding.map (·, rest)
  else
    none

end Declaration

inductive ShownEncoding where
  | utf8
  | utf16 (bigEndian : Bool)
  | utf32 (bigEndian : Bool)
  | ucs4 (bigEndian : Bool)
deriving DecidableEq, Repr, Inhabited

namespace ShownEncoding

def ofBytes? : List UInt8 → Option (ShownEncoding × List UInt8)
  | 0x00 :: 0x00 :: 0xFE :: 0xFF :: bytes => some (.utf32 true, bytes)
  | 0xFF :: 0xFE :: 0x00 :: 0x00 :: bytes => some (.utf32 false, bytes)
  | 0xEF :: 0xBB :: 0xBF :: bytes => some (.utf8, bytes)
  | 0xFE :: 0xFF :: bytes => some (.utf16 true, bytes)
  | 0xFF :: 0xFE :: bytes => some (.utf16 false, bytes)
  | bytes =>
    -- Characters of four bytes are those of UCS-4 where no mark is in front of them.
    match bytes.take 4 with
    | [0x00, 0x00, 0x00, 0x3C] => some (.ucs4 true, bytes)
    | [0x3C, 0x00, 0x00, 0x00] => some (.ucs4 false, bytes)
    | [0x00, 0x3C, 0x00, 0x3F] => some (.utf16 true, bytes)
    | [0x3C, 0x00, 0x3F, 0x00] => some (.utf16 false, bytes)
    | _ => none

def decode? : ShownEncoding → List UInt8 → Option (List Char)
  | .utf8, bytes => some (Charset.utf8 bytes)
  | .utf16 bigEndian, bytes => Charset.utf16? bigEndian bytes
  | .utf32 bigEndian, bytes =>
    -- A second byte order mark is skipped as well.
    (Charset.utf32? bigEndian bytes).map fun
      | '\uFEFF' :: cs => cs
      | cs => cs
  | .ucs4 bigEndian, bytes => Charset.ucs4? bigEndian bytes

def hasName (e : ShownEncoding) (name : String) : Bool :=
  match e with
  | .utf8 => name.toLower ∈ ["utf-8", "utf8"]
  | .utf16 _ =>
    "utf-16".toList.isPrefixOf name.toLower.toList || "utf16".toList.isPrefixOf name.toLower.toList
  | .utf32 _ | .ucs4 _ => true

end ShownEncoding

def decodeDeclared? (name : String) (front behind : List Char) (bytes : List UInt8) :
    Option (List Char) :=
  if name.toLower ∈ ["utf-8", "utf8"] then
    some (Charset.utf8 bytes)
  else do
    let set ← Charset.ofName? name
    -- The set comes into force right behind its own name.
    let cs ← set.decode? (bytes.drop (front.length - behind.length))
    some (front.take (front.length - behind.length) ++ cs)

def decode? (bytes : List UInt8) : Option (List Char) :=
  match ShownEncoding.ofBytes? bytes with
  | some (encoding, bytes) => encoding.decode? bytes
  | none =>
    let front := bytes.map fun b => Char.ofNat b.toNat
    match Declaration.encoding? front with
    | none => some (Charset.utf8 bytes)
    | some (name, behind) => decodeDeclared? name front behind bytes

end Catalog.Xml
