/-!
This module contains the grammar of URIs and of relative references to them. Every function that
reads a part of the grammar answers with what stands behind that part. The classes hold ASCII only.
-/

namespace Catalog.Text.Uri

def isHexDigit (c : Char) : Bool :=
  c.isDigit || ('a' ≤ c && c ≤ 'f') || ('A' ≤ c && c ≤ 'F')

def isHostChar (c : Char) : Bool := c.isAlphanum || "-._~!$&'()*+,;=".contains c

def isUserChar (c : Char) : Bool := isHostChar c || c == ':'

def isSegmentChar (c : Char) : Bool := isUserChar c || c == '@'

def isPathChar (c : Char) : Bool := isSegmentChar c || c == '/'

def isQueryChar (c : Char) : Bool := isPathChar c || c == '?'

def isFragmentChar (c : Char) : Bool := isQueryChar c || c == '[' || c == ']'

def isSchemeChar (c : Char) : Bool := c.isAlphanum || c == '+' || c == '-' || c == '.'

def dropRun (p : Char → Bool) : List Char → List Char
  -- An octet may be written by its number instead of a character of the class.
  | '%' :: a :: b :: cs =>
    if isHexDigit a && isHexDigit b then dropRun p cs else '%' :: a :: b :: cs
  | c :: cs => if p c then dropRun p cs else c :: cs
  | [] => []

def dropUser (cs : List Char) : List Char :=
  match dropRun isUserChar cs with
  | '@' :: rest => rest
  | _ => cs

def dropHost? : List Char → Option (List Char)
  | '[' :: cs =>
    match cs.dropWhile (· != ']') with
    | _ :: rest => some rest
    | [] => none
  | cs => some (dropRun isHostChar cs)

def maxHostNumber : Nat := 0x7FFFFFFF

def dropHostNumber? : List Char → Option (List Char)
  | ':' :: cs =>
    match (String.ofList (cs.takeWhile Char.isDigit)).toNat? with
    | some n => if n ≤ maxHostNumber then some (cs.dropWhile Char.isDigit) else none
    | none => none
  | cs => some cs

def dropPath : List Char → List Char
  | '/' :: cs => dropRun isPathChar cs
  | cs => cs

def dropHierarchy? (first : Char → Bool) : List Char → Option (List Char)
  | '/' :: '/' :: cs => ((dropHost? (dropUser cs)).bind dropHostNumber?).map dropPath
  | cs => some (dropPath (dropRun first cs))

def dropPart (mark : Char) (p : Char → Bool) : List Char → List Char
  | [] => []
  | c :: cs => if c = mark then dropRun p cs else c :: cs

def isWhole (first : Char → Bool) (cs : List Char) : Bool :=
  (dropHierarchy? first cs).any fun rest =>
    (dropPart '#' isFragmentChar (dropPart '?' isQueryChar rest)).isEmpty

end Catalog.Text.Uri

namespace Catalog.Text

def isUri (cs : List Char) : Bool :=
  match cs.span Uri.isSchemeChar with
  | (c :: _, ':' :: rest) => c.isAlpha && Uri.isWhole Uri.isSegmentChar rest
  | _ => false

def isRelativeReference (cs : List Char) : Bool :=
  -- A colon in the first segment would make what is before it a scheme.
  Uri.isWhole (fun c => Uri.isSegmentChar c && c != ':') cs

end Catalog.Text
