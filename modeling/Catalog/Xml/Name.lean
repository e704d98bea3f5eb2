import Catalog.Text.Quoted
/-!
This module contains the character classes of XML and its qualified names.
-/

namespace Catalog.Xml

def isChar (c : Char) : Bool :=
  let n := c.toNat
  n == 0x9 || n == 0xA || n == 0xD || (0x20 ≤ n && n ≤ 0xD7FF) || (0xE000 ≤ n && n ≤ 0xFFFD)
    || 0x10000 ≤ n

def isBlank (c : Char) : Bool := c == ' ' || c == '\t' || c == '\n' || c == '\r'

def isNameStart (c : Char) : Bool :=
  let n := c.toNat
  c.isAlpha || c == '_' || (0xC0 ≤ n && n ≤ 0xD6) || (0xD8 ≤ n && n ≤ 0xF6)
    || (0xF8 ≤ n && n ≤ 0x2FF) || (0x370 ≤ n && n ≤ 0x37D) || (0x37F ≤ n && n ≤ 0x1FFF)
    || (0x200C ≤ n && n ≤ 0x200D) || (0x2070 ≤ n && n ≤ 0x218F) || (0x2C00 ≤ n && n ≤ 0x2FEF)
    || (0x3001 ≤ n && n ≤ 0xD7FF) || (0xF900 ≤ n && n ≤ 0xFDCF) || (0xFDF0 ≤ n && n ≤ 0xFFFD)
    || (0x10000 ≤ n && n ≤ 0xEFFFF)

def isNameChar (c : Char) : Bool :=
  let n := c.toNat
  isNameStart c || c.isDigit || c == '-' || c == '.' || n == 0xB7 || (0x300 ≤ n && n ≤ 0x36F)
    || (0x203F ≤ n && n ≤ 0x2040)

def isPlainName : List Char → Bool
  | [] => false
  | c :: cs => isNameStart c && cs.all isNameChar

def isName : List Char → Bool
  | [] => false
  | c :: cs => (isNameStart c || c == ':') && cs.all fun c => isNameChar c || c == ':'

structure QName where
  qualifier : Option String
  name : String
deriving DecidableEq, Repr, Inhabited

def QName.ofList? (cs : List Char) : Option QName :=
  if isName cs then
    match cs.span (· != ':') with
    | (qualifier, _ :: name) =>
      if isPlainName qualifier && isPlainName name then
        some ⟨some (String.ofList qualifier), String.ofList name⟩
      else
        some ⟨none, String.ofList cs⟩
    | (name, []) => some ⟨none, String.ofList name⟩
  else
    none

def QName.isMalformed (q : QName) : Bool := !isPlainName q.name.toList

def QName.toString (q : QName) : String :=
  match q.qualifier with
  | none => q.name
  | some qualifier => qualifier ++ ":" ++ q.name

/--
A name that cannot be compared with others, because there is a colon, a brace or half of a line end
in it.
-/
structure MalformedName where
  text : String
deriving DecidableEq, Repr, Inhabited

def MalformedName.message (n : MalformedName) : String := "Invalid tag name " ++ Text.quoted n.text

def comparable (name : String) : Except MalformedName String :=
  if name.toList.all fun c => c != ':' && c != '\x7d' && c != '\r' then .ok name else .error ⟨name⟩

end Catalog.Xml
