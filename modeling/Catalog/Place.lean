import Catalog.Settings
import Catalog.Xml.Printer
/-!
This module contains the places that errors point at, and their description at either level of
detail.
-/

namespace Catalog

structure Place where
  elementName : Option String := none
  attributeName : Option String := none
  line : Option Int := none
  document : Option String := none
  snippet : Option String := none
deriving DecidableEq, Repr, Inhabited

namespace Place

def snippetLength : Nat := 120

def snippetOf (e : Xml.Element) : String :=
  let written := e.write.toList
  if snippetLength < written.length then
    String.ofList (written.take snippetLength) ++ "..."
  else
    e.write

def ofElement (document : Option String) (e : Xml.Element) (attributeName : Option String) :
    Except Xml.MalformedName Place :=
  e.comparableName.map fun name => {
    elementName := name
    attributeName := attributeName
    line := some e.tag.line
    document := document
    snippet := snippetOf e
  }

def given (s : Option String) : Option String := s.filter (· ≠ "")

def elementLine (p : Place) : Option String :=
  (given p.elementName).map fun name =>
    match given p.attributeName with
    | some attributeName => "  at <" ++ name ++ " " ++ attributeName ++ "=...>"
    | none => "  at <" ++ name ++ ">"

def documentLine (p : Place) : Option String :=
  (p.line.filter (· ≠ 0)).map fun line =>
    match given p.document with
    | some document => "  in " ++ document ++ ":" ++ toString line
    | none => "  on line " ++ toString line

def snippetLine (p : Place) : Option String :=
  (given p.snippet).map fun snippet => "  element: " ++ snippet

def lines (p : Place) : DetailLevel → List String
  | .user => p.elementLine.toList
  | .developer => p.elementLine.toList ++ p.documentLine.toList ++ p.snippetLine.toList

def describe (p : Place) (level : DetailLevel) : String := "\n".intercalate (p.lines level)

end Place
end Catalog
