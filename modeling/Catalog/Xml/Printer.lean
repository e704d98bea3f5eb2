import Catalog.Xml.Tree
/-!
This module contains the writing of elements as text.
-/

namespace Catalog.Xml

def escapeText (s : String) : String :=
  String.ofList (s.toList.flatMap escape)
where
  escape : Char → List Char
    | '&' => "&amp;".toList
    | '<' => "&lt;".toList
    | '>' => "&gt;".toList
    | '\r' => "&#13;".toList
    | c => [c]

def escapeValue (s : String) : String :=
  String.ofList (s.toList.flatMap escape)
where
  escape : Char → List Char
    | '&' => "&amp;".toList
    | '<' => "&lt;".toList
    | '>' => "&gt;".toList
    | '"' => "&quot;".toList
    | '\t' => "&#9;".toList
    | '\n' => "&#10;".toList
    | '\r' => "&#13;".toList
    | c => [c]

def writeAttribute (q : QName) (value : String) : String :=
  " " ++ q.toString ++ "=\"" ++ escapeValue value ++ "\""

def Binding.write (b : Binding) : String :=
  match b.qualifier with
  | none => writeAttribute ⟨none, "xmlns"⟩ b.uri
  | some qualifier => writeAttribute ⟨some "xmlns", qualifier⟩ b.uri

def Attribute.write (a : Attribute) : String :=
  writeAttribute a.written a.spelled

def Binding.nearest (bs : List Binding) : List Binding :=
  go [] bs
where
  go (seen : List (Option String)) : List Binding → List Binding
    | [] => []
    | b :: bs =>
      if b.qualifier ∈ seen then go seen bs else b :: go (b.qualifier :: seen) bs

namespace Tag

def writtenName (t : Tag) : String := t.written.toString

def write (t : Tag) (bindings : List Binding) : String :=
  "<" ++ t.writtenName ++ String.join (bindings.map Binding.write)
    ++ String.join (t.attributes.map Attribute.write)

def enclose (t : Tag) (bindings : List Binding) (children : List Node) (written : String) :
    String :=
  match children with
  | [] => t.write bindings ++ "/>"
  | _ :: _ => t.write bindings ++ ">" ++ written ++ "</" ++ t.writtenName ++ ">"

end Tag

namespace Node

mutual

def write : Node → String
  | .element tag children => tag.enclose tag.bindings children (writeAll children)
  | .text s => escapeText s
  | .comment s => "<!--" ++ s ++ "-->"
  | .instruction target none => "<?" ++ target ++ "?>"
  | .instruction target (some data) => "<?" ++ target ++ " " ++ data ++ "?>"

def writeAll : List Node → String
  | [] => ""
  | n :: ns => n.write ++ writeAll ns

end

end Node

def Tag.qualifying (t : Tag) : List Binding :=
  let qualifiers := (t.attributes.map (·.written.qualifier)).filter Option.isSome
  (t.written.qualifier :: qualifiers).filterMap fun qualifier =>
    (t.inScope.find? (·.qualifier == qualifier)).filter (·.uri != "")

def Element.write (e : Element) : String :=
  e.tag.enclose (Binding.nearest (e.tag.bindings ++ e.tag.qualifying ++ e.tag.inherited)) e.children
    (Node.writeAll e.children)

end Catalog.Xml
