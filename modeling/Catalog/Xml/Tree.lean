import Catalog.Xml.Name
/-!
This module contains the trees that well-formed documents stand for.
-/

namespace Catalog.Xml

/--
An attribute; namespace declarations are not attributes. Its name is what its written name is
without the qualifier, unless the namespace does not allow to tell them apart. Its value is the one
that is spelled out for it, unless an attribute in front of it has the same name in one namespace.
-/
structure Attribute where
  written : QName
  value : String
  name : String := written.name
  spelled : String := value
deriving DecidableEq, Repr, Inhabited

structure Binding where
  qualifier : Option String
  uri : String
deriving DecidableEq, Repr, Inhabited

structure Tag where
  written : QName
  name : String := written.name
  bindings : List Binding := []
  attributes : List Attribute := []
  inherited : List Binding := []
  line : Nat := 1
deriving DecidableEq, Repr, Inhabited

def Tag.inScope (t : Tag) : List Binding := t.bindings ++ t.inherited

inductive Node where
  | element (tag : Tag) (children : List Node)
  | text (s : String)
  | comment (s : String)
  | instruction (target : String) (data : Option String)
deriving Repr, Inhabited

structure Element where
  tag : Tag
  children : List Node := []
deriving Repr, Inhabited

namespace Node

def element? : Node → Option Element
  | .element tag children => some ⟨tag, children⟩
  | _ => none

mutual

def content : Node → String
  | .element _ children => contents children
  | .text s => s
  | .comment _ => ""
  | .instruction _ _ => ""

def contents : List Node → String
  | [] => ""
  | n :: ns => n.content ++ contents ns

end

end Node

namespace Element

def name (e : Element) : String := e.tag.name

def attributes (e : Element) : List Attribute := e.tag.attributes

def comparableName (e : Element) : Except MalformedName String := comparable e.name

def comparableNames (e : Element) : Except MalformedName (List String) :=
  (e.name :: e.attributes.map (·.name)).mapM comparable

def attribute? (e : Element) (name : String) : Except MalformedName (Option String) :=
  go e.attributes
where
  go : List Attribute → Except MalformedName (Option String)
    | [] => .ok none
    | a :: as => do
      let found ← comparable a.name
      if found = name then return some a.value else go as

def elements (e : Element) : List Element := e.children.filterMap Node.element?

def content (e : Element) : String := Node.contents e.children

def at? (e : Element) : List Nat → Option Element
  | [] => some e
  | i :: path =>
    match e.elements[i]? with
    | none => none
    | some child => child.at? path

end Element
end Catalog.Xml
