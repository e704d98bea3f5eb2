import Catalog.Text.Repeated
import Catalog.Xml.Tree
/-!
This module contains the reading of start tags with regard to namespaces: declarations are told from
attributes, and qualifiers are replaced by what they are declared to be.
-/

namespace Catalog.Xml

namespace Namespace

def xml : String := "http://www.w3.org/XML/1998/namespace"

def xmlns : String := "http://www.w3.org/2000/xmlns/"

end Namespace

def Binding.ofAttribute? (a : QName × String) : Option Binding :=
  match a.1.qualifier with
  | none => if a.1.name = "xmlns" then some ⟨none, a.2⟩ else none
  | some qualifier => if qualifier = "xmlns" then some ⟨some a.1.name, a.2⟩ else none

def Binding.isReserved (b : Binding) : Bool :=
  b.qualifier == some "xml" || b.qualifier == some "xmlns" || b.uri == Namespace.xml
    || b.uri == Namespace.xmlns

def Binding.holds (b : Binding) : Bool := !b.isReserved && (b.uri != "" || b.qualifier.isNone)

def Binding.resolve? (bindings : List Binding) (qualifier : String) : Option String :=
  if qualifier = "xml" then some Namespace.xml
  else (bindings.find? (·.qualifier == some qualifier)).map (·.uri)

def QName.isDeclared (bindings : List Binding) (q : QName) : Bool :=
  q.qualifier.all fun qualifier => (Binding.resolve? bindings qualifier).isSome

def QName.joined (bindings : List Binding) (q : QName) : QName :=
  if q.isDeclared bindings then q else ⟨none, q.toString⟩

def QName.expanded (bindings : List Binding) (q : QName) : Option String × String :=
  (q.qualifier.bind (Binding.resolve? bindings), (q.joined bindings).name)

def Namespace.leave (uri : Option String) (name : String) : String :=
  match (uri.getD "").toList.span (· != '\x7d') with
  | (_, _ :: rest) => String.ofList rest ++ "\x7d" ++ name
  | (_, []) => name

structure StartTag where
  name : QName
  written : List (QName × String)
  inherited : List Binding
deriving Repr, Inhabited

namespace StartTag

def effective (t : StartTag) : List (QName × String) :=
  t.written.filter fun a => (Binding.ofAttribute? a).all Binding.holds

def bindings (t : StartTag) : List Binding := t.effective.filterMap Binding.ofAttribute?

def inScope (t : StartTag) : List Binding := t.bindings ++ t.inherited

def attributes (t : StartTag) : List (QName × String) :=
  t.written.filter fun a => (Binding.ofAttribute? a).isNone

def declaredNames (t : StartTag) : List QName :=
  (t.attributes.map (·.1)).filter (·.isDeclared t.inScope)

def undeclaredNames (t : StartTag) : List QName :=
  (t.attributes.map (·.1)).filter fun q => !q.isDeclared t.inScope

def expandedNames (t : StartTag) : List (Option String × String) :=
  let bindings := t.inScope
  t.declaredNames.map (·.expanded bindings)

def isSound (t : StartTag) : Bool :=
  -- What an undeclared qualifier would make of a name is unknown.
  (firstRepeated? (t.bindings.map (·.qualifier))).isNone
    && (firstRepeated? t.declaredNames).isNone

def uri? (t : StartTag) : Option String :=
  match t.name.qualifier with
  | none => (t.inScope.find? (·.qualifier.isNone)).map (·.uri)
  | some qualifier => Binding.resolve? t.inScope qualifier

def resolve (t : StartTag) : List Attribute :=
  let bindings := t.inScope
  let values := t.attributes.map fun (q, value) => (q.expanded bindings, value)
  t.attributes.map fun (q, value) =>
    let (uri, name) := q.expanded bindings
    -- The value is that of the first attribute with this name in this namespace.
    { written := q.joined bindings
      value := (values.lookup (uri, name)).getD value
      name := Namespace.leave uri name
      spelled := value }

def tag? (t : StartTag) (line : Nat) : Option Tag :=
  if t.isSound then
    some {
      written := t.name.joined t.inScope
      name := Namespace.leave t.uri? (t.name.joined t.inScope).name
      bindings := t.bindings
      attributes := t.resolve
      inherited := t.inherited
      line
    }
  else
    none

end StartTag
end Catalog.Xml
