import Catalog.Text.Uri
import Catalog.Xml.Encoding
import Catalog.Xml.Identifier
import Catalog.Xml.Namespace
/-!
This module contains what there is to remark about documents whose markup is correct. Some remarks
are faults and some are not. The remark that comes last decides whether a document is acceptable.
-/

namespace Catalog.Xml

inductive Remark where
  | minorVersion
  | otherEncoding
  | malformedName
  | undeclaredQualifier
  | malformedNamespace
  | relativeNamespace
  | reservedNamespace
  | emptyNamespace
  | unknownSpace
  | reservedTarget
  | qualifiedTarget
  | repeatedName
  | malformedIdentifier
  | repeatedIdentifier
deriving DecidableEq, Repr, Inhabited

def Remark.isFault : Remark → Bool
  | .minorVersion | .otherEncoding | .relativeNamespace | .unknownSpace | .reservedTarget => false
  | _ => true

def Binding.remark? (b : Binding) : Option Remark :=
  if b.isReserved then
    -- To declare what holds anyway is no fault.
    if b = ⟨some "xml", Namespace.xml⟩ then none else some .reservedNamespace
  else if b.uri = "" then
    if b.qualifier.isNone then none else some .emptyNamespace
  else if Text.isUri b.uri.toList then
    none
  else if Text.isRelativeReference b.uri.toList then
    if b.qualifier.isNone then some .relativeNamespace else none
  else
    some .malformedNamespace

namespace Remark

def ofName (q : QName) : List Remark := if q.isMalformed then [malformedName] else []

def ofAttribute (a : QName × String) : List Remark :=
  match Binding.ofAttribute? a with
  | some b => b.remark?.toList
  | none =>
    ofName a.1 ++
      if a.1 = ⟨some "xml", "space"⟩ ∧ a.2 ∉ ["default", "preserve"] then [unknownSpace] else []

def ofIdentifier (seen : List String) (id : String) : List Remark :=
  (if Identifier.isValid id then [] else [malformedIdentifier])
    ++ if id ∈ seen then [repeatedIdentifier] else []

def knownTargets : List String := ["xml-stylesheet", "xml-model"]

def ofTarget (target : List Char) : List Remark :=
  (if Text.isWord "xml" (target.take 3) && !knownTargets.contains (String.ofList target) then
    [reservedTarget] else [])
    ++ if target.contains ':' then [qualifiedTarget] else []

def identifier? (written : List (QName × String)) : Option String :=
  written.lookup ⟨some "xml", "id"⟩

def ofRepeated (names : List (Option String × String)) : List Remark :=
  List.replicate (names.length - names.eraseDups.length) repeatedName

def ofStart (seen : List String) (t : StartTag) : List Remark :=
  -- What is written comes first, in the order in which it is written.
  ofName t.name ++ t.written.flatMap ofAttribute
    ++ t.undeclaredNames.map (fun _ => undeclaredQualifier)
    ++ ofRepeated t.expandedNames
    ++ (if t.name.isDeclared t.inScope then [] else [undeclaredQualifier])
    ++ (identifier? t.written).toList.flatMap (ofIdentifier seen)

def capacity : Nat := 100

def lastRecorded? (faults others : Nat) : List Remark → Option Remark
  | [] => none
  | r :: rs =>
    if r.isFault then
      match faults with
      | 0 => lastRecorded? 0 others rs
      | n + 1 => (lastRecorded? n others rs).or (some r)
    else
      match others with
      | 0 => lastRecorded? faults 0 rs
      | n + 1 => (lastRecorded? faults n rs).or (some r)

def ofDeclaration (shown : Option ShownEncoding) (d : Declaration) : List Remark :=
  (if d.version = "1.0" then [] else [minorVersion])
    ++ if d.encoding.any fun name => shown.any fun e => !e.hasName name then [otherEncoding] else []

/--
Whether a document is acceptable about which there are the given remarks. The last of them that is
recorded must not be a fault.
-/
def acceptable (remarks : List Remark) : Bool :=
  (lastRecorded? capacity capacity remarks).all fun r => !r.isFault

end Remark
end Catalog.Xml
