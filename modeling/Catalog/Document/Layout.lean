import Catalog.Document.Basic
import Catalog.Document.Path
import Catalog.Xml.Parser
/-!
This module contains the loading of documents. A document has sections of entities; an entity
declares properties and variables and has a records section, and it may extend an entity that is
declared before it. The tree of a document comes from a parser, of which nothing is asked.
-/

namespace Catalog.Document

open Xml (Element)

inductive Refusal where
  | layout (p : LoadProblem)
  | schema (e : SchemaError)
deriving DecidableEq, Repr

def Refusal.report (source : Option String) : Refusal → Error
  | .layout problem => .load { problem, source }
  | .schema e => .schema e

def Refusal.ofName (n : Xml.MalformedName) : Refusal := .layout (.malformedName n)

def name (e : Element) : Except Refusal String := e.comparableName.mapError .ofName

def attribute? (e : Element) (name : String) : Except Refusal (Option String) :=
  (e.attribute? name).mapError .ofName

def required (e : Element) (wanted : String) : Except Refusal String := do
  match ← attribute? e wanted with
  | some value => return value
  | none => throw (.layout (.missingAttribute (← name e) wanted))

def collection (e : Element) : Except Refusal Bool := do
  match ← attribute? e "collection" with
  | none => return false
  | some value =>
    if value = "true" then return true
    else if value = "false" || value = "" then return false
    else throw (.layout (.badCollection value))

def readProperty (e : Element) : Except Refusal Property := do
  let collection ← collection e
  let name ← required e "name"
  let type := ((← attribute? e "type").filter (· ≠ "")).getD "string"
  let default ← attribute? e "default"
  (Property.declare name type default collection).mapError .schema

def readVariable (e : Element) : Except Refusal Variable := do
  let name ← required e "name"
  let value ← required e "value"
  return { name, value }

structure Draft where
  properties : List Property := []
  vars : List Variable := []
  records : Option Element := none
deriving Inhabited

def readDeclaration (d : Draft) (e : Element) : Except Refusal Draft := do
  let kind ← name e
  if kind = "property" then
    let p ← readProperty e
    return { d with properties := d.properties ++ [p] }
  else if kind = "variable" then
    let v ← readVariable e
    return { d with vars := d.vars ++ [v] }
  else
    throw (.layout (.unexpectedDeclaration kind))

def readPart (entity : String) (d : Draft) (e : Element) : Except Refusal Draft := do
  let kind ← name e
  if kind = "declarations" then
    e.elements.foldlM readDeclaration d
  else if kind = "records" then
    -- Of several records sections the last one counts.
    return { d with records := some e }
  else
    throw (.layout (.unexpectedInEntity kind entity))

def readBase (d : Document) (e : Element) : Except Refusal (Option Entity) := do
  match ← attribute? e "base" with
  | none => return none
  | some base =>
    let entry ← (d.get base).mapError .schema
    return some entry.entity

def readEntity (d : Document) (e : Element) : Except Refusal Entry := do
  let kind ← name e
  if kind = "entity" then
    let name ← required e "name"
    -- A base that is not declared yet is reported before anything in the entity is looked at.
    let base ← readBase d e
    let draft ← e.elements.foldlM (readPart name) {}
    let entity ← (Entity.declare name draft.properties draft.vars base).mapError .schema
    return { entity, records := draft.records }
  else
    throw (.layout (.unexpectedElement kind))

def addEntity (d : Document) (e : Element) : Except Refusal Document := do
  let entry ← readEntity d e
  match d.declare? entry with
  | some d => return d
  | none => throw (.layout (.repeatedEntity entry.name))

def addSection (d : Document) (e : Element) : Except Refusal Document := do
  let kind ← name e
  if kind = "entities" then
    e.elements.foldlM addEntity d
  else
    throw (.layout (.unexpectedElement kind))

def read (source : Option String) (root : Element) : Except Refusal Document := do
  let kind ← name root
  if kind = "document" then
    root.elements.foldlM addSection (.empty source)
  else
    throw (.layout (.wrongRoot kind))

/--
What a parser makes of a document: the root of its tree, or the words in which it refuses the
document, where these are known.
-/
abbrev Parsed := Except (Option String) Element

def load (source : Option String) : Parsed → Except Error Document
  | .error words => .error (.load { problem := .unreadable words, source })
  | .ok root => (read source root).mapError (·.report source)

def loadBytes (parse : List UInt8 → Parsed) (source : Option String) (bytes : List UInt8) :
    Except Error Document :=
  load source (parse bytes)

def loadString (parse : List UInt8 → Parsed) (source : Option String) (text : String) :
    Except Error Document :=
  loadBytes parse source text.toUTF8.toList

def loadFile (parse : String → Parsed) (path : String) : Except Error Document :=
  let source := Path.plain path
  load (some source) (parse source)

/-!
The same with the parser of `Catalog.Xml`, which knows no words for what it refuses.
-/

def parsed : Option Element → Parsed
  | none => .error none
  | some root => .ok root

def ofBytes (source : Option String) (bytes : List UInt8) : Except Error Document :=
  loadBytes (parsed <| Xml.parse? ·) source bytes

def ofString (source : Option String) (text : String) : Except Error Document :=
  loadString (parsed <| Xml.parse? ·) source text

def ofFile (contents : String → Option String) (path : String) : Except Error Document :=
  loadFile (fun path => parsed ((contents (Path.lookup path)).bind Xml.parseString?)) path

end Catalog.Document
