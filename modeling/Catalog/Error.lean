import Catalog.Entity.Property
import Catalog.Place
import Catalog.Value.Resolve
/-!
This module contains the errors that reading can end in, and their wording.
-/

namespace Catalog

inductive Problem where
  | unknownElement (name : String)
  | undefinedCommand (name : String)
  | undefinedProperty (name : String)
  | notCollection (property : String)
  | badValue (e : ValueError)
  | missingAttribute (name : String)
  | repeatedId (id : String)
  | tooDeep (limit : Int)
  | malformedName (n : Xml.MalformedName)
  | stated (text : String)
deriving DecidableEq, Repr, Inhabited

def Problem.message : Problem → String
  | .unknownElement name => "Element '" ++ name ++ "' is not recognized"
  | .undefinedCommand name => "Command '" ++ name ++ "' is not defined"
  | .undefinedProperty name => "Property '" ++ name ++ "' is not defined"
  | .notCollection property =>
    "Cannot add item to property '" ++ property ++ "' because it is not a collection"
  | .badValue e => "Error while parsing value: " ++ e.message
  | .missingAttribute name => "Required attribute '" ++ name ++ "' is missing"
  | .repeatedId id => "Record id '" ++ id ++ "' is already used"
  | .tooDeep limit => "Element nesting exceeds maximum depth of " ++ toString limit
  | .malformedName n => n.message
  | .stated text => text

structure StructureError where
  problem : Problem
  place : Option Place := none
  level : DetailLevel := .user
deriving DecidableEq, Repr, Inhabited

def StructureError.message (e : StructureError) : String :=
  match e.place with
  | none => e.problem.message
  | some place =>
    let description := place.describe e.level
    if description = "" then e.problem.message else e.problem.message ++ "\n" ++ description

inductive LoadProblem where
  | unreadable (words : Option String)
  | wrongRoot (found : String)
  | unexpectedElement (name : String)
  | unexpectedInEntity (name entity : String)
  | unexpectedDeclaration (name : String)
  | missingAttribute (element name : String)
  | badCollection (value : String)
  | repeatedEntity (name : String)
  | malformedName (n : Xml.MalformedName)
  | stated (text : String)
deriving DecidableEq, Repr, Inhabited

def LoadProblem.message : LoadProblem → String
  | .unreadable none => "Cannot parse document"
  | .unreadable (some words) => "Cannot parse document: " ++ words
  | .wrongRoot found => "Root element must be <document>, found <" ++ found ++ ">"
  | .unexpectedElement name => "Unexpected element <" ++ name ++ ">"
  | .unexpectedInEntity name entity =>
    "Unexpected element <" ++ name ++ "> in entity '" ++ entity ++ "'"
  | .unexpectedDeclaration name => "Unexpected declaration <" ++ name ++ ">"
  | .missingAttribute element name =>
    "Element <" ++ element ++ "> requires attribute '" ++ name ++ "'"
  | .badCollection value =>
    "Attribute 'collection' must be 'true' or 'false', got '" ++ value ++ "'"
  | .repeatedEntity name => "Entity '" ++ name ++ "' is declared more than once"
  | .malformedName n => n.message
  | .stated text => text

structure LoadError where
  problem : LoadProblem
  source : Option String := none
deriving DecidableEq, Repr, Inhabited

def LoadError.message (e : LoadError) : String :=
  match e.problem, Place.given e.source with
  -- Where the words are not known, the message is not told any further.
  | .unreadable none, _ => (LoadProblem.unreadable none).message
  | .malformedName n, _ => n.message
  | p, none => p.message
  | p, some source => p.message ++ " (" ++ source ++ ")"

inductive Error where
  | schema (e : SchemaError)
  | load (e : LoadError)
  | element (e : StructureError)
deriving DecidableEq, Repr

def Error.message : Error → String
  | .schema e => e.message
  | .load e => e.message
  | .element e => e.message

end Catalog
