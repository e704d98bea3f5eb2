import Catalog.Text.Blank
/-!
This module contains the properties and variables that an entity declares.
-/

namespace Catalog

def reservedNames : List String := ["id", "tag"]

def isReserved (name : String) : Bool :=
  -- No letter outside ASCII has one of their letters as its small form.
  reservedNames.any (Text.isWord · name.toList)

inductive SchemaError where
  | reservedName (name : String)
  | repeatedProperty (name : String) (entity : Option String)
  | repeatedVariable (name : String) (entity : Option String)
  | undefinedEntity (name : String)
  | stated (text : String)
deriving DecidableEq, Repr, Inhabited

namespace SchemaError

def message : SchemaError → String
  | .reservedName name => "Property name '" ++ name ++ "' is reserved"
  | .repeatedProperty name entity =>
    "Property '" ++ name ++ "' is declared more than once" ++ place entity
  | .repeatedVariable name entity =>
    "Variable '" ++ name ++ "' is declared more than once" ++ place entity
  | .undefinedEntity name => "Entity '" ++ name ++ "' is not defined"
  | .stated text => text
where
  place : Option String → String
    | none => ""
    | some entity => if entity = "" then "" else " in entity '" ++ entity ++ "'"

end SchemaError

structure Property where
  name : String
  type : String := "string"
  default : Option String := none
  collection : Bool := false
  unreserved : isReserved name = false := by decide
deriving DecidableEq, Repr

structure Variable where
  name : String
  value : String
deriving DecidableEq, Repr, Inhabited

def Property.declare (name type : String) (default : Option String) (collection : Bool) :
    Except SchemaError Property :=
  if h : isReserved name = false then
    .ok { name, type, default, collection, unreserved := h }
  else
    .error (.reservedName name)

end Catalog
