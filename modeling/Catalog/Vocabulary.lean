/-!
This module contains the names with a fixed meaning in a records section.
-/

namespace Catalog

def version : String := "0.1.0"

inductive CommandElement where
  | set
  | append
  | prepend
  | tag
  | add
deriving DecidableEq, Repr, Inhabited

namespace CommandElement

def name : CommandElement → String
  | .set => "set"
  | .append => "append"
  | .prepend => "prefix"
  | .tag => "tag"
  | .add => "add"

def all : List CommandElement := [.add, .append, .prepend, .set, .tag]

def ofName? (name : String) : Option CommandElement := all.find? (·.name == name)

theorem ofName?_name (c : CommandElement) : ofName? c.name = some c := by
  cases c <;> decide

end CommandElement

inductive ElementKind where
  | record
  | command
  | variable
  | unknown
deriving DecidableEq, Repr, Inhabited

def ElementKind.ofName (name : String) : ElementKind :=
  if name = "new" then .record
  else if (CommandElement.ofName? name).isSome then .command
  else if name = "variable" then .variable
  else .unknown

end Catalog
