import Catalog.Command
import Catalog.Entity.Basic
import Catalog.Scope.Stack
/-!
This module contains the scopes open at a place of a records section: the variables bound by the
elements around it and the commands that records there inherit.
-/

namespace Catalog.Scope

def Stack.findVariable? (s : Stack Variable) (entity : Entity) (name : String) : Option Variable :=
  match s.entries.find? (·.name == name) with
  | some v => some v
  | none => entity.findVariable? name

def Stack.lookup (s : Stack Variable) (entity : Entity) (name : String) : Option String :=
  (s.findVariable? entity name).map (·.value)

def Stack.runAll (s : Stack Command) (r : Record) : Record :=
  Command.runAll s.outermostFirst r

end Catalog.Scope

namespace Catalog

structure Scopes where
  commands : Scope.Stack Command := {}
  vars : Scope.Stack Variable := {}
deriving Repr, Inhabited

end Catalog
