import Catalog.Entity.Property
import Catalog.Text.Repeated
/-!
This module contains entities. An entity is a chain of layers of declarations: its own layer and
those of the entities it extends, nearest first. A name is looked up in the nearest layer that
declares it.
-/

namespace Catalog

structure Layer where
  name : String := ""
  properties : List Property := []
  vars : List Variable := []
  properties_nodup : (properties.map (·.name)).Nodup := by decide
  vars_nodup : (vars.map (·.name)).Nodup := by decide
deriving DecidableEq, Repr

instance : Inhabited Layer := ⟨{}⟩

namespace Layer

def findProperty? (l : Layer) (name : String) : Option Property :=
  l.properties.find? (·.name == name)

def findVariable? (l : Layer) (name : String) : Option Variable :=
  l.vars.find? (·.name == name)

end Layer

structure Entity where
  own : Layer := {}
  bases : List Layer := []
deriving DecidableEq, Repr, Inhabited

namespace Entity

def layers (e : Entity) : List Layer := e.own :: e.bases

def name (e : Entity) : String := e.own.name

def base? (e : Entity) : Option Entity :=
  match e.bases with
  | [] => none
  | l :: ls => some ⟨l, ls⟩

def declare (name : String) (properties : List Property) (vars : List Variable)
    (base : Option Entity) : Except SchemaError Entity :=
  let named := if name = "" then none else some name
  match hp : firstRepeated? (properties.map (·.name)) with
  | some n => .error (.repeatedProperty n named)
  | none =>
    match hv : firstRepeated? (vars.map (·.name)) with
    | some n => .error (.repeatedVariable n named)
    | none =>
      .ok {
        own := {
          name, properties, vars
          properties_nodup := firstRepeated?_eq_none_iff.mp hp
          vars_nodup := firstRepeated?_eq_none_iff.mp hv
        }
        bases := (base.map layers).getD []
      }

def findProperty? (e : Entity) (name : String) : Option Property :=
  e.layers.findSome? (·.findProperty? name)

def findVariable? (e : Entity) (name : String) : Option Variable :=
  e.layers.findSome? (·.findVariable? name)

/--
The properties that a chain of layers declares, those of the farthest layer first. A property that
a nearer layer declares again is left out.
-/
def visibleProperties : List Layer → List Property
  | [] => []
  | l :: ls =>
    (visibleProperties ls).filter (fun p => (l.findProperty? p.name).isNone) ++ l.properties

def properties (e : Entity) : List Property := visibleProperties e.layers

def propertiesWithDefault (e : Entity) : List Property :=
  e.properties.filter (·.default.isSome)

end Entity
end Catalog
