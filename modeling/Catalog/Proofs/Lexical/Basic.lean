import Catalog.Collector.Basic
import Catalog.Proofs.Entity.Defaults
/-!
This module contains the reading of a records section by lexical scoping, without any stack: each
element is read in the surroundings that the elements around it make, and what is inside of an
element is read in surroundings of its own. A reading ends with its first fault.
-/

namespace Catalog

open Xml (Element Node Attribute)

/--
What the elements around a place give to it: lists of commands, the outermost first, and variables,
the nearest first.
-/
structure Surroundings where
  commands : List (List Command) := []
  vars : List Variable := []
deriving Repr, Inhabited

namespace Surroundings

def inherit (around : Surroundings) (commands : List Command) : Surroundings :=
  { around with commands := around.commands ++ [commands] }

def bind (around : Surroundings) (v : Variable) : Surroundings :=
  { around with vars := v :: around.vars }

def nearest? (around : Surroundings) (entity : Entity) (name : String) : Option Variable :=
  (around.vars.find? (·.name == name)).or (entity.findVariable? name)

def environment (around : Surroundings) (sec : Section) : Environment where
  entity := sec.entity
  substitute := sec.settings.substitute
  lookup name := (around.nearest? sec.entity name).map (·.value)

end Surroundings

structure Visit where
  element : Element
  around : Surroundings
  record : Record
deriving Inhabited

/--
What reading comes to: the records made, the kinds of the scopes that hold something, both in
document order, and the fault that ended it if there is one.
-/
structure Reading where
  visits : List Visit := []
  scopes : List ScopeKind := []
  fault : Option Fault := none
deriving Inhabited

namespace Reading

def records (reading : Reading) : List Record := reading.visits.map (·.record)

def followedBy (first second : Reading) : Reading :=
  match first.fault with
  | none => ⟨first.visits ++ second.visits, first.scopes ++ second.scopes, second.fault⟩
  | some _ => first

end Reading

namespace Lexical

def ofAttribute (env : Environment) (e : Element) (a : Attribute) :
    Except Fault (String ⊕ Command) := do
  let name ← (Xml.comparable a.name).mapError (Fault.ofName e)
  if name = "id" then
    let id ← env.value e a.value (some name)
    return .inl id
  else
    let c ← env.ofAttribute e name a.value
    return .inr c

/--
The record of an element. It starts with the defaults of collections; its own commands come first,
those of its child elements next, then the inherited ones, and other defaults last.
-/
def record (sec : Section) (around : Surroundings) (e : Element) : Except Fault Record := do
  let env := around.environment sec
  let own ← e.attributes.mapM (ofAttribute env e)
  let children ← env.ofChildren e
  let start : Record :=
    { id := (own.filterMap Sum.getLeft?).getLast?, properties := sec.entity.seeds }
  let commands := own.filterMap Sum.getRight? ++ children ++ around.commands.flatten
  let r := Command.runAll commands start
  return { r with properties := r.properties ++ sec.entity.fillings r }

def ofRecord (sec : Section) (around : Surroundings) (e : Element) : Reading :=
  match record sec around e with
  | .ok record => { visits := [⟨e, around, record⟩] }
  | .error f => { fault := f }

/--
The reading of an element that makes surroundings for what is in it, which is at the given level.
Without child elements it is not even looked at.
-/
def ofScope (limit : Option Nat) (level : Nat) (e : Element)
    (opened : Except Fault (Surroundings × List ScopeKind)) (inside : Surroundings → Reading) :
    Reading :=
  match e.elements, opened with
  | [], _ => {}
  | _ :: _, .error f => { fault := f }
  | first :: _, .ok (around, scopes) =>
    match limit with
    | none => { inside around with scopes := scopes ++ (inside around).scopes }
    | some n =>
      if level ≤ n then
        { inside around with scopes := scopes ++ (inside around).scopes }
      else
        { scopes, fault := some ⟨.tooDeep n, first, none⟩ }

mutual

def ofNode (sec : Section) (limit : Option Nat) (level : Nat) (around : Surroundings) :
    Node → Reading
  -- If there is a limit, no deeper level is read.
  | .element tag children =>
    match ElementKind.ofName tag.name with
    | .record => ofRecord sec around ⟨tag, children⟩
    | .command =>
      ofScope limit (level + 1) ⟨tag, children⟩
        (((around.environment sec).ofCommandElement ⟨tag, children⟩).map fun commands =>
          (around.inherit commands, if commands.isEmpty then [] else [.command]))
        (fun around => ofNodes sec limit (level + 1) around children)
    | .variable =>
      ofScope limit (level + 1) ⟨tag, children⟩
        (((around.environment sec).ofVariableElement ⟨tag, children⟩).map fun v =>
          (around.bind v, [.variable]))
        (fun around => ofNodes sec limit (level + 1) around children)
    | .unknown => { fault := some ⟨.unknownElement tag.name, ⟨tag, children⟩, none⟩ }
  | .text _ => {}
  | .comment _ => {}
  | .instruction _ _ => {}

def ofNodes (sec : Section) (limit : Option Nat) (level : Nat) (around : Surroundings) :
    List Node → Reading
  | [] => {}
  | n :: ns => (ofNode sec limit level around n).followedBy (ofNodes sec limit level around ns)

end

/--
The reading of a records section. The elements right below it are at level one.
-/
def read (sec : Section) (limit : Option Nat) : Reading :=
  ofNodes sec limit 1 {} sec.element.children

end Lexical
end Catalog
