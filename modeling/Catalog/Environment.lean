import Catalog.Command
import Catalog.Entity.Basic
import Catalog.Error
import Catalog.Vocabulary
/-!
This module contains the commands that attributes and elements stand for. What an element means
depends on its environment: the entity, and what the names of variables stand for at its place.
-/

namespace Catalog

open Xml (Element Attribute)

structure Fault where
  problem : Problem
  element : Element
  attributeName : Option String := none
deriving Repr, Inhabited

def Fault.ofName (e : Element) (n : Xml.MalformedName) : Fault := ⟨.malformedName n, e, none⟩

def Fault.report (f : Fault) (document : Option String) (level : DetailLevel) : StructureError :=
  match f.problem, Place.ofElement document f.element f.attributeName with
  | .malformedName n, _ => { problem := .malformedName n, level }
  -- An element whose own name is malformed is reported for this, whatever else is wrong with it.
  | _, .error n => { problem := .malformedName n, level }
  | problem, .ok place => { problem, place := some place, level }

structure Environment where
  entity : Entity
  substitute : Bool
  lookup : String → Option String

namespace Environment

def value (env : Environment) (e : Element) (raw : String) (attributeName : Option String) :
    Except Fault String :=
  if env.substitute then
    (resolve? env.lookup raw).mapError fun err => ⟨.badValue err, e, attributeName⟩
  else
    .ok raw

def property (env : Environment) (e : Element) (name : String) (attributeName : Option String) :
    Except Fault Property :=
  match env.entity.findProperty? name with
  | some p => .ok p
  | none => .error ⟨.undefinedProperty name, e, attributeName⟩

def assign (p : Property) (name value : String) : Command :=
  if p.collection then .addItem name value else .set name value

def ofAttribute (env : Environment) (e : Element) (name raw : String) : Except Fault Command :=
  if name = "tag" then
    (env.value e raw (some name)).map .addTag
  else do
    let p ← env.property e name (some name)
    let value ← env.value e raw (some name)
    return assign p name value

def ofCommandAttribute (env : Environment) (e : Element) (make : String → String → Command)
    (a : Attribute) : Except Fault Command := do
  let _ ← env.property e a.name (some a.name)
  let value ← env.value e a.value (some a.name)
  return make a.name value

def ofAddAttribute (env : Environment) (e : Element) (a : Attribute) : Except Fault Command := do
  let p ← env.property e a.name (some a.name)
  if !p.collection then
    throw ⟨.notCollection a.name, e, some a.name⟩
  let value ← env.value e a.value (some a.name)
  return .addItem a.name value

def ofCommandElement (env : Environment) (e : Element) : Except Fault (List Command) := do
  -- The names must be comparable even where nothing is compared with them.
  let _ ← e.comparableNames.mapError (Fault.ofName e)
  match CommandElement.ofName? e.name with
  | none => throw ⟨.undefinedCommand e.name, e, none⟩
  | some .set => e.attributes.mapM fun a => env.ofAttribute e a.name a.value
  | some .append => e.attributes.mapM (env.ofCommandAttribute e .append)
  | some .prepend => e.attributes.mapM (env.ofCommandAttribute e .prepend)
  | some .add => e.attributes.mapM (env.ofAddAttribute e)
  | some .tag =>
    -- All attributes but the first one with this name are left out.
    match ← (e.attribute? "value").mapError (Fault.ofName e) with
    | none => return []
    | some raw =>
      let tag ← env.value e raw (some "value")
      return [.addTag tag]

def ofChild (env : Environment) (e : Element) : Except Fault (List Command) :=
  if e.attributes.isEmpty then do
    -- The element is no command, it gives its text to the property that it names.
    let name ← e.comparableName.mapError (Fault.ofName e)
    let p ← env.property e name none
    let value ← env.value e e.content none
    return [assign p name value]
  else
    env.ofCommandElement e

def ofChildren (env : Environment) (e : Element) : Except Fault (List Command) := do
  let commands ← e.elements.mapM env.ofChild
  return commands.flatten

def scopeEntry (env : Environment) (e : Element) : Except Fault (Option Command) :=
  (env.ofCommandElement e).map Command.join

def required (e : Element) (name : String) : Except Fault String := do
  match ← (e.attribute? name).mapError (Fault.ofName e) with
  | some value => return value
  | none => throw ⟨.missingAttribute name, e, none⟩

def ofVariableElement (env : Environment) (e : Element) : Except Fault Variable := do
  let name ← required e "name"
  let raw ← required e "value"
  let value ← env.value e raw (some "value")
  return { name, value }

def ofAttributes (env : Environment) (e : Element) :
    Except Fault (Option String × List Command) :=
  e.attributes.foldlM (fun (id, commands) a => do
    let name ← (Xml.comparable a.name).mapError (Fault.ofName e)
    if name = "id" then
      -- Of several ids the last one counts.
      let id ← env.value e a.value (some name)
      return (some id, commands)
    else
      let c ← env.ofAttribute e name a.value
      return (id, commands ++ [c])) (none, [])

end Environment

namespace Entity

def seed (entity : Entity) (r : Record) : Record :=
  entity.propertiesWithDefault.foldl (fun r p =>
    if p.collection && !r.contains p.name then r.set p.name (.items p.default.toList) else r) r

def fill (entity : Entity) (r : Record) : Record :=
  entity.propertiesWithDefault.foldl (fun r p =>
    if !p.collection && !r.contains p.name then r.set p.name (.text (p.default.getD "")) else r) r

def make (entity : Entity) (id : Option String) (commands : List Command) : Record :=
  -- Defaults of collections come before the commands, other defaults after them.
  entity.fill (Command.runAll commands (entity.seed { id }))

end Entity
end Catalog
