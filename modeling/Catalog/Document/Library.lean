import Catalog.Collector.Traversal
import Catalog.Document.Basic
/-!
This module contains the reading of whole documents, entity by entity.
-/

namespace Catalog

structure Library where
  document : Document
  settings : Settings := {}

namespace Library

def section? (lib : Library) (name : String) : Except Error (Option Section) :=
  match lib.document.get name with
  | .error e => .error (.schema e)
  | .ok entry =>
    .ok (entry.records.map fun element =>
      ⟨element, entry.entity, lib.settings, lib.document.source⟩)

def read (lib : Library) (name : String) : Except Error (List Record) := do
  match ← lib.section? name with
  | none => return []
  | some sec => sec.records.mapError .element

def readAll (lib : Library) : Except Error (List (String × List Record)) :=
  lib.document.entries.mapM fun entry => do
    let records ← lib.read entry.name
    return (entry.name, records)

inductive Iteration where
  | fresh (name : String)
  | running (sec : Section) (c : Collector Shelf) (t : Traversal)
  | over

def Iteration.take (sec : Section) (c : Collector Shelf) (t : Traversal) :
    Take Error × Iteration :=
  match c.next sec .shelf t with
  | (.record r, t, c) => (.record r, .running sec c t)
  | (.failed e, _, _) => (.failed (.element e), .over)
  | (.ended, _, _) => (.ended, .over)

def next (lib : Library) : Iteration → Take Error × Iteration
  -- Only the first time the entity is looked up.
  | .fresh name =>
    match lib.section? name with
    | .error e => (.failed e, .over)
    | .ok none => (.ended, .over)
    | .ok (some sec) => Iteration.take sec { kept := {} } .fresh
  | .running sec c t => Iteration.take sec c t
  | .over => (.ended, .over)

end Library
end Catalog
