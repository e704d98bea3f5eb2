import Catalog.Entity.Basic
import Catalog.Error
/-!
This module contains documents: entities with their records sections, in the order in which they are
declared.
-/

namespace Catalog

open Xml (Element)

namespace Document

structure Entry where
  entity : Entity
  records : Option Element := none
deriving Inhabited

def Entry.name (e : Entry) : String := e.entity.name

end Document

structure Document where
  source : Option String := none
  entries : List Document.Entry := []
  entries_nodup : (entries.map (·.name)).Nodup := by decide

namespace Document

def empty (source : Option String) : Document := { source }

instance : Inhabited Document := ⟨empty none⟩

def find? (d : Document) (name : String) : Option Entry := d.entries.find? (·.name == name)

theorem find?_eq_none_iff {d : Document} {name : String} :
    d.find? name = none ↔ name ∉ d.entries.map (·.name) := by
  simp [find?]

def get (d : Document) (name : String) : Except SchemaError Entry :=
  match d.find? name with
  | some e => .ok e
  | none => .error (.undefinedEntity name)

def declare? (d : Document) (e : Entry) : Option Document :=
  match h : d.find? e.name with
  | some _ => none
  | none =>
    some {
      source := d.source
      entries := d.entries ++ [e]
      entries_nodup := by
        have := find?_eq_none_iff.mp h
        have := d.entries_nodup
        grind
    }

end Document
end Catalog
