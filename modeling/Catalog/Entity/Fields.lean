import Catalog.Entity.Basic
import Catalog.Field
/-!
This module contains the declaration of properties, variables and entities from loosely typed data.
-/

namespace Catalog

inductive DeclarationError where
  | invalid (problems : List FieldProblem)
  | schema (e : SchemaError)
deriving DecidableEq, Repr

def Checked.declare {α β : Type} (checked : Checked α) (f : α → Except SchemaError β) :
    Except DeclarationError β :=
  match checked with
  | .error problems => .error (.invalid problems)
  | .ok a => (f a).mapError .schema

def Property.ofFields (fields : Fields) : Except DeclarationError Property :=
  -- A reserved name is refused before anything else is looked at.
  let name := fields.require "name" Datum.text?
  let type := fields.optional "type" "string" Datum.text?
  let default := fields.optional "default_value" none Datum.optionalText?
  let collection := fields.optional "is_collection" false Datum.truth?
  let all := name.and (type.and (default.and collection))
  match name with
  | .ok n =>
    if isReserved n then .error (.schema (.reservedName n))
    else all.declare fun (n, t, d, c) => Property.declare n t d c
  | .error _ => all.declare fun (n, t, d, c) => Property.declare n t d c

def Variable.ofFields (fields : Fields) : Except DeclarationError Variable :=
  let all := (fields.require "name" Datum.text?).and (fields.require "value" Datum.text?)
  all.declare fun (name, value) => .ok { name, value }

structure LayerFields where
  fields : Fields := []
  properties : List Fields := []
  vars : List Fields := []
deriving Repr, Inhabited

def Entity.ofFields (own : LayerFields) : List LayerFields → Except DeclarationError Entity
  -- Its own properties and variables are declared before its base.
  | [] => do
    let properties ← own.properties.mapM Property.ofFields
    let vars ← own.vars.mapM Variable.ofFields
    (own.fields.optional "name" "" Datum.text?).declare
      (Entity.declare · properties vars none)
  | base :: bases => do
    let properties ← own.properties.mapM Property.ofFields
    let vars ← own.vars.mapM Variable.ofFields
    let base ← Entity.ofFields base bases
    (own.fields.optional "name" "" Datum.text?).declare
      (Entity.declare · properties vars (some base))

end Catalog
