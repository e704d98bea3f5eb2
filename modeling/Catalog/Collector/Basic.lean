import Catalog.Collector.Keeper
import Catalog.Environment
import Catalog.Scope.Basic
import Catalog.Walk
/-!
This module contains collectors: what is kept of a records section while it is read. A collector
gets new scopes whenever a traversal of the section begins; earlier scopes stay for the traversals
that have scopes open in them.
-/

namespace Catalog

open Xml (Element)

structure Section where
  element : Element
  entity : Entity
  settings : Settings := {}
  document : Option String := none

namespace Section

def environment (sec : Section) (vars : Scope.Stack Variable) : Environment where
  entity := sec.entity
  substitute := sec.settings.substitute
  lookup := vars.lookup sec.entity

def report (sec : Section) (f : Fault) : StructureError :=
  f.report sec.document sec.settings.level

def stops (sec : Section) : List Stop := Stop.ofSection sec.element

end Section

structure OpenScope where
  generation : Nat
  kind : ScopeKind
deriving DecidableEq, Repr, Inhabited

/--
The state of a collector. `earlier` holds the scopes of earlier generations, the oldest first.
-/
structure Collector (σ : Type) where
  kept : σ
  earlier : List Scopes := []
  present : Scopes := {}
  current : Option Element := none

namespace Collector

variable {σ : Type}

def generation (c : Collector σ) : Nat := c.earlier.length

def reset (k : Keeper σ) (c : Collector σ) : Collector σ where
  kept := k.renew c.kept
  earlier := c.earlier ++ [c.present]
  present := {}
  current := none

def enterCommand (c : Collector σ) (entry : Command) : Collector σ :=
  { c with present := { c.present with commands := c.present.commands.push entry } }

def enterVariable (c : Collector σ) (v : Variable) : Collector σ :=
  { c with present := { c.present with vars := c.present.vars.push v } }

def leaveIn (kind : ScopeKind) (s : Scopes) : Scopes :=
  match kind with
  | .command => { s with commands := s.commands.leave }
  | .variable => { s with vars := s.vars.leave }

def leave (c : Collector σ) (o : OpenScope) : Collector σ :=
  if o.generation = c.generation then
    { c with present := leaveIn o.kind c.present }
  else
    { c with earlier := c.earlier.modify o.generation (leaveIn o.kind) }

def finish (c : Collector σ) (opened : List (Option OpenScope)) : Collector σ :=
  let c := opened.reduceOption.foldl leave c
  { c with current := none }

def findVariable? (c : Collector σ) (sec : Section) (name : String) : Option Variable :=
  c.present.vars.findVariable? sec.entity name

def value? (c : Collector σ) (sec : Section) (raw : String) (attributeName : Option String) :
    Except StructureError String :=
  ((sec.environment c.present.vars).value sec.element raw attributeName).mapError sec.report

def build (c : Collector σ) (sec : Section) (k : Keeper σ) (e : Element) :
    Except Fault Record × Collector σ :=
  let env := sec.environment c.present.vars
  match env.ofAttributes e with
  | .error f => (.error f, c)
  | .ok (id, own) =>
    -- The keeper hears of the record before the elements in it are looked at.
    let c := { c with kept := k.create id c.kept }
    match env.ofChildren e with
    | .error f => (.error f, c)
    | .ok children =>
      let r := sec.entity.make id (own ++ children ++ c.present.commands.outermostFirst)
      match k.add r c.kept with
      | .error problem => (.error ⟨problem, e, none⟩, c)
      | .ok kept => (.ok r, { c with kept, current := some e })

end Collector
end Catalog
