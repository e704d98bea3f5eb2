import Catalog.Collector.Basic
/-!
This module contains the traversals of a records section. They are lazy: a traversal rests at each
record that it makes until the next one is asked for, and several of them may take turns on one
collector. Each leaves its scopes in the generation in which it opened them, and for all else works
on what the collector has at present.
-/

namespace Catalog

variable {σ : Type}

/--
A traversal. One under way holds the stops that it has yet to come past and the scopes that it has
open, the innermost first. An element without commands opens none.
-/
inductive Traversal where
  | fresh
  | paused (stops : List Stop) (opened : List (Option OpenScope))
  | over
deriving Inhabited

inductive Take (ε : Type) where
  | record (r : Record)
  | failed (e : ε)
  | ended
deriving Inhabited

inductive Outcome (σ : Type) where
  | moved (c : Collector σ) (opened : List (Option OpenScope))
  | yielded (r : Record) (c : Collector σ)
  | failed (f : Fault) (c : Collector σ)

namespace Collector

def step (c : Collector σ) (sec : Section) (k : Keeper σ) (opened : List (Option OpenScope)) :
    Stop → Outcome σ
  | .record e =>
    match c.build sec k e with
    | (.ok r, c) => .yielded r c
    | (.error f, c) => .failed f c
  | .enter .command e =>
    match (sec.environment c.present.vars).scopeEntry e with
    | .ok none => .moved c (none :: opened)
    | .ok (some entry) => .moved (c.enterCommand entry) (some ⟨c.generation, .command⟩ :: opened)
    | .error f => .failed f c
  | .enter .variable e =>
    match (sec.environment c.present.vars).ofVariableElement e with
    | .ok v => .moved (c.enterVariable v) (some ⟨c.generation, .variable⟩ :: opened)
    | .error f => .failed f c
  | .reach first level =>
    if level ≤ sec.settings.maxDepth then
      .moved c opened
    else
      .failed ⟨.tooDeep sec.settings.maxDepth, first, none⟩ c
  | .leave =>
    match opened with
    | [] => .moved c []
    | none :: opened => .moved c opened
    | some o :: opened => .moved (c.leave o) opened
  | .unknown e => .failed ⟨.unknownElement e.name, e, none⟩ c

def advance (sec : Section) (k : Keeper σ) :
    List Stop → List (Option OpenScope) → Collector σ →
      Take StructureError × Traversal × Collector σ
  | [], opened, c => (.ended, .over, c.finish opened)
  | stop :: stops, opened, c =>
    match c.step sec k opened stop with
    | .moved c opened => advance sec k stops opened c
    | .yielded r c => (.record r, .paused stops opened, c)
    | .failed f c => (.failed (sec.report f), .over, c.finish opened)

def next (c : Collector σ) (sec : Section) (k : Keeper σ) :
    Traversal → Take StructureError × Traversal × Collector σ
  | .fresh => advance sec k sec.stops [] (c.reset k)
  | .paused stops opened => advance sec k stops opened c
  | .over => (.ended, .over, c)

def close (c : Collector σ) : Traversal → Collector σ
  | .fresh => c
  | .paused _ opened => c.finish opened
  | .over => c

def exhaust (sec : Section) (k : Keeper σ) :
    List Stop → List (Option OpenScope) → Collector σ →
    List Record × Option StructureError × Collector σ
  | [], opened, c => ([], none, c.finish opened)
  | stop :: stops, opened, c =>
    match c.step sec k opened stop with
    | .moved c opened => exhaust sec k stops opened c
    | .yielded r c =>
      let (rs, e, c) := exhaust sec k stops opened c
      (r :: rs, e, c)
    | .failed f c => ([], some (sec.report f), c.finish opened)

def drain (c : Collector σ) (sec : Section) (k : Keeper σ) :
    Traversal → List Record × Option StructureError × Collector σ
  | .fresh => exhaust sec k sec.stops [] (c.reset k)
  | .paused stops opened => exhaust sec k stops opened c
  | .over => ([], none, c)

def readRecords (c : Collector Shelf) (sec : Section) :
    Except StructureError (List Record) × Collector Shelf :=
  match c.drain sec .shelf .fresh with
  | (_, some e, c) => (.error e, c)
  | (_, none, c) => (.ok c.kept.records, c)

end Collector

def Section.records (sec : Section) : Except StructureError (List Record) :=
  (Collector.readRecords { kept := {} } sec).1

end Catalog
