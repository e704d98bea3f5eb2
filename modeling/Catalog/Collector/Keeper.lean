import Catalog.Error
import Catalog.Record.Basic
/-!
This module contains keepers, which decide where finished records go. The shelf keeps records whose
ids differ from each other; the journal writes down every call.
-/

namespace Catalog

/--
What happens to that which is kept when a traversal begins, when a record with the given id is
begun, and when a record is finished. A finished record may be refused.
-/
structure Keeper (σ : Type) where
  renew : σ → σ
  create : Option String → σ → σ
  add : Record → σ → Except Problem σ

structure Shelf where
  records : List Record := []
  seen : List String := []
deriving Repr, Inhabited

def Shelf.add (r : Record) (s : Shelf) : Except Problem Shelf :=
  match r.id with
  | none => .ok { s with records := s.records ++ [r] }
  | some id =>
    if id ∈ s.seen then
      .error (.repeatedId id)
    else
      .ok { records := s.records ++ [r], seen := id :: s.seen }

def Keeper.shelf : Keeper Shelf where
  renew := fun _ => {}
  create := fun _ s => s
  add := Shelf.add

inductive Call where
  | created (id : Option String)
  | added (r : Record)
deriving DecidableEq, Repr, Inhabited

def Keeper.journal : Keeper (List Call) where
  renew := id
  create := fun id calls => calls ++ [.created id]
  add := fun r calls => .ok (calls ++ [.added r])

end Catalog
