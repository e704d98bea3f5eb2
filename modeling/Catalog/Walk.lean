import Catalog.Vocabulary
import Catalog.Xml.Tree
/-!
This module contains the walk through a records section: the list of its stops in document order.
Elements below a record, and elements without child elements that open no scope, are no stops.
-/

namespace Catalog

open Xml (Element Node)

inductive ScopeKind where
  | command
  | variable
deriving DecidableEq, Repr, Inhabited

inductive Stop where
  | record (e : Element)
  | enter (kind : ScopeKind) (e : Element)
  | reach (first : Element) (level : Nat)
  | leave
  | unknown (e : Element)
deriving Inhabited

namespace Stop

def scope (kind : ScopeKind) (e : Element) (level : Nat) (inside : List Stop) : List Stop :=
  match e.elements with
  | [] => []
  | first :: _ => .enter kind e :: .reach first level :: inside ++ [.leave]

mutual

/--
The stops of a node at the given level. Each element that opens a scope adds a level.
-/
def ofNode (level : Nat) : Node → List Stop
  | .element tag children =>
    match ElementKind.ofName tag.name with
    | .record => [.record ⟨tag, children⟩]
    | .command => scope .command ⟨tag, children⟩ (level + 1) (ofNodes (level + 1) children)
    | .variable => scope .variable ⟨tag, children⟩ (level + 1) (ofNodes (level + 1) children)
    | .unknown => [.unknown ⟨tag, children⟩]
  | .text _ => []
  | .comment _ => []
  | .instruction _ _ => []

def ofNodes (level : Nat) : List Node → List Stop
  | [] => []
  | n :: ns => ofNode level n ++ ofNodes level ns

end

def ofSection (e : Element) : List Stop := ofNodes 1 e.children

end Stop
end Catalog
