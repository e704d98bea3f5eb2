import Catalog.Command
/-!
This module contains programs over a record. Commands may be held back and run later. A list that a
record hands out is the very list that it keeps: items that are added to the property show in it, up
to the time when the property gets another value.
-/

namespace Catalog.Record

structure Loan where
  property : String
  items : List String
  shared : Bool := true
deriving DecidableEq, Repr, Inhabited

namespace Loan

def replace (l : Loan) (property : String) : Loan :=
  if property = l.property then { l with shared := false } else l

def addItem (l : Loan) (property item : String) : Loan :=
  if l.shared && property = l.property then { l with items := l.items ++ [item] } else l

mutual

def follow : Command → Loan → Loan
  | .set property _, l => l.replace property
  | .addItem property item, l => l.addItem property item
  | .append property _, l => l.replace property
  | .prepend property _, l => l.replace property
  | .addTag _, l => l
  | .group commands, l => followAll commands l

def followAll : List Command → Loan → Loan
  | [], l => l
  | c :: cs, l => followAll cs (follow c l)

end

end Loan

inductive Step (κ : Type) where
  | set (property : String) (value : Content)
  | run (c : Command)
  | hold (c : Command)
  | holdAll (cs : List Command)
  | runHeld
  | lend (property : String)
  | ask (question : κ)
deriving Inhabited

structure Desk where
  record : Record
  held : List Command := []
deriving Repr, Inhabited

inductive Answer (β : Type) where
  | done
  | holding (n : Nat)
  | lent (value : Option Content)
  | told (reply : β)
deriving Inhabited

namespace Step

variable {κ β : Type}

def take : Step κ → Desk → Desk
  | .set property value, d => { d with record := d.record.set property value }
  | .run c, d => { d with record := c.run d.record }
  | .hold c, d => { d with held := d.held ++ [c] }
  | .holdAll cs, d => { d with held := cs }
  | .runHeld, d => { d with record := Command.runAll d.held d.record }
  | .lend _, d => d
  | .ask _, d => d

def follow : Step κ → Desk → Loan → Loan
  | .set property _, _, l => l.replace property
  | .run c, _, l => l.follow c
  | .runHeld, d, l => l.followAll d.held
  | _, _, l => l

def settle : List (Step κ) → Desk → Loan → List String
  | [], _, l => l.items
  | step :: steps, d, l => settle steps (step.take d) (step.follow d l)

def answer (reply : Desk → κ → β) (steps : List (Step κ)) (d : Desk) : Step κ → Answer β
  | .set _ _ => .done
  | .run _ => .done
  | .hold c => .holding (d.held ++ [c]).length
  | .holdAll cs => .holding cs.length
  | .runHeld => .done
  | .lend property =>
    .lent <| (d.record.get? property).map fun
      | .text s => .text s
      | .items xs => .items (settle steps d { property, items := xs })
  | .ask question => .told (reply d question)

def runAll (reply : Desk → κ → β) : List (Step κ) → Desk → List (Answer β × Record)
  | [], _ => []
  | step :: steps, d =>
    (step.answer reply steps d, (step.take d).record) :: runAll reply steps (step.take d)

end Step
end Catalog.Record
