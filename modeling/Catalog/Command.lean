import Catalog.Record.Basic
/-!
This module contains the commands that change a record while it is made. A group is run as its
commands one after the other.
-/

namespace Catalog

inductive Command where
  | set (property value : String)
  | addItem (property value : String)
  | append (property value : String)
  | prepend (property value : String)
  | addTag (tag : String)
  | group (commands : List Command)
deriving BEq, Repr, Inhabited

namespace Command

mutual

def run : Command → Record → Record
  | .set property value, r => r.set property (.text value)
  | .addItem property value, r => r.addItem property value
  | .append property value, r => r.append property value
  | .prepend property value, r => r.prepend property value
  | .addTag tag, r => r.addTag tag
  | .group commands, r => runAll commands r

def runAll : List Command → Record → Record
  | [], r => r
  | c :: cs, r => runAll cs (c.run r)

end

theorem runAll_append (cs ds : List Command) (r : Record) :
    runAll (cs ++ ds) r = runAll ds (runAll cs r) := by
  induction cs generalizing r with
  | nil => simp [runAll]
  | cons c cs ih => simp [runAll, ih]

def join : List Command → Option Command
  | [] => none
  | [c] => some c
  | cs => some (.group cs)

end Command
end Catalog
