import Catalog.Proofs.Record.Frame
/-!
This module contains the proof that edits and tags do not get in each other's way: commands that
make the same edits and give the same tags, each of them in the same order, make the same record.
-/

namespace Catalog

def Edit.runAll : List (String × Edit) → List (String × Content) → List (String × Content)
  | [], ps => ps
  | (name, edit) :: edits, ps => runAll edits (Record.alter.go name edit.apply ps)

theorem Edit.runAll_append (first second : List (String × Edit)) (ps : List (String × Content)) :
    runAll (first ++ second) ps = runAll second (runAll first ps) := by
  induction first generalizing ps with
  | nil => rfl
  | cons x first ih => exact ih _

theorem Record.properties_addTag (r : Record) (tag : String) :
    (r.addTag tag).properties = r.properties := by
  unfold addTag
  split
  · rfl
  · rfl

namespace Command

mutual

theorem properties_run (c : Command) (r : Record) :
    (c.run r).properties = Edit.runAll c.edits r.properties := by
  cases c with
  | set property value => rfl
  | addItem property item => rfl
  | append property text => rfl
  | prepend property text => rfl
  | addTag tag => exact r.properties_addTag tag
  | group cs => exact properties_runAll cs r

theorem properties_runAll (cs : List Command) (r : Record) :
    (runAll cs r).properties = Edit.runAll (editsAll cs) r.properties := by
  cases cs with
  | nil => rfl
  | cons c cs =>
    rw [runAll, properties_runAll, properties_run, editsAll, Edit.runAll_append]

end

theorem runAll_congr {cs cs' : List Command} (hedits : editsAll cs' = editsAll cs)
    (htags : tagsAll cs' = tagsAll cs) (r : Record) : runAll cs' r = runAll cs r := by
  have hid : (runAll cs' r).id = (runAll cs r).id := by
    rw [runAll_id, runAll_id]
  have hproperties : (runAll cs' r).properties = (runAll cs r).properties := by
    rw [properties_runAll, properties_runAll, hedits]
  have hruntags : (runAll cs' r).tags = (runAll cs r).tags := by
    rw [tags_runAll, tags_runAll, htags]
  have heta (r : Record) : r = ⟨r.id, r.properties, r.tags⟩ := rfl
  rw [heta (runAll cs' r), hid, hproperties, hruntags]

end Command

theorem Entity.make_congr (entity : Entity) (id : Option String) {commands commands' : List Command}
    (hedits : Command.editsAll commands' = Command.editsAll commands)
    (htags : Command.tagsAll commands' = Command.tagsAll commands) :
    entity.make id commands' = entity.make id commands := by
  rw [make_eq, make_eq, Command.runAll_congr hedits htags]

end Catalog
