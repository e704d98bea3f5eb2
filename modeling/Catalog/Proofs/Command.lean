import Catalog.Command
/-!
This module contains what running commands leaves alone, and that commands which are joined into one
do what they do one after the other.
-/

namespace Catalog
namespace Command

mutual

theorem run_id (c : Command) (r : Record) : (c.run r).id = r.id := by
  cases c with
  | set => rfl
  | addItem => rfl
  | append => rfl
  | prepend => rfl
  | addTag =>
    simp only [run, Record.addTag]
    split
    · rfl
    · rfl
  | group cs =>
    unfold run
    apply runAll_id

theorem runAll_id (cs : List Command) (r : Record) : (runAll cs r).id = r.id := by
  cases cs with
  | nil => rfl
  | cons c cs =>
    unfold runAll
    rw [runAll_id, run_id]

end

theorem exists_join (c : Command) (cs : List Command) : ∃ entry, join (c :: cs) = some entry := by
  cases cs with
  | nil => exact ⟨c, rfl⟩
  | cons d cs => exact ⟨.group (c :: d :: cs), rfl⟩

theorem runAll_join (cs : List Command) (r : Record) :
    runAll (join cs).toList r = runAll cs r := by
  cases cs with
  | nil => rfl
  | cons c cs =>
    cases cs with
    | nil => rfl
    | cons d cs => simp [join, runAll, run]

theorem runAll_filterMap_join (css : List (List Command)) (r : Record) :
    runAll (css.filterMap join) r = runAll css.flatten r := by
  induction css generalizing r with
  | nil => rfl
  | cons cs css ih =>
    rw [List.flatten_cons, runAll_append, ← ih, ← runAll_join cs, ← runAll_append]
    congr 1
    cases h : join cs with
    | none => simp [h]
    | some c => simp [h]

end Command

end Catalog
