import Catalog.Proofs.Entity.Making
import Catalog.Proofs.Traversal.Production
/-!
This module contains what the properties of a record hold in closed form, and the order in which the
record has them, for every record that is made in a session.
-/

namespace Catalog

/--
A record that holds what commands come to: in each property with a single text, in each list that
starts with a default, and in the order of its properties.
-/
structure Record.Holds (r : Record) (entity : Entity) (commands : List Command) : Prop where
  texts : ∀ p ∈ entity.properties, p.collection = false →
    Edit.HoldsText (Command.editsOf p.name commands) p.default (r.get? p.name)
  items : ∀ p ∈ entity.properties, p.collection = true → ∀ d, p.default = some d →
    ∃ xs, r.get? p.name = some (.items xs) ∧
      Edit.HoldsItems (Command.editsOf p.name commands) d xs
  order : r.names = entity.seededNames ++
    ((Command.targets commands).filter (· ∉ entity.seededNames)).eraseDups ++
    entity.filledNames (Command.targets commands)

theorem Entity.make_holds {entity : Entity} {commands : List Command} (id : Option String)
    (h : entity.Admits commands) : (entity.make id commands).Holds entity commands := by
  constructor
  · intro p hp hcollection
    rw [make_get?_of_text entity id commands hp hcollection]
    exact Edit.holdsText (h.not_addItem hp hcollection) p.default
  · intro p hp hcollection d hd
    rw [make_get?_of_collection entity id commands hp hcollection, hd]
    exact Edit.holdsItems (h.not_set hp hcollection) d
  · rw [names_make, Record.namesWith]

namespace Session

variable {σ : Type} {sec : Section} {k : Keeper σ} {c : Collector σ} {r : Record}

/--
Every record holds what its commands come to in closed form.
-/
theorem holds_of_produces (h : Produces sec k c r) :
    ∃ commands, Collector.Made sec c commands r ∧ r.Holds sec.entity commands := by
  obtain ⟨commands, hmade, hadmits⟩ := h.made
  refine ⟨commands, hmade, ?_⟩
  rw [hmade.record_eq]
  exact Entity.make_holds r.id hadmits

theorem holds_of_produces_authors :
    ∃ (c : Collector Shelf) (commands : List Command),
      Collector.Made .authors c commands Section.authorsRecord ∧
        Section.authorsRecord.Holds Section.authors.entity commands := by
  obtain ⟨c, hproduces⟩ := exists_produces_authors
  obtain ⟨commands, hmade, hholds⟩ := holds_of_produces hproduces
  exact ⟨c, commands, hmade, hholds⟩

end Session
end Catalog
