import Catalog.Proofs.Entity.Defaults
/-!
This module contains the proof that the visible properties of an entity are those that a search for
their names finds. None of them has a reserved name.
-/

namespace Catalog

theorem isReserved_eq_false_iff {name : String} :
    isReserved name = false ↔ name.toLower ∉ ["id", "tag"] := by
  have hword (word : String) : Text.isWord word name.toList = true ↔ name.toLower = word := by
    have hlower : name.toLower = name.map Char.toLower := rfl
    rw [Text.isWord, beq_iff_eq, hlower, ← String.toList_inj, String.toList_map]
  rw [Bool.eq_false_iff]
  apply not_congr
  simp [isReserved, reservedNames, hword]

namespace Layer

theorem name_of_findProperty? {l : Layer} {name : String} {p : Property}
    (h : l.findProperty? name = some p) : p.name = name := by
  exact ((find?_name_eq_some_iff l.properties_nodup).mp h).2

end Layer

namespace Entity

theorem mem_visibleProperties_iff (ls : List Layer) (p : Property) :
    p ∈ visibleProperties ls ↔ ls.findSome? (·.findProperty? p.name) = some p := by
  rw [visibleProperties_eq]
  exact Layer.mem_visible_iff Layer.properties_nodup ls p

theorem mem_properties_iff {entity : Entity} {p : Property} :
    p ∈ entity.properties ↔ entity.findProperty? p.name = some p := by
  exact mem_visibleProperties_iff entity.layers p

theorem name_of_findProperty? {entity : Entity} {name : String} {p : Property}
    (h : entity.findProperty? name = some p) : p.name = name := by
  obtain ⟨l, -, hl⟩ := List.exists_of_findSome?_eq_some h
  exact Layer.name_of_findProperty? hl

theorem findProperty?_of_toLower {entity : Entity} {name : String}
    (h : name.toLower = "id" ∨ name.toLower = "tag") : entity.findProperty? name = none := by
  rw [Option.eq_none_iff_forall_ne_some]
  intro p hp
  obtain rfl := name_of_findProperty? hp
  have hname := isReserved_eq_false_iff.mp p.unreserved
  simp only [List.mem_cons, List.not_mem_nil, or_false] at hname
  exact hname h

theorem findProperty?_tag (entity : Entity) : entity.findProperty? "tag" = none := by
  apply findProperty?_of_toLower
  right
  with_unfolding_all rfl

theorem mem_properties_of_findProperty? {entity : Entity} {name : String} {p : Property}
    (h : entity.findProperty? name = some p) : p ∈ entity.properties ∧ p.name = name := by
  have hname := name_of_findProperty? h
  rw [← hname] at h
  exact ⟨mem_properties_iff.mpr h, hname⟩

end Entity
end Catalog
