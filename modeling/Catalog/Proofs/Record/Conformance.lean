import Catalog.Proofs.Entity.Making
import Catalog.Proofs.Traversal.Production
/-!
This module contains what the entity of a section says of the records made there: which properties
they have, which of these are lists, and where their ids come from.
-/

namespace Catalog

open Xml (Element Attribute)

def Environment.idsOf (env : Environment) (e : Element) : Except Fault (List String) :=
  (e.attributes.filter (·.name == "id")).mapM fun a => env.value e a.value (some "id")

namespace Lexical

theorem ids_of_attributes {env : Environment} {as : List Attribute}
    {own : List (String ⊕ Command)} (h : List.Forall₂ env.GivesOwn as own) :
    (as.filter (·.name == "id")).mapM (fun a => env.value e a.value (some "id")) =
      .ok (own.filterMap Sum.getLeft?) := by
  rw [mapM_eq_ok_iff]
  induction h with
  | nil => exact .nil
  | cons hx _ ih =>
    cases hx with
    | id _ hid hvalue =>
      rw [List.filter_cons_of_pos (by simpa using hid)]
      exact .cons (Environment.value_eq_ok_iff.mpr hvalue) ih
    | command _ hid =>
      rw [List.filter_cons_of_neg (by simpa using hid)]
      exact ih

end Lexical

theorem Environment.idsOf_of_ofAttributes {env : Environment} {e : Element} {id : Option String}
    {own : List Command} (h : env.ofAttributes e = .ok (id, own)) :
    ∃ ids, env.idsOf e = .ok ids ∧ id = ids.getLast? := by
  obtain ⟨found, hfound, heq⟩ := Environment.ofAttributes_eq_ok_iff.mp h
  obtain ⟨rfl, -⟩ := Prod.mk.inj heq
  exact ⟨found.filterMap Sum.getLeft?, Lexical.ids_of_attributes hfound, rfl⟩

/--
A record that keeps to what its entity declares. Of a name that is declared several times, the
declaration that is found first counts.
-/
structure Record.Conforms (r : Record) (entity : Entity) : Prop where
  nodup : r.names.Nodup
  declared : ∀ name ∈ r.names, ∃ p ∈ entity.properties, p.name = name
  defaults : ∀ p ∈ entity.properties, p.default.isSome → p.name ∈ r.names
  texts : ∀ name p content, entity.findProperty? name = some p → p.collection = false →
    r.get? name = some content → ∃ s, content = .text s

namespace Entity

variable {entity : Entity} {commands : List Command} (id : Option String)

theorem make_conforms (h : entity.Admits commands) : (entity.make id commands).Conforms entity := by
  constructor
  · exact entity.nodup_names_make id commands
  · intro name hname
    rw [names_make, List.mem_append, Record.mem_namesWith, mem_seededNames, mem_filledNames] at hname
    obtain (⟨p, hp, rfl, -⟩ | htarget) | ⟨p, hp, rfl, -⟩ := hname
    · exact ⟨p, hp, rfl⟩
    · obtain ⟨x, hx, rfl⟩ := List.mem_map.mp htarget
      obtain ⟨p, hp, -⟩ := h x hx
      exact ⟨p, mem_properties_of_findProperty? hp⟩
    · exact ⟨p, hp, rfl⟩
  · intro p hp hdefault
    rw [names_make, List.mem_append, Record.mem_namesWith, mem_seededNames, mem_filledNames]
    by_cases htarget : p.name ∈ Command.targets commands
    · exact .inl (.inr htarget)
    · cases hcollection : p.collection with
      | true => exact .inl (.inl ⟨p, hp, rfl, hcollection, hdefault⟩)
      | false => exact .inr ⟨p, hp, rfl, hcollection, hdefault, htarget⟩
  · intro name p content hp hcollection hcontent
    obtain ⟨hvisible, rfl⟩ := mem_properties_of_findProperty? hp
    rw [make_get?_of_text entity id commands hvisible hcollection, Option.or_eq_some_iff] at hcontent
    cases content with
    | text s => exact ⟨s, rfl⟩
    | items xs =>
      obtain hedited | ⟨-, hdefault⟩ := hcontent
      · have hadd := h.not_addItem hvisible hcollection
        exact absurd hedited (Edit.applyAll_ne_items hadd (by simp) xs)
      · simp at hdefault

theorem items_iff_of_collection (h : entity.Admits commands) {p : Property}
    (hp : p ∈ entity.properties) (hcollection : p.collection = true) {content : Content}
    (hcontent : (entity.make id commands).get? p.name = some content) :
    (∃ xs, content = .items xs) ↔
      p.default.isSome ∨ ∃ item, .addItem item ∈ Command.editsOf p.name commands := by
  have hset := h.not_set hp hcollection
  rw [make_get?_of_collection entity id commands hp hcollection] at hcontent
  constructor
  · rintro ⟨xs, rfl⟩
    by_contra hneither
    rw [not_or, not_exists, Option.not_isSome_iff_eq_none] at hneither
    rw [hneither.1] at hcontent
    exact Edit.applyAll_ne_items hneither.2 (by simp) xs hcontent
  · rintro (hdefault | ⟨item, hadd⟩)
    · obtain ⟨d, hd⟩ := Option.isSome_iff_exists.mp hdefault
      obtain ⟨xs, hxs, -⟩ := Edit.holdsItems hset d
      rw [hd, Option.map_some, hxs] at hcontent
      exact ⟨xs, (Option.some.inj hcontent).symm⟩
    · obtain ⟨xs, hxs⟩ := Edit.exists_items_of_addItem hset hadd (p.default.map fun d => .items [d])
      rw [hxs] at hcontent
      exact ⟨xs, (Option.some.inj hcontent).symm⟩

end Entity

def Section.appended : Section where
  element := ⟨{ written := ⟨none, "records"⟩ }, [
    .element { written := ⟨none, "new"⟩ } [
      .element {
        written := ⟨none, "append"⟩
        attributes := [{ written := ⟨none, "Genres"⟩, value := "x" }]
      } []]]⟩
  entity := {
    own := {
      properties := [{ name := "Genres", collection := true }]
      vars := []
      vars_nodup := List.nodup_nil
    }
  }
  settings := default

namespace Session

variable {σ : Type} {sec : Section} {k : Keeper σ} {c : Collector σ} {r : Record}

theorem produces_appended : Produces .appended .shelf
    (((fresh {}).run .appended .shelf [.start]).taken .appended .shelf 0).2.collector
    { properties := [("Genres", .text "x")] } := by
  apply Produces.taken
  with_unfolding_all rfl

/--
Every record keeps to what the entity declares, and its id is the one that its own element gives it
last, whatever commands there are.
-/
theorem conforms_of_produces (h : Produces sec k c r) :
    r.Conforms sec.entity ∧
      ∃ e ids, .record e ∈ sec.stops ∧ c.current = some e ∧
        (sec.environment c.present.vars).idsOf e = .ok ids ∧ r.id = ids.getLast? := by
  obtain ⟨commands, hmade, hadmits⟩ := h.made
  obtain ⟨e, hstop, hcurrent, hmakes⟩ := hmade
  obtain ⟨own, children, hown, -, -⟩ := hmakes.sources
  obtain ⟨ids, hids, hid⟩ := Environment.idsOf_of_ofAttributes hown
  refine ⟨?_, e, ids, hstop, hcurrent, hids, hid⟩
  rw [hmakes.record]
  exact Entity.make_conforms r.id hadmits

theorem conforms_of_produces_authors :
    Section.authorsRecord.Conforms Section.authors.entity ∧
      ∃ (c : Collector Shelf) (e : Element) (ids : List String), c.current = some e ∧
        (Section.authors.environment c.present.vars).idsOf e = .ok ids ∧
        ids.getLast? = some "first" := by
  obtain ⟨c, hproduces⟩ := exists_produces_authors
  obtain ⟨hconforms, e, ids, -, hcurrent, hids, hid⟩ := conforms_of_produces hproduces
  exact ⟨hconforms, c, e, ids, hcurrent, hids, hid.symm⟩

/--
Collections are lists, but for those that commands only put texts around while there is no item yet.
-/
theorem items_iff_of_produces (h : Produces sec k c r) :
    ∃ commands, Collector.Made sec c commands r ∧
      ∀ p ∈ sec.entity.properties, p.collection = true → ∀ content, r.get? p.name = some content →
        ((∃ xs, content = .items xs) ↔
          p.default.isSome ∨ ∃ item, .addItem item ∈ Command.editsOf p.name commands) := by
  obtain ⟨commands, hmade, hadmits⟩ := h.made
  refine ⟨commands, hmade, ?_⟩
  intro p hp hcollection content hcontent
  rw [hmade.record_eq] at hcontent
  exact Entity.items_iff_of_collection r.id hadmits hp hcollection hcontent

theorem items_iff_of_produces_appended :
    ∃ (c : Collector Shelf) (commands : List Command),
      Collector.Made .appended c commands { properties := [("Genres", .text "x")] } ∧
      ∀ item, .addItem item ∉ Command.editsOf "Genres" commands := by
  obtain ⟨commands, hmade, hiff⟩ := items_iff_of_produces produces_appended
  refine ⟨_, commands, hmade, ?_⟩
  intro item hmem
  obtain ⟨xs, hxs⟩ := (hiff { name := "Genres", collection := true } (by decide) rfl (.text "x")
    rfl).mpr (.inr ⟨item, hmem⟩)
  simp at hxs

theorem text_of_appended :
    Section.appended.entity.findProperty? "Genres" =
        some { name := "Genres", collection := true } ∧
      Section.appended.records = .ok [{ properties := [("Genres", .text "x")] }] := by
  constructor
  · decide
  · with_unfolding_all rfl

end Session
end Catalog
