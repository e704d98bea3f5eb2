import Catalog.Proofs.Tagging.Lineage
import Catalog.Proofs.Traversal.Alone
import Catalog.Proofs.Traversal.Production
import Mathlib.Tactic.FinCases
/-!
This module contains what the tags of a record are: those that its own element gives it, and then
those of the elements around it. Of a tag that comes up several times the first place counts.
-/

namespace Catalog

open Xml (Element Node)

/--
A record whose tags are its own ones and then those that come from outside, each of them once.
-/
structure Record.Collects (r : Record) (own outer : List String) : Prop where
  tags : r.tags = (own ++ outer).eraseDups
  nodup : r.tags.Nodup
  own_isPrefix : own.eraseDups <+: r.tags
  mem : ∀ tag, tag ∈ r.tags ↔ tag ∈ own ∨ tag ∈ outer

theorem Entity.collects_make (entity : Entity) (id : Option String) (own outer : List Command) :
    (entity.make id (own ++ outer)).Collects (Command.tagsAll own) (Command.tagsAll outer) := by
  have hmake := entity.tags_make id (own ++ outer)
  have htags : (entity.make id (own ++ outer)).tags =
      (Command.tagsAll own ++ Command.tagsAll outer).eraseDups := by
    rw [hmake, Record.namesWith_nil_left, Command.tagsAll_append]
  constructor
  · exact htags
  · rw [hmake]
    exact Record.nodup_namesWith List.nodup_nil _
  · rw [htags, List.eraseDups_append]
    apply List.prefix_append
  · intro tag
    rw [htags, List.mem_eraseDups, List.mem_append]

/--
A record of the element at the end of a lineage. Its own tags and those of the elements around it
are the values of their attributes, each read where the attribute stands.
-/
def Record.TaggedAt (sec : Section) (l : Lineage) (r : Record) : Prop :=
  ∃ around own outer, Lexical.Encloses sec {} l.outer around outer ∧
    (around.environment sec).OwnTags l.element own ∧ r.Collects own outer

namespace Lexical

variable {sec : Section}

theorem taggedAt_of_places {l : Lineage} {v : Visit} (h : Places sec {} l v) :
    v.record.TaggedAt sec l := by
  obtain ⟨outer, hencloses, houter⟩ := h.encloses
  obtain rfl : Command.tagsAll v.around.commands.flatten = outer := houter
  have hrecord := h.record
  rw [record_eq, h.element] at hrecord
  obtain ⟨⟨id, own⟩, hown, hrecord⟩ := bind_eq_ok_iff.mp hrecord
  obtain ⟨children, hchildren, hrecord⟩ := bind_eq_ok_iff.mp hrecord
  obtain hmake := Except.ok.inj hrecord
  refine ⟨v.around, _, _, hencloses, Environment.ownTags_of_sources hown hchildren, ?_⟩
  rw [← hmake]
  apply Entity.collects_make

theorem taggedAt_of_isPrefix {rs : List Record} {limit : Option Nat}
    (h : rs <+: (read sec limit).records) :
    ∃ ls, ls <+: Node.lineagesAll sec.element.children ∧
      List.Forall₂ (Record.TaggedAt sec) ls rs := by
  obtain ⟨first, rest, hlineages, hplaces, -⟩ :=
    covers_ofNodes sec limit 1 {} sec.element.children
  have htagged : List.Forall₂ (Record.TaggedAt sec) first (read sec limit).records := by
    rw [Reading.records, List.forall₂_map_right_iff]
    exact hplaces.imp fun l v => taggedAt_of_places
  obtain ⟨more, hmore⟩ := h
  rw [← hmore] at htagged
  refine ⟨first.take rs.length, ?_, List.forall₂_take_append first rs more htagged⟩
  rw [hlineages]
  exact (List.take_prefix _ _).trans (List.prefix_append _ _)

end Lexical

def Section.paired : Section where
  element := ⟨{ written := ⟨none, "records"⟩ }, [
    .element {
      written := ⟨none, "tag"⟩
      attributes := [{ written := ⟨none, "value"⟩, value := "x" }]
    } [
      .element { written := ⟨none, "new"⟩ } [],
      .element { written := ⟨none, "new"⟩ } []]]⟩
  entity := Titles.entity
  settings := default

def Section.nested : Section where
  element := ⟨{ written := ⟨none, "records"⟩ }, [
    .element {
      written := ⟨none, "tag"⟩
      attributes := [{ written := ⟨none, "value"⟩, value := "a" }]
    } [
      .element {
        written := ⟨none, "set"⟩
        attributes := [{ written := ⟨none, "tag"⟩, value := "b" }]
      } [
        .element {
          written := ⟨none, "new"⟩
          attributes := [{ written := ⟨none, "tag"⟩, value := "c" }]
        } [
          .element {
            written := ⟨none, "tag"⟩
            attributes := [{ written := ⟨none, "value"⟩, value := "b" }]
          } []]]]]⟩
  entity := Titles.entity
  settings := default

namespace Session

variable {σ : Type}

/--
Whatever goes on in a session, a record has the tags of its element and then those of the commands
that are in force when it is made. If it is made alone, these are the commands of the elements
around it.
-/
theorem tags_of_produces (sec : Section) (k : Keeper σ) :
    (∀ c r, Produces sec k c r → ∃ e own, .record e ∈ sec.stops ∧ c.current = some e ∧
      (sec.environment c.present.vars).OwnTags e own ∧
      r.Collects own (Command.tagsAll c.present.commands.outermostFirst)) ∧
    ∀ rs, MakesAlone sec k rs → ∃ ls, ls <+: Node.lineagesAll sec.element.children ∧
      List.Forall₂ (Record.TaggedAt sec) ls rs := by
  constructor
  · intro c r h
    obtain ⟨commands, ⟨e, hstop, hcurrent, hmakes⟩, -⟩ := h.made
    obtain ⟨own, children, hown, hchildren, rfl⟩ := hmakes.sources
    refine ⟨e, _, hstop, hcurrent, Environment.ownTags_of_sources hown hchildren, ?_⟩
    rw [hmakes.record]
    apply Entity.collects_make
  · intro rs h
    exact Lexical.taggedAt_of_isPrefix h.isPrefix

theorem tags_of_produces_nested :
    MakesAlone .nested .shelf [{ tags := ["c", "b", "a"] }] ∧
      ∃ l, Node.lineagesAll Section.nested.element.children = [l] ∧
        Record.TaggedAt .nested l { tags := ["c", "b", "a"] } := by
  have hmakes : MakesAlone .nested .shelf [{ tags := ["c", "b", "a"] }] := by
    apply MakesAlone.taken {} [.start] 0 [.take 0]
    · rfl
    · decide
    · with_unfolding_all rfl
  obtain ⟨ls, hls, htagged⟩ := (tags_of_produces .nested .shelf).2 _ hmakes
  cases htagged with
  | @cons l _ _ _ htagged hnil =>
    cases hnil
    exact ⟨hmakes, l, (hls.eq_of_length rfl).symm, htagged⟩

theorem produces_untagged :
    ¬ ∀ c r, Produces .paired .shelf c r →
      ∃ l ∈ Node.lineagesAll Section.paired.element.children, r.TaggedAt .paired l := by
  intro h
  have htaken : (((fresh {}).run .paired .shelf
      [.start, .start, .take 0, .take 1, .take 1, .take 1]).taken .paired .shelf 0).1 =
        .record {} := by
    with_unfolding_all rfl
  obtain ⟨l, hl, around, own, outer, hencloses, -, hcollects⟩ := h _ _ (.taken _ _ _ htaken)
  have houter : l.outer = [Section.paired.element.elements.headD default] := by
    fin_cases hl
    · rfl
    · rfl
  rw [houter] at hencloses
  cases hencloses with
  | cons henter htags hrest =>
    cases htags with
    | @cons _ tag _ _ hvalue hnil =>
      have hmem : tag ∈ ({} : Record).tags := (hcollects.mem tag).mpr (.inr (by simp))
      simp at hmem

end Session
end Catalog
