import Catalog.Document.Library
import Catalog.Proofs.Document.Loading
import Catalog.Proofs.Lexical.Visits
/-!
This module contains the proof that reading an entity makes the records of the last records section
of its element, and those of no other one.
-/

namespace Catalog

open Xml (Element Node)

namespace Document

def news (e : Element) : List Element := (sections e).flatMap fun s => Node.news s.children

def lastNews (e : Element) : List Element :=
  (sections e).getLast?.toList.flatMap fun s => Node.news s.children

def earlierNews (e : Element) : List Element :=
  (sections e).dropLast.flatMap fun s => Node.news s.children

theorem news_eq (e : Element) : news e = earlierNews e ++ lastNews e := by
  unfold news earlierNews lastNews
  rw [← List.flatMap_append]
  congr 1
  cases sections e using List.reverseRecOn with
  | nil => rfl
  | append_singleton before last => simp

theorem Entries.exists_of_mem {es : List Element} {entries : List Entry} (h : Entries es entries)
    {e : Element} (he : e ∈ es) : ∃ entry ∈ entries, ∃ earlier, entry.Of earlier e := by
  induction h with
  | nil => simp at he
  | @snoc es entries last entry h hentry ih =>
    obtain he | he := List.mem_append.mp he
    · obtain ⟨found, hfound, hof⟩ := ih he
      exact ⟨found, List.mem_append_left _ hfound, hof⟩
    · obtain rfl := List.mem_singleton.mp he
      exact ⟨entry, List.mem_append_right _ List.mem_cons_self, entries, hentry⟩

theorem exists_find?_of_load {source : Option String} {root e : Element} {d : Document}
    (h : load source (.ok root) = .ok d) (he : e ∈ entityElements root) {name : String}
    (hname : e.value? "name" = some name) :
    ∃ entry, d.find? name = some entry ∧ entry.records = (sections e).getLast? := by
  obtain ⟨-, hreads⟩ := reads_of_load source h
  obtain ⟨entry, hentry, earlier, hof⟩ := hreads.entries.exists_of_mem he
  obtain rfl := Option.some.inj (hof.name.symm.trans hname)
  refine ⟨entry, ?_, hof.records⟩
  exact (find?_name_eq_some_iff d.entries_nodup).mpr ⟨hentry, rfl⟩

end Document

namespace Library

open Document (entityElements sections news lastNews earlierNews)

theorem read_of_find? (lib : Library) {name : String} {entry : Document.Entry}
    (h : lib.document.find? name = some entry) :
    lib.read name =
      entry.records.elim (.ok []) fun element =>
        (Section.records ⟨element, entry.entity, lib.settings, lib.document.source⟩).mapError
          .element := by
  unfold read section? Document.get
  simp only [h]
  cases entry.records with
  | none => rfl
  | some element => rfl

/--
Reading an entity of a loaded document reads the last records section of the entity's element. It
makes one record of each element that records are made of there, in document order. These are all
such elements just if there are none in the records sections in front of it.
-/
theorem read_last_section {source : Option String} {root e : Element} {d : Document}
    (h : Document.load source (.ok root) = .ok d) (he : e ∈ entityElements root) {name : String}
    (hname : e.value? "name" = some name) (settings : Settings) :
    let lib : Library := { document := d, settings }
    news e = earlierNews e ++ lastNews e ∧
    ∃ entry, d.find? name = some entry ∧
      lib.read name = ((sections e).getLast?.elim (.ok []) fun s =>
        (Section.records ⟨s, entry.entity, settings, d.source⟩).mapError .element) ∧
      ∀ rs, lib.read name = .ok rs →
        List.Forall₂ (fun r new => ∃ s ∈ (sections e).getLast?, ∃ around,
          Lexical.record ⟨s, entry.entity, settings, d.source⟩ around new = .ok r) rs (lastNews e) ∧
        rs.length = (lastNews e).length ∧
        (rs.length = (news e).length ↔ earlierNews e = []) := by
  intro lib
  obtain ⟨entry, hfind, hrecords⟩ := Document.exists_find?_of_load h he hname
  have hlib := lib.read_of_find? hfind
  rw [hrecords] at hlib
  refine ⟨Document.news_eq e, entry, hfind, hlib, ?_⟩
  intro rs hread
  have hmade : List.Forall₂ (fun r new => ∃ s ∈ (sections e).getLast?, ∃ around,
      Lexical.record ⟨s, entry.entity, settings, d.source⟩ around new = .ok r) rs
      (lastNews e) := by
    rw [hlib] at hread
    unfold lastNews
    cases hlast : (sections e).getLast? with
    | none =>
      rw [hlast] at hread
      obtain rfl : [] = rs := Except.ok.inj hread
      exact .nil
    | some s =>
      rw [hlast] at hread
      have hmade := Collector.made_of_readRecords (mapError_eq_ok_iff.mp hread)
      rw [Option.toList_some, List.flatMap_singleton]
      apply hmade.imp
      intro r new hr
      exact ⟨s, rfl, hr⟩
  have hlength := hmade.length_eq
  refine ⟨hmade, hlength, ?_⟩
  rw [hlength, Document.news_eq, List.length_append, ← List.length_eq_zero_iff]
  omega

end Library

def Document.recorded (sections : List (List Node)) : Element where
  tag := {
    written := ⟨none, "entity"⟩
    attributes := [{ written := ⟨none, "name"⟩, value := "A" }]
  }
  children := sections.map (.element { written := ⟨none, "records"⟩ })

def Document.single (e : Element) : Element :=
  ⟨{ written := ⟨none, "document"⟩ }, [
    .element { written := ⟨none, "entities"⟩ } [.element e.tag e.children]]⟩

namespace Library

open Document (entityElements sections news lastNews earlierNews recorded single)

theorem read_last_section_recorded :
    let e := recorded [[], [.new "1", .new "2"]]
    ∃ d, Document.load none (.ok (single e)) = .ok d ∧ e ∈ entityElements (single e) ∧
      e.value? "name" = some "A" ∧
      Library.read { document := d } "A" = .ok [{ id := some "1" }, { id := some "2" }] ∧
      2 = (news e).length := by
  intro e
  have he : e ∈ entityElements (single e) := List.mem_cons_self
  have hload : ∃ d, Document.load none
      (.ok (single (recorded [[], [.new "1", .new "2"]]))) = .ok d := ⟨_, rfl⟩
  obtain ⟨d, hd⟩ := hload
  have hread : Library.read { document := d } "A" =
      .ok [{ id := some "1" }, { id := some "2" }] := by
    obtain rfl := Except.ok.inj hd
    cbv
  obtain ⟨-, entry, -, -, hreads⟩ := read_last_section hd he rfl {}
  obtain ⟨-, -, hall⟩ := hreads _ hread
  exact ⟨d, hd, he, rfl, hread, hall.mpr rfl⟩

theorem read_two_sections :
    let e := recorded [[.new "1"], [.new "2"]]
    ∃ d, Document.load none (.ok (single e)) = .ok d ∧ e ∈ entityElements (single e) ∧
      e.value? "name" = some "A" ∧ (news e).length = 2 ∧
      Library.read { document := d } "A" = .ok [{ id := some "2" }] := by
  refine ⟨_, rfl, List.mem_cons_self, rfl, rfl, ?_⟩
  cbv

end Library
end Catalog
