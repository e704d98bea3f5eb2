import Catalog.Proofs.Traversal.History
/-!
This module contains the proof that a reader makes the records that any collector makes which takes
all of them, up to the first one whose id an earlier one has.
-/

namespace Catalog

open Xml (Element)

variable {σ : Type}

theorem exists_first_repeat {α β : Type} (f : α → Option β) (xs : List α)
    (h : ¬ (xs.filterMap f).Nodup) :
    ∃ before x after y, xs = before ++ x :: after ∧ (before.filterMap f).Nodup ∧ f x = some y ∧
      y ∈ before.filterMap f := by
  induction xs using List.reverseRecOn with
  | nil => simp at h
  | append_singleton xs x ih =>
    by_cases hnodup : (xs.filterMap f).Nodup
    · cases hx : f x with
      | none => simp [List.filterMap_append, hx, hnodup] at h
      | some y =>
        refine ⟨xs, x, [], y, rfl, hnodup, hx, ?_⟩
        by_contra hy
        apply h
        rw [List.filterMap_append, List.filterMap_cons_some hx, List.filterMap_nil,
          ← List.concat_eq_append]
        exact List.Nodup.concat hy hnodup
    · obtain ⟨before, x', after, y, rfl, hrest⟩ := ih hnodup
      exact ⟨before, x', after ++ [x], y, by simp, hrest⟩

def Section.twins : Section where
  element := ⟨{ written := ⟨none, "records"⟩ }, [
    .element { written := ⟨none, "new"⟩, attributes := [{ written := ⟨none, "id"⟩, value := "" }] } [],
    .element { written := ⟨none, "new"⟩ } [],
    .element { written := ⟨none, "new"⟩ } [],
    .element { written := ⟨none, "new"⟩, attributes := [{ written := ⟨none, "id"⟩, value := "" }] } []]⟩
  entity := default
  settings := default

theorem Section.report_of_new (sec : Section) {e : Element} (h : e.name = "new") (id : String) :
    sec.report ⟨.repeatedId id, e, none⟩ = {
      problem := .repeatedId id
      place := some {
        elementName := some "new"
        attributeName := none
        line := some e.tag.line
        document := sec.document
        snippet := some (Place.snippetOf e)
      }
      level := sec.settings.level
    } := by
  have hname : e.comparableName = .ok "new" := by
    unfold Element.comparableName
    rw [h]
    rfl
  simp only [report, Fault.report, Place.ofElement, hname]
  rfl

namespace Collector

theorem trace_currents (sec : Section) (k : Keeper σ) (stops : List Stop)
    (opened : List (Option OpenScope)) (c : Collector σ) :
    (trace sec k stops opened c).rests.map (·.collector.current) =
      ((stops.filterMap Stop.record?).take (trace sec k stops opened c).rests.length).map some := by
  induction stops generalizing opened c with
  | nil => rfl
  | cons stop stops ih =>
    cases hstep : c.step sec k opened stop with
    | moved c' opened' =>
      rw [trace_of_moved hstep, ih]
      cases stop with
      | record e => exact absurd hstep (step_record_ne_moved e)
      | enter => rfl
      | reach => rfl
      | leave => rfl
      | unknown => rfl
    | yielded r c' =>
      obtain ⟨e, kept, rfl, -, rfl⟩ := step_yielded hstep
      rw [trace_of_yielded hstep]
      simp only [Trace.after, List.cons_append, List.nil_append, List.map_cons, List.length_cons,
        ih]
      rfl
    | failed f c' =>
      rw [trace_of_failed hstep]
      rfl

section

variable {k : Keeper σ}

theorem harvest_of_accepting (hk : k.Accepting) (sec : Section) (c : Collector σ) :
    ∃ kept, harvest sec k c = ⟨(Lexical.read sec (some sec.settings.maxDepth)).visits,
      (Lexical.read sec (some sec.settings.maxDepth)).fault, kept⟩ := by
  exact Reading.harvest_of_accepting hk _ _

theorem elements_read (sec : Section) :
    (Lexical.read sec (some sec.settings.maxDepth)).visits.map (·.element) <+:
      sec.stops.filterMap Stop.record? := by
  let c : Collector (List Call) := { kept := [] }
  obtain ⟨kept, hharvest⟩ := harvest_of_accepting Keeper.journal_accepting sec c
  have hshows := course_shows sec .journal c
  rw [hharvest] at hshows
  have hcurrents := Rest.currents_of_shows hshows
  unfold course at hcurrents
  rw [trace_currents] at hcurrents
  rw [← (List.map_inj_right fun _ _ => Option.some.inj).mp hcurrents]
  apply List.take_prefix

theorem readRecords_of_harvest {reader : Collector Shelf} {sec : Section} {visits : List Visit}
    {fault : Option Fault} {s : Shelf} (h : harvest sec .shelf reader = ⟨visits, fault, s⟩) :
    (reader.readRecords sec).2.kept.records = visits.map (·.record) ∧
      (reader.readRecords sec).1 =
        (fault.map sec.report).elim (.ok (visits.map (·.record))) .error := by
  have hrecords : (reader.drain sec .shelf .fresh).1 = visits.map (·.record) := by
    rw [drain_fresh]
    simp only [course_records, h]
  have herror : (reader.drain sec .shelf .fresh).2.1 = fault.map sec.report := by
    rw [drain_fresh]
    simp only [course_error, h]
  -- What is on the shelf at the end does not depend on what the reader did before.
  have hkept : (reader.drain sec .shelf .fresh).2.2.kept.records = visits.map (·.record) := by
    obtain ⟨hsame, -, hfinal⟩ :=
      drain_fresh_alike Keeper.shelf_bisimulation sec reader { kept := {} }
    rw [hfinal, (shelf_of_taken (taken_nothing sec .shelf {})).2.2, List.nil_append, ← hsame,
      hrecords]
  rw [readRecords_eq]
  refine ⟨hkept, ?_⟩
  rw [herror, hkept]

theorem readRecords_of_fault {reader : Collector Shelf} {sec : Section} {f : Fault}
    (h : (harvest sec .shelf reader).fault = some f) :
    (reader.readRecords sec).1 = .error (sec.report f) := by
  cases hharvest : harvest sec .shelf reader with
  | mk visits fault s =>
    rw [hharvest] at h
    obtain rfl : fault = some f := h
    exact (readRecords_of_harvest hharvest).2

/--
Compare a reader with any collector that takes every record of the section. If no two of the records
have one id, the reader makes all of them and ends as the collector does. Otherwise it makes those
before the first one whose id an earlier one has, and ends with an error at the element of this one.
-/
theorem readRecords_eq_until_repeat (sec : Section) (hk : k.Accepting) (c : Collector σ)
    (reader : Collector Shelf) :
    let whole := c.drain sec k .fresh
    let read := reader.readRecords sec
    let ids : List Record → List String := List.filterMap (·.id)
    ((ids whole.1).Nodup →
      read.2.kept.records = whole.1 ∧ read.1 = whole.2.1.elim (.ok whole.1) .error) ∧
    (¬ (ids whole.1).Nodup →
      ∃ (before : List Record) (r : Record) (after : List Record) (id : String) (e : Element),
        whole.1 = before ++ r :: after ∧ (ids before).Nodup ∧ r.id = some id ∧ id ∈ ids before ∧
          (sec.stops.filterMap Stop.record?)[before.length]? = some e ∧
          read.2.kept.records = before ∧
          read.1 = .error {
            problem := .repeatedId id
            place := some {
              elementName := some "new"
              attributeName := none
              line := some e.tag.line
              document := sec.document
              snippet := some (Place.snippetOf e)
            }
            level := sec.settings.level
          }) := by
  intro whole read ids
  obtain ⟨kept, hharvest⟩ := harvest_of_accepting hk sec c
  have helements := elements_read sec
  generalize hvisits : (Lexical.read sec (some sec.settings.maxDepth)).visits = visits
    at hharvest helements
  generalize hfault : (Lexical.read sec (some sec.settings.maxDepth)).fault = fault at hharvest
  have hreader : harvest sec .shelf reader = Keeper.shelf.harvest fault visits {} := by
    rw [← hvisits, ← hfault]
    rfl
  have hrecords : whole.1 = visits.map (·.record) := by
    simp only [whole, drain_fresh, course_records, hharvest]
  have herror : whole.2.1 = fault.map sec.report := by
    simp only [whole, drain_fresh, course_error, hharvest]
  have hids (vs : List Visit) : ids (vs.map (·.record)) = Visit.ids vs := by
    simp only [ids, Visit.ids, List.filterMap_map]
    rfl
  rw [herror, hrecords, hids]
  constructor
  · intro hnodup
    obtain ⟨s, hshelf⟩ := Keeper.harvest_shelf_of_nodup hnodup fault
    exact readRecords_of_harvest (hreader.trans hshelf)
  · intro hrepeat
    obtain ⟨before, v, after, id, rfl, hbefore, hid, hmem⟩ :=
      exists_first_repeat (fun v : Visit => v.record.id) visits hrepeat
    obtain ⟨s, hshelf⟩ := Keeper.harvest_shelf_of_repeat hbefore hid hmem after fault
    obtain ⟨hkept, hread⟩ := readRecords_of_harvest (hreader.trans hshelf)
    have helement : (sec.stops.filterMap Stop.record?)[before.length]? = some v.element := by
      obtain ⟨rest, hrest⟩ := helements
      rw [← hrest]
      simp
    have hnew : v.element.name = "new" :=
      Stop.name_of_mem_ofNodes (Stop.mem_of_mem_records (List.mem_of_getElem? helement))
    refine ⟨before.map (·.record), v.record, after.map (·.record), id, v.element, ?_, ?_, hid, ?_,
      ?_, hkept, ?_⟩
    · rw [List.map_append, List.map_cons]
    · rw [hids]
      exact hbefore
    · rw [hids]
      exact hmem
    · rw [List.length_map]
      exact helement
    · rw [← sec.report_of_new hnew]
      exact hread

theorem readRecords_eq_until_repeat_twins :
    Keeper.journal.Accepting ∧
      ∃ (before : List Record) (r : Record) (after : List Record) (id : String),
        (Collector.drain { kept := [] } .twins .journal .fresh).1 = before ++ r :: after ∧
          r.id = some id ∧ id ∈ before.filterMap (·.id) ∧
          (Collector.readRecords { kept := {} } .twins).2.kept.records = before := by
  have hrepeat : ¬ ((Collector.drain { kept := [] } .twins .journal .fresh).1.filterMap
      (·.id)).Nodup := by
    have hrecords : (Collector.drain { kept := [] } .twins .journal .fresh).1 =
        [{ id := some "" }, {}, {}, { id := some "" }] := by
      cbv
    rw [hrecords]
    decide
  obtain ⟨before, r, after, id, e, hwhole, -, hid, hmem, -, hkept, -⟩ :=
    (readRecords_eq_until_repeat .twins Keeper.journal_accepting { kept := [] }
      { kept := {} }).2 hrepeat
  exact ⟨Keeper.journal_accepting, before, r, after, id, hwhole, hid, hmem, hkept⟩

end

end Collector
end Catalog
