import Catalog.Proofs.Lexical.Frame
import Catalog.Proofs.Rewriting.Site
/-!
This module contains the proof that an element with commands which is put around other elements
frames their records and leaves all other records as they are.
-/

namespace Catalog

open Xml (Element Node)

namespace Visit

theorem ids_append (visits visits' : List Visit) :
    ids (visits ++ visits') = ids visits ++ ids visits' := by
  exact List.filterMap_append

theorem ids_of_framed {cs : List Command} {visits visits' : List Visit}
    (h : List.Forall₂ (Framed cs) visits visits') : ids visits' = ids visits := by
  induction h with
  | nil => rfl
  | cons hframed _ ih =>
    unfold ids at ih ⊢
    rw [List.filterMap_cons, List.filterMap_cons, hframed.2.id, ih]

end Visit

theorem Reading.fault_of_three {first middle last : Reading}
    (h : ((first.followedBy middle).followedBy last).fault = none) :
    first.fault = none ∧ middle.fault = none ∧ last.fault = none := by
  obtain ⟨h, hlast⟩ := fault_of_followedBy h
  obtain ⟨hfirst, hmiddle⟩ := fault_of_followedBy h
  exact ⟨hfirst, hmiddle, hlast⟩

theorem Reading.three_of_no_fault {first middle last : Reading} (hfirst : first.fault = none)
    (hmiddle : middle.fault = none) (hlast : last.fault = none) :
    ((first.followedBy middle).followedBy last).fault = none ∧
      ((first.followedBy middle).followedBy last).visits =
        first.visits ++ middle.visits ++ last.visits := by
  have hboth : (first.followedBy middle).fault = none := by
    unfold followedBy
    rw [hfirst]
    exact hmiddle
  refine ⟨?_, ?_⟩
  · rw [followedBy, hboth]
    exact hlast
  · rw [followedBy_visits hboth, followedBy_visits hfirst]

namespace Collector

/--
In a section that is read without an error, put an element with commands around some of the elements
that stand side by side at a place that a walk comes to. If its commands can be made out there, and
the section does not become too deep by it, it is still read. The records in front of these elements
and behind them are the same; those in them are framed by the commands, one by one.
-/
theorem readRecords_wrapped {sec : Section} {site : Site} {run : List Node} {c : Collector Shelf}
    {rs : List Record} (hwalked : site.Walked) (hrun : run.filterMap Node.element? ≠ [])
    (hread : (c.readRecords (sec.put site run)).1 = .ok rs) :
    ∃ around, site.surroundings sec {} = .ok around ∧
      ∀ (w : Xml.Tag) (cs : List Command), ElementKind.ofName w.name = .command →
        (around.environment sec).ofCommandElement ⟨w, run⟩ = .ok cs →
        (sec.put site [.element w run]).Fits → ∀ c' : Collector Shelf,
        ∃ first inside inside' last : List Record,
          rs = first ++ inside ++ last ∧
          (c'.readRecords (sec.put site [.element w run])).1 = .ok (first ++ inside' ++ last) ∧
          first.length = site.newsBefore.length ∧
          inside.length = (Node.news run).length ∧
          last.length = site.newsAfter.length ∧
          List.Forall₂ (Record.Framed cs) inside inside' := by
  obtain ⟨hfault, hnodup, hrecords⟩ :=
    (readRecords_eq_ok_iff_of_fits (fits_of_readRecords hread)).mp hread
  rw [Section.reading_put] at hfault hnodup hrecords
  obtain ⟨around, haround⟩ := Site.exists_surroundings hwalked hrun hfault
  obtain ⟨pre, post, hpre, hpost, hfill⟩ := Site.exists_reading_fill hwalked haround
  rw [hfill run hrun] at hfault hnodup hrecords
  obtain ⟨hpreFault, hrunFault, hpostFault⟩ := Reading.fault_of_three hfault
  refine ⟨around, haround, ?_⟩
  intro w cs hw hcs hfits c'
  have hwrapped : Lexical.unlimited sec around [.element w run] =
      Lexical.unlimited sec (around.inherit cs) run :=
    Lexical.unlimited_of_enter_ok (.inl hw) (by rwa [List.isEmpty_iff])
      (Lexical.enter_of_commands_ok hw hcs)
  -- The commands of the new element are the innermost ones, as far as its own children go.
  have hrelated : Reading.Related (Visit.Framed cs) Eq (Lexical.unlimited sec around run)
      (Lexical.unlimited sec (around.inherit cs) run) := by
    apply Lexical.related_of_adds_all
    · intro _ _ e hadds
      exact hadds.ofRecord e
    · exact Surroundings.adds_inherit cs around
  have hinsideFault := hrelated.fault_eq_none hrunFault
  obtain ⟨-, hvisits⟩ := Reading.three_of_no_fault hpreFault hrunFault hpostFault
  obtain ⟨hfault', hvisits'⟩ := Reading.three_of_no_fault hpreFault hinsideFault hpostFault
  have hlength {reading : Reading} {es : List Element}
      (h : reading.visits.map (·.element) = es) : reading.records.length = es.length := by
    rw [← h, Reading.records, List.length_map, List.length_map]
  refine ⟨pre.records, (Lexical.unlimited sec around run).records,
    (Lexical.unlimited sec (around.inherit cs) run).records, post.records, ?_, ?_, ?_, ?_, ?_, ?_⟩
  · rw [← hrecords, Reading.records, hvisits, List.map_append, List.map_append]
    rfl
  · apply (readRecords_eq_ok_iff_of_fits hfits).mpr
    rw [Section.reading_put, hfill _ (by simp [Node.element?]), hwrapped]
    refine ⟨hfault', ?_, ?_⟩
    · rw [hvisits, Visit.ids_append, Visit.ids_append] at hnodup
      rw [hvisits', Visit.ids_append, Visit.ids_append, Visit.ids_of_framed hrelated.visits]
      exact hnodup
    · rw [Reading.records, hvisits', List.map_append, List.map_append]
      rfl
  · exact hlength (hpre hpreFault)
  · exact hlength (Lexical.elements_unlimited hrunFault)
  · exact hlength (hpost hpostFault)
  · rw [Reading.records, Reading.records, List.forall₂_map_left_iff, List.forall₂_map_right_iff]
    apply hrelated.visits.imp
    intro v v' hframed
    exact hframed.2

theorem readRecords_wrapped_between :
    let w : Xml.Tag := {
      written := ⟨none, "append"⟩
      attributes := [{ written := ⟨none, "Title"⟩, value := "y" }]
    }
    let record (id title : String) : Record :=
      { id := some id, properties := [("Title", .text title)] }
    let rs := [record "1" "x", record "2" "x", record "3" "x"]
    Site.between.Walked ∧
      (Collector.readRecords { kept := {} } (Section.titled.put .between [.new "2"])).1 = .ok rs ∧
      (Section.titled.put .between [.element w [.new "2"]]).records =
        .ok [record "1" "x", record "2" "xy", record "3" "x"] ∧
      ∃ first inside inside' last : List Record,
        rs = first ++ inside ++ last ∧
        (Collector.readRecords { kept := {} }
          (Section.titled.put .between [.element w [.new "2"]])).1 = .ok (first ++ inside' ++ last) ∧
        first.length = 1 ∧ inside.length = 1 ∧ last.length = 1 ∧
        List.Forall₂ (Record.Framed [.append "Title" "y"]) inside inside' := by
  intro w record rs
  have hwalked : Site.between.Walked := ⟨.inl rfl, trivial⟩
  have hread : (Collector.readRecords { kept := {} } (Section.titled.put .between [.new "2"])).1 =
      .ok rs := by
    cbv
  have hnew : (Section.titled.put .between [.element w [.new "2"]]).records =
      .ok [record "1" "x", record "2" "xy", record "3" "x"] := by
    cbv
  obtain ⟨around, haround, hwrap⟩ :=
    readRecords_wrapped hwalked (by simp [Node.new, Node.element?]) hread
  have hsurroundings : Site.between.surroundings Section.titled {} =
      .ok { commands := [[.set "Title" "x"]] } := by
    cbv
  obtain rfl := Except.ok.inj (hsurroundings.symm.trans haround)
  have hframed := hwrap w [.append "Title" "y"] rfl (by cbv) (fits_of_readRecords hnew)
    { kept := {} }
  exact ⟨hwalked, hread, hnew, hframed⟩

end Collector
end Catalog
