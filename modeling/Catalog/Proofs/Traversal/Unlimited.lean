import Catalog.Proofs.Lexical.Unlimited
import Catalog.Proofs.Lexical.Visits
import Catalog.Proofs.Traversal.Likeness
/-!
This module contains the proof that reading a section makes what lexical reading without a limit
comes to, unless the depth of the section is too great.
-/

namespace Catalog

namespace Section

def Fits (sec : Section) : Prop :=
  ∀ e, sec.records = .error e → e.problem ≠ .tooDeep sec.settings.maxDepth

def reading (sec : Section) : Reading := Lexical.unlimited sec {} sec.element.children

end Section

namespace Collector

variable {sec : Section}

theorem readRecords_eq_records (c : Collector Shelf) : (c.readRecords sec).1 = sec.records := by
  rw [(readRecords_of_harvest (Eq.refl (harvest sec .shelf c))).2, Section.records,
    (readRecords_of_harvest (Eq.refl (harvest sec .shelf { kept := {} }))).2]
  rfl

theorem exists_readRecords_of_fits (h : sec.Fits) (c : Collector Shelf) :
    ∃ m hm, c.readRecords (sec.limit m hm) = c.readRecords sec ∧
      Lexical.read (sec.limit m hm) (some m) =
        Lexical.ofNodes sec none 1 {} sec.element.children := by
  have hm : 1 ≤ sec.settings.maxDepth := sec.settings.maxDepth_pos
  let m := sec.settings.maxDepth + (1 + sizeOf sec.element.children)
  have hlt : sec.settings.maxDepth < m := by omega
  refine ⟨m, Nat.le_trans hm (Nat.le_of_lt hlt), ?_, ?_⟩
  · have hdrain : c.drain (sec.limit m (Nat.le_trans hm (Nat.le_of_lt hlt))) .shelf .fresh =
        c.drain sec .shelf .fresh := by
      apply drain_limit_of_not_deep sec hm hlt .shelf c
      intro e he
      apply h e
      rw [← readRecords_eq_records c, readRecords_eq]
      exact congrArg (Option.elim · _ _) he
    rw [readRecords_eq, readRecords_eq, hdrain]
  · unfold Lexical.read
    rw [Lexical.ofNodes_of_sizeOf_le]
    · apply Lexical.ofNodes_congr
      · rfl
      · rfl
    · exact Nat.le_add_left _ _

theorem readRecords_of_fits (h : sec.Fits) (c : Collector Shelf) :
    (c.readRecords sec).2.kept.records =
        (sec.reading.harvest .shelf {}).visits.map (·.record) ∧
      (c.readRecords sec).1 = ((sec.reading.harvest .shelf {}).fault.map sec.report).elim
        (.ok ((sec.reading.harvest .shelf {}).visits.map (·.record))) .error := by
  obtain ⟨m, hm, hread, hreading⟩ := exists_readRecords_of_fits h c
  have hharvest : harvest (sec.limit m hm) .shelf c = sec.reading.harvest .shelf {} := by
    have hread : harvest (sec.limit m hm) .shelf c =
        (Lexical.read (sec.limit m hm) (some m)).harvest .shelf {} := rfl
    rw [hread, hreading]
    rfl
  obtain ⟨hkept, hends⟩ := readRecords_of_harvest hharvest
  rw [hread] at hkept hends
  exact ⟨hkept, hends⟩

theorem readRecords_of_related {sec' : Section} {R : Xml.Element → Xml.Element → Prop}
    {F : Fault → Fault → Prop}
    (hrelated : Reading.Related (Visit.Alike R) F sec.reading sec'.reading)
    (hrefused : ∀ problem e e', R e e' → F ⟨problem, e, none⟩ ⟨problem, e', none⟩)
    (h : sec.Fits) (h' : sec'.Fits) (c c' : Collector Shelf) :
    (c'.readRecords sec').2.kept.records = (c.readRecords sec).2.kept.records ∧
      ∃ fault fault', Option.Rel F fault fault' ∧
        (c.readRecords sec).1 =
          (fault.map sec.report).elim (.ok (c.readRecords sec).2.kept.records) .error ∧
        (c'.readRecords sec').1 =
          (fault'.map sec'.report).elim (.ok (c.readRecords sec).2.kept.records) .error := by
  obtain ⟨hvisits, hfault⟩ := hrelated.harvest (fun _ _ h => h.record)
    (fun v v' problem h => hrefused problem v.element v'.element h.element) .shelf {}
  obtain ⟨hkept, hends⟩ := readRecords_of_fits h c
  obtain ⟨hkept', hends'⟩ := readRecords_of_fits h' c'
  have hsame : (c'.readRecords sec').2.kept.records = (c.readRecords sec).2.kept.records := by
    rw [hkept, hkept', Visit.records_of_alike hvisits]
  rw [← hkept] at hends
  rw [← hkept', hsame] at hends'
  exact ⟨hsame, _, _, hfault, hends, hends'⟩

theorem fits_of_readRecords {c : Collector Shelf} {rs : List Record}
    (h : (c.readRecords sec).1 = .ok rs) : sec.Fits := by
  intro e he
  rw [← readRecords_eq_records c, h] at he
  simp at he

theorem readRecords_eq_ok_iff_of_fits (h : sec.Fits) {c : Collector Shelf} {rs : List Record} :
    (c.readRecords sec).1 = .ok rs ↔
      sec.reading.fault = none ∧ (Visit.ids sec.reading.visits).Nodup ∧
        sec.reading.records = rs := by
  rw [(readRecords_of_fits h c).2]
  exact Reading.harvest_shelf_eq_ok_iff

end Collector
end Catalog
