import Catalog.Proofs.Lexical.Limit
import Catalog.Proofs.Traversal.Reading
/-!
This module contains the whole course of a traversal from its beginning on, and that it makes the
records that lexical reading makes.
-/

namespace Catalog

variable {σ : Type}

namespace Collector

theorem reset_around (c : Collector σ) (k : Keeper σ) : (c.reset k).Matches {} := by
  constructor
  · rfl
  · rfl

def course (sec : Section) (k : Keeper σ) (c : Collector σ) : Trace σ :=
  trace sec k sec.stops [] (c.reset k)

def harvest (sec : Section) (k : Keeper σ) (c : Collector σ) : Harvest σ :=
  (Lexical.read sec (some sec.settings.maxDepth)).harvest k (k.renew c.kept)

theorem follows_course (sec : Section) (k : Keeper σ) (c : Collector σ) :
    ∃ rests, List.Forall₂ Rest.Shows (harvest sec k c).visits rests ∧
      match (harvest sec k c).fault with
      | some f => ∃ final, course sec k c = ⟨rests, some (sec.report f), final⟩
      | none =>
        ∃ c', (c.reset k).Proceeds c' (Lexical.read sec (some sec.settings.maxDepth)).scopes ∧
          c'.kept = (harvest sec k c).kept ∧ course sec k c = ⟨rests, none, c'.finish []⟩ := by
  obtain ⟨rests, hrests, hend⟩ :=
    follows_ofNodes sec k 1 {} sec.element.children [] [] (c.reset k) (reset_around c k)
  refine ⟨rests, hrests, ?_⟩
  rw [List.append_nil] at hend
  have hharvest : (Lexical.ofNodes sec (some sec.settings.maxDepth) 1 {}
      sec.element.children).harvest k (c.reset k).kept = harvest sec k c := by
    rfl
  rw [hharvest] at hend
  split
  · next f hfault =>
    rw [hfault] at hend
    exact hend
  · next hfault =>
    rw [hfault] at hend
    obtain ⟨c', hproceeds, hkept, htrace⟩ := hend
    refine ⟨c', hproceeds, hkept, ?_⟩
    simp only [Trace.after, trace, List.append_nil] at htrace
    exact htrace

theorem course_shows (sec : Section) (k : Keeper σ) (c : Collector σ) :
    List.Forall₂ Rest.Shows (harvest sec k c).visits (course sec k c).rests := by
  obtain ⟨rests, hrests, hend⟩ := follows_course sec k c
  split at hend
  · obtain ⟨final, hcourse⟩ := hend
    rw [hcourse]
    exact hrests
  · obtain ⟨c', _, _, hcourse⟩ := hend
    rw [hcourse]
    exact hrests

theorem course_error (sec : Section) (k : Keeper σ) (c : Collector σ) :
    (course sec k c).error = (harvest sec k c).fault.map sec.report := by
  obtain ⟨rests, _, hend⟩ := follows_course sec k c
  split at hend
  · next f hfault =>
    obtain ⟨final, hcourse⟩ := hend
    rw [hcourse, hfault]
    rfl
  · next hfault =>
    obtain ⟨c', _, _, hcourse⟩ := hend
    rw [hcourse, hfault]
    rfl

theorem pushed_course {sec : Section} {k : Keeper σ} {c : Collector σ}
    (h : (course sec k c).error = none) (kind : ScopeKind) :
    ((course sec k c).final.present.counts kind).pushed =
      (Lexical.read sec (some sec.settings.maxDepth)).scopes.count kind := by
  obtain ⟨rests, _, hend⟩ := follows_course sec k c
  rw [course_error, Option.map_eq_none_iff] at h
  rw [h] at hend
  obtain ⟨c', hproceeds, _, hcourse⟩ := hend
  rw [hcourse]
  have hbefore : ((c.reset k).present.counts kind).pushed = 0 := by
    match kind with
    | .command => rfl
    | .variable => rfl
  have hpushed := hproceeds.pushed kind
  rw [hbefore, Nat.zero_add] at hpushed
  exact hpushed

theorem drain_fresh (sec : Section) (k : Keeper σ) (c : Collector σ) :
    c.drain sec k .fresh =
      ((course sec k c).records, (course sec k c).error, (course sec k c).final) := by
  apply exhaust_eq_trace

theorem course_records (sec : Section) (k : Keeper σ) (c : Collector σ) :
    (course sec k c).records = (harvest sec k c).visits.map (·.record) := by
  exact Rest.records_of_shows (course_shows sec k c)

/--
Going through a section with a keeper that only writes down what it gets makes the records that
lexical reading makes, and fails as it does. The limit on the depth matters only where it is
reached.
-/
theorem drain_eq_read (sec : Section) (c : Collector (List Call)) :
    let limited := Lexical.read sec (some sec.settings.maxDepth)
    let full := Lexical.read sec none
    (c.drain sec .journal .fresh).1 = limited.records ∧
      (c.drain sec .journal .fresh).2.1 = limited.fault.map sec.report ∧
      limited.Limits sec.settings.maxDepth full := by
  intro limited full
  obtain ⟨calls, hharvest⟩ := limited.harvest_journal c.kept
  have hcourse : harvest sec .journal c = ⟨limited.visits, limited.fault, calls⟩ := hharvest
  rw [drain_fresh]
  refine ⟨?_, ?_, ?_⟩
  · simp only [course_records, hcourse]
    rfl
  · simp only [course_error, hcourse]
  · exact Lexical.limits_read sec sec.settings.maxDepth

end Collector
end Catalog
