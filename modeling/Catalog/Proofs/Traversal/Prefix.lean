import Catalog.Proofs.Traversal.Course
import Catalog.Proofs.Traversal.Ending
import Catalog.Proofs.Traversal.Titles
/-!
This module contains what is so after some records have been taken from a traversal: no more has
been done than reading them takes, and the scopes that are open are those around the last of them.
-/

namespace Catalog

variable {σ : Type}

def Section.titled : Section where
  element := ⟨{ written := ⟨none, "records"⟩ }, [
    .element Titles.titleElement.tag Titles.titleElement.children,
    .element Titles.recordElement.tag Titles.recordElement.children]⟩
  entity := Titles.entity
  settings := default

namespace Collector

/--
What is so when just the records `rs` have been taken from the only traversal of a collector that
was new and kept `kept`.
-/
structure Taken (sec : Section) (k : Keeper σ) (kept : σ) (rs : List Record) (t : Traversal)
    (c : Collector σ) : Prop where
  whole : drain { kept } sec k .fresh = (rs ++ (c.drain sec k t).1, (c.drain sec k t).2)
  calls : k.obey (rs.flatMap Record.calls) (if rs = [] then kept else k.renew kept) = .ok c.kept
  place : ∃ visits, visits <+: (Lexical.read sec (some sec.settings.maxDepth)).visits ∧
    visits.map (·.record) = rs ∧
    visits.map (·.element) = (sec.stops.filterMap Stop.record?).take rs.length ∧
    c.Matches (visits.getLast?.elim {} (·.around)) ∧
    c.current = visits.getLast?.map (·.element)
  ahead : t = .fresh ∧ rs = [] ∨ ∃ opened, t = .paused (Stop.behind rs.length sec.stops) opened
  untouched : ∀ element, Stop.AlikeUntil rs.length sec.stops (Section.stops { sec with element }) →
    ∃ t', takeMany { sec with element } k rs.length .fresh { kept } = (rs.map .record, t', c)
  closed : ∀ kind, ((c.close t).present.counts kind).Balanced 0
  closed_current : (c.close t).current = none
  closed_kept : (c.close t).kept = c.kept
  drained : ∀ kind, ((c.drain sec k t).2.2.present.counts kind).Balanced 0
  drained_current : (c.drain sec k t).2.2.current = none
  drained_calls : ∃ kept',
    k.obey ((rs ++ (c.drain sec k t).1).flatMap Record.calls) (k.renew kept) = .ok kept' ∧
      ((c.drain sec k t).2.2.kept = kept' ∨ ∃ id, (c.drain sec k t).2.2.kept = k.create id kept')
  ended : ∀ n, (takeMany sec k n t c).2.1 = .over →
    (takeMany sec k n t c).2.2 = (c.drain sec k t).2.2
  pushed : (c.drain sec k t).2.1 = none → ∀ kind,
    ((c.drain sec k t).2.2.present.counts kind).pushed =
      (Lexical.read sec (some sec.settings.maxDepth)).scopes.count kind

theorem drain_paused (sec : Section) (k : Keeper σ) (stops : List Stop)
    (opened : List (Option OpenScope)) (c : Collector σ) :
    c.drain sec k (.paused stops opened) =
      ((trace sec k stops opened c).records, (trace sec k stops opened c).error,
        (trace sec k stops opened c).final) := by
  apply exhaust_eq_trace

theorem course_balanced (sec : Section) (k : Keeper σ) (kept : σ) (kind : ScopeKind) :
    ((course sec k { kept }).final.present.counts kind).Balanced 0 := by
  have hreset : (reset k { kept }).Balanced ((List.reduceOption []) ++ []) :=
    (Balanced.fresh kept).reset k
  exact hreset.final.present kind

theorem taken_nothing (sec : Section) (k : Keeper σ) (kept : σ) :
    Taken sec k kept [] .fresh { kept } := by
  constructor
  · rfl
  · rfl
  · exact ⟨[], List.nil_prefix, rfl, rfl, ⟨rfl, rfl⟩, rfl⟩
  · exact .inl ⟨rfl, rfl⟩
  · intro element _
    exact ⟨.fresh, rfl⟩
  · exact (Balanced.fresh kept).present
  · rfl
  · rfl
  · rw [drain_fresh]
    exact course_balanced sec k kept
  · rw [drain_fresh]
    apply final_current
  · rw [drain_fresh]
    apply final_kept
  · intro n h
    cases n with
    | zero => simp [takeMany] at h
    | succ n =>
      rw [takeMany_fresh] at h ⊢
      rw [takeMany_of_over h, drain_fresh]
      rfl
  · rw [drain_fresh]
    intro h
    exact pushed_course h

theorem visits_of_rests {sec : Section} {k : Keeper σ} {c : Collector σ}
    {rests : List (Rest σ)} {t : Trace σ} (h : course sec k c = t.after rests) :
    ∃ visits, visits <+: (Lexical.read sec (some sec.settings.maxDepth)).visits ∧
      List.Forall₂ Rest.Shows visits rests := by
  refine ⟨(harvest sec k c).visits.take rests.length, ?_, ?_⟩
  · apply List.IsPrefix.trans
    · apply List.take_prefix
    · apply Reading.harvest_visits_isPrefix
  · have hshows := course_shows sec k c
    rw [h] at hshows
    exact List.forall₂_take_append (harvest sec k c).visits rests t.rests hshows

theorem taken_of_passes {sec : Section} {k : Keeper σ} {kept : σ} {r : Record} {rs : List Record}
    {stops : List Stop} {opened : List (Option OpenScope)} {c : Collector σ}
    (h : Passes sec k sec.stops [] (reset k { kept }) (r :: rs) stops opened c) :
    Taken sec k kept (r :: rs) (.paused stops opened) c := by
  obtain ⟨rests, hrecords, hlast, htrace, hcurrent⟩ := h.trace_eq
  have hcourse : course sec k { kept } = (trace sec k stops opened c).after rests := htrace
  have hwhole : drain { kept } sec k .fresh =
      (r :: rs ++ (c.drain sec k (.paused stops opened)).1,
        (c.drain sec k (.paused stops opened)).2) := by
    rw [drain_fresh, drain_paused, hcourse, ← hrecords]
    simp [Trace.records, Trace.after]
  have hrest : (c.drain sec k (.paused stops opened)).2 =
      ((course sec k { kept }).error, (course sec k { kept }).final) := by
    rw [drain_fresh] at hwhole
    exact (congrArg Prod.snd hwhole).symm
  have hreset : (reset k { kept }).Balanced ((List.reduceOption []) ++ []) :=
    (Balanced.fresh kept).reset k
  constructor
  · exact hwhole
  · exact h.obey_eq
  · obtain ⟨visits, hprefix, hshows⟩ := visits_of_rests hcourse
    obtain ⟨last, hrests⟩ : ∃ last, rests.getLast? = some last := by
      cases rests with
      | nil => simp at hrecords
      | cons first rests => exact ⟨_, List.getLast?_cons⟩
    obtain ⟨v, hv, hlastShows⟩ := Rest.getLast?_of_shows hshows hrests
    obtain rfl : last.collector = c := by
      rw [hrests] at hlast
      exact hlast
    refine ⟨visits, hprefix, ?_, ?_, ?_, ?_⟩
    · rw [← hrecords, Rest.records_of_shows hshows]
    · rw [Rest.currents_of_shows hshows] at hcurrent
      exact (List.map_inj_right fun _ _ => Option.some.inj).mp hcurrent
    · rw [hv]
      exact hlastShows.around
    · rw [hv]
      exact hlastShows.current
  · exact .inr ⟨opened, by rw [h.stops_eq]⟩
  · intro element halike
    refine ⟨.paused (Stop.behind (r :: rs).length (Section.stops { sec with element })) opened, ?_⟩
    exact (h.alike halike element).takeMany_eq
  · exact (h.balanced hreset).finish.present
  · rfl
  · apply kept_finish
  · rw [hrest]
    exact course_balanced sec k kept
  · rw [drain_paused]
    apply final_current
  · have hrecords : r :: rs ++ (c.drain sec k (.paused stops opened)).1 =
        (course sec k { kept }).records := by
      rw [drain_fresh] at hwhole
      exact (congrArg Prod.fst hwhole).symm
    rw [hrecords, hrest]
    apply final_kept
  · intro n hn
    rw [takeMany_of_over hn, drain_paused]
  · rw [hrest]
    intro herror
    exact pushed_course herror

theorem taken_of_takeMany {sec : Section} {k : Keeper σ} {kept : σ} {n : Nat} {rs : List Record}
    (h : (takeMany sec k n .fresh { kept }).1 = rs.map .record) :
    Taken sec k kept rs (takeMany sec k n .fresh { kept }).2.1
      (takeMany sec k n .fresh { kept }).2.2 := by
  cases n with
  | zero =>
    obtain rfl : rs = [] := by simpa [takeMany] using h.symm
    exact taken_nothing sec k kept
  | succ n =>
    rw [takeMany_fresh] at h ⊢
    obtain ⟨stops, opened, c, htake, hpasses⟩ := passes_of_takeMany h
    rw [htake]
    cases rs with
    | nil => simp [takeMany] at h
    | cons r rs => exact taken_of_passes hpasses

theorem journal_of_taken {sec : Section} {rs : List Record} {t : Traversal}
    {c : Collector (List Call)} (h : Taken sec .journal [] rs t c) :
    c.kept = rs.flatMap Record.calls := by
  have hcalls : Keeper.journal.obey (rs.flatMap Record.calls) [] = .ok c.kept := by
    simpa [Keeper.journal] using h.calls
  rw [Keeper.obey_journal, Except.ok.injEq] at hcalls
  exact hcalls.symm

theorem shelf_of_taken {sec : Section} {rs : List Record} {t : Traversal} {c : Collector Shelf}
    (h : Taken sec .shelf {} rs t c) :
    c.kept.records = rs ∧ (c.close t).kept.records = rs ∧
      (c.drain sec .shelf t).2.2.kept.records = rs ++ (c.drain sec .shelf t).1 := by
  have hcalls : Keeper.shelf.obey (rs.flatMap Record.calls) {} = .ok c.kept := by
    simpa [Keeper.shelf] using h.calls
  have hkept : c.kept.records = rs := Keeper.records_of_obey_shelf hcalls
  refine ⟨hkept, ?_, ?_⟩
  · rw [h.closed_kept, hkept]
  · obtain ⟨kept', hobey, hfinal⟩ := h.drained_calls
    have hkept' : kept'.records = rs ++ (c.drain sec .shelf t).1 :=
      Keeper.records_of_obey_shelf hobey
    obtain heq | ⟨id, heq⟩ := hfinal
    · rw [heq, hkept']
    · rw [heq]
      exact hkept'

/--
Records that are taken one by one are the first ones of all, nothing behind them has been done, and
however the traversal goes on it ends with no scope open. A journal tells of two calls for each of
them, and a shelf holds just them.
-/
theorem takeMany_first (sec : Section) (n : Nat) (rs : List Record) (t : Traversal) :
    (∀ (σ : Type) (k : Keeper σ) (kept : σ) (c : Collector σ),
      takeMany sec k n .fresh { kept } = (rs.map .record, t, c) →
        rs.length = n ∧ Taken sec k kept rs t c) ∧
    (∀ c : Collector (List Call),
      takeMany sec .journal n .fresh { kept := [] } = (rs.map .record, t, c) →
        c.kept = rs.flatMap Record.calls) ∧
    (∀ c : Collector Shelf,
      takeMany sec .shelf n .fresh { kept := {} } = (rs.map .record, t, c) →
        c.kept.records = rs ∧ (c.close t).kept.records = rs ∧
          (c.drain sec .shelf t).2.2.kept.records = rs ++ (c.drain sec .shelf t).1) := by
  refine ⟨?_, ?_, ?_⟩
  · intro σ k kept c h
    constructor
    · have hlength := length_takeMany sec k n .fresh { kept }
      rw [h, List.length_map] at hlength
      exact hlength
    · have htaken := taken_of_takeMany (congrArg Prod.fst h)
      rw [h] at htaken
      exact htaken
  · intro c h
    have htaken := taken_of_takeMany (congrArg Prod.fst h)
    rw [h] at htaken
    exact journal_of_taken htaken
  · intro c h
    have htaken := taken_of_takeMany (congrArg Prod.fst h)
    rw [h] at htaken
    exact shelf_of_taken htaken

theorem takeMany_first_titled :
    let first : Record := { properties := [("Title", .text "x")] }
    ∃ t c, takeMany .titled .journal 1 .fresh { kept := [] } = ([.record first], t, c) ∧
      Taken .titled .journal [] [first] t c := by
  intro first
  have h : takeMany .titled .journal 1 .fresh { kept := [] } =
      ([.record first], (takeMany .titled .journal 1 .fresh { kept := [] }).2) := by
    apply Prod.ext
    · cbv
    · rfl
  exact ⟨_, _, h, ((takeMany_first .titled 1 [first] _).1 _ .journal [] _ h).2⟩

end Collector
end Catalog
