import Catalog.Proofs.Collector.Balance
import Catalog.Proofs.Collector.Keeper
import Catalog.Proofs.Traversal.Trace
import Catalog.Proofs.Walk
/-!
This module contains what asking a traversal for several records comes to: the steps up to the last
of the records have been made, and no other ones.
-/

namespace Catalog

variable {σ : Type}

namespace Collector

def takeMany (sec : Section) (k : Keeper σ) :
    Nat → Traversal → Collector σ → List (Take StructureError) × Traversal × Collector σ
  | 0, t, c => ([], t, c)
  | n + 1, t, c =>
    let (x, t, c) := c.next sec k t
    let (xs, t, c) := takeMany sec k n t c
    (x :: xs, t, c)

theorem takeMany_fresh (sec : Section) (k : Keeper σ) (n : Nat) (c : Collector σ) :
    takeMany sec k (n + 1) .fresh c =
      takeMany sec k (n + 1) (.paused sec.stops []) (c.reset k) := by
  rfl

theorem length_takeMany (sec : Section) (k : Keeper σ) (n : Nat) (t : Traversal)
    (c : Collector σ) : (takeMany sec k n t c).1.length = n := by
  induction n generalizing t c with
  | zero => rfl
  | succ n ih =>
    unfold takeMany
    simp [ih]

theorem takeMany_over (sec : Section) (k : Keeper σ) (n : Nat) (c : Collector σ) :
    (takeMany sec k n .over c).2 = (.over, c) := by
  induction n with
  | zero => rfl
  | succ n ih => exact ih

inductive Passes (sec : Section) (k : Keeper σ) :
    List Stop → List (Option OpenScope) → Collector σ → List Record →
      List Stop → List (Option OpenScope) → Collector σ → Prop where
  | rest (stops : List Stop) (opened : List (Option OpenScope)) (c : Collector σ) :
    Passes sec k stops opened c [] stops opened c
  | moved {stop : Stop} {stops stops' : List Stop} {opened opened' opened'' : List (Option OpenScope)}
    {c c' c'' : Collector σ} {r : Record} {rs : List Record}
    (hstep : c.step sec k opened stop = .moved c' opened')
    (h : Passes sec k stops opened' c' (r :: rs) stops' opened'' c'') :
    Passes sec k (stop :: stops) opened c (r :: rs) stops' opened'' c''
  | yielded {stop : Stop} {stops stops' : List Stop} {opened opened' : List (Option OpenScope)}
    {c c' c'' : Collector σ} {r : Record} {rs : List Record}
    (hstep : c.step sec k opened stop = .yielded r c')
    (h : Passes sec k stops opened c' rs stops' opened' c'') :
    Passes sec k (stop :: stops) opened c (r :: rs) stops' opened' c''

theorem passes_of_advance {sec : Section} {k : Keeper σ} {stops : List Stop}
    {opened : List (Option OpenScope)} {c : Collector σ} {r : Record}
    (h : (advance sec k stops opened c).1 = .record r) :
    ∃ stops' opened' c', advance sec k stops opened c = (.record r, .paused stops' opened', c') ∧
      ∀ rs stops'' opened'' c'', Passes sec k stops' opened' c' rs stops'' opened'' c'' →
        Passes sec k stops opened c (r :: rs) stops'' opened'' c'' := by
  induction stops generalizing opened c with
  | nil => simp [advance] at h
  | cons stop stops ih =>
    cases hstep : c.step sec k opened stop with
    | moved c' opened' =>
      simp only [advance, hstep] at h ⊢
      obtain ⟨stops', opened'', c'', hadvance, hpasses⟩ := ih h
      refine ⟨stops', opened'', c'', hadvance, ?_⟩
      intro rs stops'' openedEnd d hrest
      exact .moved hstep (hpasses rs stops'' openedEnd d hrest)
    | yielded record c' =>
      simp only [advance, hstep, Take.record.injEq] at h ⊢
      rw [h] at hstep ⊢
      refine ⟨stops, opened, c', rfl, ?_⟩
      intro rs stops'' opened'' c'' hrest
      exact .yielded hstep hrest
    | failed f c' => simp [advance, hstep] at h

theorem passes_of_takeMany {sec : Section} {k : Keeper σ} {n : Nat} {stops : List Stop}
    {opened : List (Option OpenScope)} {c : Collector σ} {rs : List Record}
    (h : (takeMany sec k n (.paused stops opened) c).1 = rs.map .record) :
    ∃ stops' opened' c', (takeMany sec k n (.paused stops opened) c).2 =
        (.paused stops' opened', c') ∧
      Passes sec k stops opened c rs stops' opened' c' := by
  induction n generalizing stops opened c rs with
  | zero =>
    obtain rfl : rs = [] := by simpa [takeMany] using h.symm
    exact ⟨stops, opened, c, rfl, .rest stops opened c⟩
  | succ n ih =>
    cases rs with
    | nil => simp [takeMany] at h
    | cons r rs =>
      rw [takeMany] at h ⊢
      simp only [List.map_cons, List.cons.injEq] at h
      obtain ⟨stops', opened', c', hadvance, hpasses⟩ := passes_of_advance h.1
      have hnext : c.next sec k (.paused stops opened) = (.record r, .paused stops' opened', c') :=
        hadvance
      simp only [hnext] at h ⊢
      obtain ⟨stops'', opened'', c'', htake, hrest⟩ := ih h.2
      exact ⟨stops'', opened'', c'', htake, hpasses rs stops'' opened'' c'' hrest⟩

namespace Passes

variable {sec : Section} {k : Keeper σ} {stops stops' : List Stop}
  {opened opened' : List (Option OpenScope)} {c c' : Collector σ} {rs : List Record}

theorem takeMany_eq (h : Passes sec k stops opened c rs stops' opened' c') :
    takeMany sec k rs.length (.paused stops opened) c =
      (rs.map .record, .paused stops' opened', c') := by
  induction h with
  | rest => rfl
  | moved hstep _ ih =>
    rw [← ih]
    simp only [List.length_cons, takeMany, next, advance, hstep]
  | yielded hstep _ ih => simp only [List.length_cons, takeMany, next, advance, hstep, ih,
      List.map_cons]

theorem trace_eq (h : Passes sec k stops opened c rs stops' opened' c') :
    ∃ rests, rests.map (·.record) = rs ∧ rests.getLast?.elim c (·.collector) = c' ∧
      trace sec k stops opened c = (trace sec k stops' opened' c').after rests ∧
      rests.map (·.collector.current) =
        ((stops.filterMap Stop.record?).take rs.length).map some := by
  induction h with
  | rest => exact ⟨[], rfl, rfl, rfl, rfl⟩
  | @moved stop _ _ _ _ _ _ _ _ _ _ hstep _ ih =>
    obtain ⟨rests, hrecords, hlast, htrace, hcurrent⟩ := ih
    refine ⟨rests, hrecords, ?_, ?_, ?_⟩
    · cases rests with
      | nil => simp at hrecords
      | cons r rests =>
        rw [List.getLast?_cons] at hlast ⊢
        exact hlast
    · rw [trace_of_moved hstep, htrace]
    · rw [hcurrent]
      cases stop with
      | record e => exact absurd hstep (step_record_ne_moved e)
      | enter => rfl
      | reach => rfl
      | leave => rfl
      | unknown => rfl
  | @yielded _ stops _ opened _ _ c' _ record _ hstep _ ih =>
    obtain ⟨rests, hrecords, hlast, htrace, hcurrent⟩ := ih
    refine ⟨⟨record, stops, opened, c'⟩ :: rests, ?_, ?_, ?_, ?_⟩
    · rw [List.map_cons, hrecords]
    · rw [← hlast, List.getLast?_cons]
      cases rests.getLast? with
      | none => rfl
      | some r => rfl
    · rw [trace_of_yielded hstep, htrace, Trace.after_after]
      rfl
    · obtain ⟨e, kept, rfl, -, rfl⟩ := step_yielded hstep
      rw [List.map_cons, hcurrent]
      rfl

theorem balanced {others : List OpenScope} (h : Passes sec k stops opened c rs stops' opened' c')
    (hc : c.Balanced (opened.reduceOption ++ others)) :
    c'.Balanced (opened'.reduceOption ++ others) := by
  induction h with
  | rest => exact hc
  | moved hstep _ ih => exact ih (hc.moved hstep)
  | yielded hstep _ ih => exact ih (hc.yielded hstep)

theorem obey_eq (h : Passes sec k stops opened c rs stops' opened' c') :
    k.obey (rs.flatMap Record.calls) c.kept = .ok c'.kept := by
  induction h with
  | rest => rfl
  | moved hstep _ ih =>
    rw [← kept_of_moved hstep]
    exact ih
  | yielded hstep _ ih =>
    obtain ⟨e, kept, -, hadd, rfl⟩ := step_yielded hstep
    rw [List.flatMap_cons, Keeper.obey_calls hadd]
    exact ih

theorem stops_eq (h : Passes sec k stops opened c rs stops' opened' c') :
    stops' = Stop.behind rs.length stops := by
  induction h with
  | rest stops opened c => rw [List.length_nil, Stop.behind_zero]
  | @moved stop _ _ _ _ _ _ _ _ _ _ hstep _ ih =>
    rw [ih]
    cases stop with
    | record e => exact absurd hstep (step_record_ne_moved e)
    | enter => rfl
    | reach => rfl
    | leave => rfl
    | unknown => rfl
  | yielded hstep _ ih =>
    obtain ⟨e, kept, rfl, -, -⟩ := step_yielded hstep
    exact ih

theorem alike (h : Passes sec k stops opened c rs stops' opened' c') {stops'' : List Stop}
    (halike : Stop.AlikeUntil rs.length stops stops'') (element : Xml.Element) :
    Passes { sec with element } k stops'' opened c rs (Stop.behind rs.length stops'') opened' c' := by
  induction h generalizing stops'' with
  | rest stops opened c =>
    rw [List.length_nil, Stop.behind_zero]
    exact .rest stops'' opened c
  | moved hstep _ ih =>
    cases halike with
    | record e => exact absurd hstep (step_record_ne_moved e)
    | enter kind tag children children' halike =>
      exact .moved (step_enter_of_tag hstep children') (ih halike)
    | reach first first' level halike =>
      exact .moved (step_reach_of_moved hstep first') (ih halike)
    | leave halike => exact .moved hstep (ih halike)
  | yielded hstep _ ih =>
    obtain ⟨e, kept, rfl, -, -⟩ := step_yielded hstep
    cases halike with
    | record e halike => exact .yielded hstep (ih halike)

end Passes

end Collector
end Catalog
