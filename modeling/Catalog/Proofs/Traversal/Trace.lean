import Catalog.Collector.Traversal
/-!
This module contains the whole course of a traversal that nothing else disturbs: where it rests, how
it ends and what it leaves. Asking for records one at a time and taking all of them at once both
follow this course.
-/

namespace Catalog

variable {σ : Type}

structure Rest (σ : Type) where
  record : Record
  stops : List Stop
  opened : List (Option OpenScope)
  collector : Collector σ

structure Trace (σ : Type) where
  rests : List (Rest σ)
  error : Option StructureError
  final : Collector σ

namespace Trace

def after (rests : List (Rest σ)) (t : Trace σ) : Trace σ := { t with rests := rests ++ t.rests }

theorem after_after (first second : List (Rest σ)) (t : Trace σ) :
    (t.after second).after first = t.after (first ++ second) := by
  simp [after]

def records (t : Trace σ) : List Record := t.rests.map (·.record)

end Trace

namespace Collector

def trace (sec : Section) (k : Keeper σ) :
    List Stop → List (Option OpenScope) → Collector σ → Trace σ
  | [], opened, c => ⟨[], none, c.finish opened⟩
  | stop :: stops, opened, c =>
    match c.step sec k opened stop with
    | .moved c opened => trace sec k stops opened c
    | .yielded r c => (trace sec k stops opened c).after [⟨r, stops, opened, c⟩]
    | .failed f c => ⟨[], some (sec.report f), c.finish opened⟩

section

variable {sec : Section} {k : Keeper σ} {stop : Stop} {stops : List Stop}
  {opened opened' : List (Option OpenScope)} {c c' : Collector σ}

theorem trace_of_moved (h : c.step sec k opened stop = .moved c' opened') :
    trace sec k (stop :: stops) opened c = trace sec k stops opened' c' := by
  simp only [trace, h]

theorem trace_of_yielded {r : Record} (h : c.step sec k opened stop = .yielded r c') :
    trace sec k (stop :: stops) opened c =
      (trace sec k stops opened c').after [⟨r, stops, opened, c'⟩] := by
  simp only [trace, h]

theorem trace_of_failed {f : Fault} (h : c.step sec k opened stop = .failed f c') :
    trace sec k (stop :: stops) opened c = ⟨[], some (sec.report f), c'.finish opened⟩ := by
  simp only [trace, h]

end

theorem exhaust_eq_trace (sec : Section) (k : Keeper σ) (stops : List Stop)
    (opened : List (Option OpenScope)) (c : Collector σ) :
    exhaust sec k stops opened c =
      ((trace sec k stops opened c).records, (trace sec k stops opened c).error,
        (trace sec k stops opened c).final) := by
  induction stops generalizing opened c with
  | nil => rfl
  | cons stop stops ih =>
    unfold exhaust
    cases hstep : c.step sec k opened stop with
    | moved c opened =>
      rw [trace_of_moved hstep]
      apply ih
    | yielded r c =>
      rw [trace_of_yielded hstep]
      simp only [ih]
      rfl
    | failed f c =>
      rw [trace_of_failed hstep]
      rfl

theorem advance_eq_trace (sec : Section) (k : Keeper σ) (stops : List Stop)
    (opened : List (Option OpenScope)) (c : Collector σ) :
    advance sec k stops opened c =
      match (trace sec k stops opened c).rests with
      | [] =>
        match (trace sec k stops opened c).error with
        | none => (.ended, .over, (trace sec k stops opened c).final)
        | some e => (.failed e, .over, (trace sec k stops opened c).final)
      | r :: _ => (.record r.record, .paused r.stops r.opened, r.collector) := by
  induction stops generalizing opened c with
  | nil => rfl
  | cons stop stops ih =>
    unfold advance
    cases hstep : c.step sec k opened stop with
    | moved c opened =>
      rw [trace_of_moved hstep]
      apply ih
    | yielded r c =>
      rw [trace_of_yielded hstep]
      rfl
    | failed f c =>
      rw [trace_of_failed hstep]

theorem trace_of_rest {sec : Section} {k : Keeper σ} {stops : List Stop}
    {opened : List (Option OpenScope)} {c : Collector σ} {r : Rest σ} {rests : List (Rest σ)}
    (h : (trace sec k stops opened c).rests = r :: rests) :
    trace sec k stops opened c = (trace sec k r.stops r.opened r.collector).after [r] := by
  induction stops generalizing opened c with
  | nil => simp [trace] at h
  | cons stop stops ih =>
    cases hstep : c.step sec k opened stop with
    | moved c opened =>
      rw [trace_of_moved hstep] at h ⊢
      apply ih h
    | yielded record c =>
      rw [trace_of_yielded hstep] at h ⊢
      have hr := (List.cons.inj h).1
      rw [← hr]
    | failed f c =>
      rw [trace_of_failed hstep] at h
      simp at h

end Collector
end Catalog
