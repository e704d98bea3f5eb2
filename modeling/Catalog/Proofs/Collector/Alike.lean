import Catalog.Proofs.Collector.Step
import Mathlib.Data.List.Forall2
/-!
This module contains the proof that a traversal cannot tell apart two collectors that have the same
scopes at present, whatever the earlier generations of either hold.
-/

namespace Catalog

variable {σ : Type}

structure Keeper.Bisimulation (k : Keeper σ) (R : σ → σ → Prop) : Prop where
  renew : ∀ x y, R (k.renew x) (k.renew y)
  create : ∀ id x y, R x y → R (k.create id x) (k.create id y)
  add : ∀ r x y, R x y →
    (∃ problem, k.add r x = .error problem ∧ k.add r y = .error problem) ∨
      ∃ x' y', k.add r x = .ok x' ∧ k.add r y = .ok y' ∧ R x' y'

namespace Keeper

theorem shelf_bisimulation : Keeper.shelf.Bisimulation Eq := by
  constructor
  · intro x y
    rfl
  · intro id x y h
    exact h
  · intro r x y h
    rw [h]
    cases hadd : Keeper.shelf.add r y with
    | error problem => exact .inl ⟨problem, rfl, rfl⟩
    | ok y' => exact .inr ⟨y', y', rfl, rfl, rfl⟩

theorem journal_bisimulation : Keeper.journal.Bisimulation fun _ _ => True := by
  constructor
  · intro x y
    trivial
  · intro id x y _
    trivial
  · intro r x y _
    exact .inr ⟨x ++ [.added r], y ++ [.added r], rfl, rfl, trivial⟩

end Keeper

inductive OpenScope.Alike (g g' : Nat) : Option OpenScope → Option OpenScope → Prop where
  | nothing : Alike g g' none none
  | scope (kind : ScopeKind) : Alike g g' (some ⟨g, kind⟩) (some ⟨g', kind⟩)

inductive Traversal.Alike (g g' : Nat) : Traversal → Traversal → Prop where
  | paused (stops : List Stop) {opened opened' : List (Option OpenScope)}
    (h : List.Forall₂ (OpenScope.Alike g g') opened opened') :
    Alike g g' (.paused stops opened) (.paused stops opened')
  | ended : Alike g g' .over .over

namespace Collector

structure Alike (R : σ → σ → Prop) (g g' : Nat) (c c' : Collector σ) : Prop where
  kept : R c.kept c'.kept
  present : c.present = c'.present
  generation : c.generation = g
  generation' : c'.generation = g'

inductive AlikeOutcomes (R : σ → σ → Prop) (g g' : Nat) : Outcome σ → Outcome σ → Prop where
  | moved {c c' : Collector σ} {opened opened' : List (Option OpenScope)}
    (hc : Alike R g g' c c') (h : List.Forall₂ (OpenScope.Alike g g') opened opened') :
    AlikeOutcomes R g g' (.moved c opened) (.moved c' opened')
  | yielded (r : Record) {c c' : Collector σ} (hc : Alike R g g' c c') :
    AlikeOutcomes R g g' (.yielded r c) (.yielded r c')
  | failed (f : Fault) {c c' : Collector σ} (hc : Alike R g g' c c') :
    AlikeOutcomes R g g' (.failed f c) (.failed f c')

section

variable {R : σ → σ → Prop} {g g' : Nat} {c c' : Collector σ} {k : Keeper σ}
  {opened opened' : List (Option OpenScope)}

namespace Alike

theorem with_kept {x x' : σ} (hc : Alike R g g' c c') (h : R x x')
    (current current' : Option Xml.Element) :
    Alike R g g' { c with kept := x, current } { c' with kept := x', current := current' } := by
  constructor
  · exact h
  · exact hc.present
  · exact hc.generation
  · exact hc.generation'

theorem with_present (hc : Alike R g g' c c') (f : Scopes → Scopes) :
    Alike R g g' { c with present := f c.present } { c' with present := f c'.present } := by
  constructor
  · exact hc.kept
  · rw [hc.present]
  · exact hc.generation
  · exact hc.generation'

theorem reset (hk : k.Bisimulation R) (c c' : Collector σ) :
    Alike R (c.generation + 1) (c'.generation + 1) (c.reset k) (c'.reset k) := by
  constructor
  · apply hk.renew
  · rfl
  · simp [Collector.reset, Collector.generation]
  · simp [Collector.reset, Collector.generation]

theorem leave (hc : Alike R g g' c c') (kind : ScopeKind) :
    Alike R g g' (c.leave ⟨g, kind⟩) (c'.leave ⟨g', kind⟩) := by
  simp only [Collector.leave, hc.generation, hc.generation', if_true]
  exact hc.with_present (leaveIn kind)

theorem finish (hc : Alike R g g' c c')
    (h : List.Forall₂ (OpenScope.Alike g g') opened opened') :
    Alike R g g' (c.finish opened) (c'.finish opened') := by
  have hleave : Alike R g g' (opened.reduceOption.foldl Collector.leave c)
      (opened'.reduceOption.foldl Collector.leave c') := by
    induction h generalizing c c' with
    | nil => exact hc
    | cons ho _ ih =>
      cases ho with
      | nothing => exact ih hc
      | scope kind => exact ih (hc.leave kind)
  exact hleave.with_kept hleave.kept none none

end Alike

theorem build_alike (hk : k.Bisimulation R) (hc : Alike R g g' c c') (sec : Section)
    (e : Xml.Element) :
    ∃ outcome d d', c.build sec k e = (outcome, d) ∧ c'.build sec k e = (outcome, d') ∧
      Alike R g g' d d' := by
  obtain ⟨x, earlier, present, current⟩ := c
  obtain ⟨x', earlier', present', current'⟩ := c'
  obtain rfl : present = present' := hc.present
  simp only [build]
  cases (sec.environment present.vars).ofAttributes e with
  | error f => exact ⟨.error f, _, _, rfl, rfl, hc⟩
  | ok p =>
    have hcreate := hk.create p.1 x x' hc.kept
    simp only
    cases (sec.environment present.vars).ofChildren e with
    | error f => exact ⟨.error f, _, _, rfl, rfl, hc.with_kept hcreate current current'⟩
    | ok children =>
      simp only
      obtain ⟨problem, hadd, hadd'⟩ | ⟨y, y', hadd, hadd', hy⟩ :=
        hk.add (sec.entity.make p.1 (p.2 ++ children ++ present.commands.outermostFirst))
          _ _ hcreate
      · rw [hadd, hadd']
        exact ⟨_, _, _, rfl, rfl, hc.with_kept hcreate current current'⟩
      · rw [hadd, hadd']
        exact ⟨_, _, _, rfl, rfl, hc.with_kept hy (some e) (some e)⟩

theorem step_enter_alike (hc : Alike R g g' c c')
    (h : List.Forall₂ (OpenScope.Alike g g') opened opened') (sec : Section) (k : Keeper σ)
    (kind : ScopeKind) (e : Xml.Element) :
    AlikeOutcomes R g g' (c.step sec k opened (.enter kind e))
      (c'.step sec k opened' (.enter kind e)) := by
  match kind with
  | .command =>
    simp only [step, hc.present]
    cases (sec.environment c'.present.vars).scopeEntry e with
    | error f => exact .failed f hc
    | ok entry =>
      cases entry with
      | none => exact .moved hc (.cons .nothing h)
      | some entry =>
        rw [hc.generation, hc.generation']
        exact .moved (hc.with_present fun s => { s with commands := s.commands.push entry })
          (.cons (.scope .command) h)
  | .variable =>
    simp only [step, hc.present]
    cases (sec.environment c'.present.vars).ofVariableElement e with
    | error f => exact .failed f hc
    | ok v =>
      rw [hc.generation, hc.generation']
      exact .moved (hc.with_present fun s => { s with vars := s.vars.push v })
        (.cons (.scope .variable) h)

theorem step_alike (hk : k.Bisimulation R) (hc : Alike R g g' c c')
    (h : List.Forall₂ (OpenScope.Alike g g') opened opened') (sec : Section) (stop : Stop) :
    AlikeOutcomes R g g' (c.step sec k opened stop) (c'.step sec k opened' stop) := by
  cases stop with
  | record e =>
    obtain ⟨outcome, d, d', hbuild, hbuild', hd⟩ := build_alike hk hc sec e
    simp only [step, hbuild, hbuild']
    cases outcome with
    | error f => exact .failed f hd
    | ok r => exact .yielded r hd
  | enter kind e => exact step_enter_alike hc h sec k kind e
  | reach first level =>
    simp only [step]
    split
    · exact .moved hc h
    · exact .failed _ hc
  | leave =>
    cases h with
    | nil => exact .moved hc .nil
    | cons ho h =>
      cases ho with
      | nothing => exact .moved hc h
      | scope kind => exact .moved (hc.leave kind) h
  | unknown e => exact .failed _ hc

theorem advance_alike (hk : k.Bisimulation R) (sec : Section) (stops : List Stop)
    (hc : Alike R g g' c c') (h : List.Forall₂ (OpenScope.Alike g g') opened opened') :
    (advance sec k stops opened c).1 = (advance sec k stops opened' c').1 ∧
      Traversal.Alike g g' (advance sec k stops opened c).2.1
        (advance sec k stops opened' c').2.1 ∧
      Alike R g g' (advance sec k stops opened c).2.2 (advance sec k stops opened' c').2.2 := by
  induction stops generalizing opened opened' c c' with
  | nil => exact ⟨rfl, .ended, hc.finish h⟩
  | cons stop stops ih =>
    have hstep := step_alike hk hc h sec stop
    unfold advance
    generalize c.step sec k opened stop = outcome at hstep
    generalize c'.step sec k opened' stop = outcome' at hstep
    cases hstep with
    | moved hc h => exact ih hc h
    | yielded r hc => exact ⟨rfl, .paused stops h, hc⟩
    | failed f hc => exact ⟨rfl, .ended, hc.finish h⟩

theorem next_alike (hk : k.Bisimulation R) (sec : Section) {t t' : Traversal}
    (hc : Alike R g g' c c') (h : Traversal.Alike g g' t t') :
    (c.next sec k t).1 = (c'.next sec k t').1 ∧
      Traversal.Alike g g' (c.next sec k t).2.1 (c'.next sec k t').2.1 ∧
      Alike R g g' (c.next sec k t).2.2 (c'.next sec k t').2.2 := by
  cases h with
  | paused stops h => exact advance_alike hk sec stops hc h
  | ended => exact ⟨rfl, .ended, hc⟩

end

end Collector
end Catalog
