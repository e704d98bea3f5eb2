import Catalog.Collector.Traversal
import Catalog.Proofs.Entity.Defaults
import Catalog.Proofs.Translation.Same
/-!
This module contains what a step of a traversal can do to a collector and to the scopes that the
traversal has open.
-/

namespace Catalog

variable {σ : Type}

structure Environment.Makes (env : Environment) (e : Xml.Element) (inherited commands : List Command)
    (r : Record) : Prop where
  sources : ∃ own children, env.ofAttributes e = .ok (r.id, own) ∧
    env.ofChildren e = .ok children ∧ commands = own ++ children ++ inherited
  record : r = env.entity.make r.id commands

namespace Collector

section

variable {c c' : Collector σ} {sec : Section} {k : Keeper σ}

theorem build_of_ok {e : Xml.Element} {r : Record} (h : c.build sec k e = (.ok r, c')) :
    ∃ commands kept,
      (sec.environment c.present.vars).Makes e c.present.commands.outermostFirst commands r ∧
      k.add r (k.create r.id c.kept) = .ok kept ∧ c' = { c with kept, current := some e } := by
  unfold build at h
  simp only at h
  split at h
  · simp at h
  · next id own hown =>
    split at h
    · simp at h
    · next children hchildren =>
      split at h
      · simp at h
      · next kept hadd =>
        simp only [Prod.mk.injEq, Except.ok.injEq] at h
        obtain rfl : r.id = id := by
          rw [← h.1, Entity.make_id]
        rw [h.1] at hadd
        exact ⟨_, kept, ⟨⟨own, children, hown, hchildren, rfl⟩, h.1.symm⟩, hadd, h.2.symm⟩

theorem build_of_error {e : Xml.Element} {f : Fault} (h : c.build sec k e = (.error f, c')) :
    c' = c ∨ ∃ id, c' = { c with kept := k.create id c.kept } := by
  unfold build at h
  simp only at h
  split at h
  · simp only [Prod.mk.injEq] at h
    exact .inl h.2.symm
  · next id own _ =>
    split at h
    · simp only [Prod.mk.injEq] at h
      exact .inr ⟨id, h.2.symm⟩
    · next children _ =>
      split at h
      · simp only [Prod.mk.injEq] at h
        exact .inr ⟨id, h.2.symm⟩
      · simp at h

variable {opened opened' : List (Option OpenScope)} {stop : Stop}

theorem step_enter_of_tag {kind : ScopeKind} {tag : Xml.Tag} {children : List Xml.Node}
    (h : c.step sec k opened (.enter kind ⟨tag, children⟩) = .moved c' opened')
    (children' : List Xml.Node) :
    c.step sec k opened (.enter kind ⟨tag, children'⟩) = .moved c' opened' := by
  match kind with
  | .command =>
    simp only [step] at h ⊢
    cases hentry : (sec.environment c.present.vars).scopeEntry ⟨tag, children⟩ with
    | error f => simp [hentry] at h
    | ok entry =>
      rw [(sec.environment c.present.vars).scopeEntry_of_tag hentry children']
      rw [hentry] at h
      exact h
  | .variable =>
    simp only [step] at h ⊢
    cases hv : (sec.environment c.present.vars).ofVariableElement ⟨tag, children⟩ with
    | error f => simp [hv] at h
    | ok v =>
      rw [(sec.environment c.present.vars).ofVariableElement_of_tag hv children']
      rw [hv] at h
      exact h

theorem step_reach_of_moved {first : Xml.Element} {level : Nat}
    (h : c.step sec k opened (.reach first level) = .moved c' opened') (first' : Xml.Element) :
    c.step sec k opened (.reach first' level) = .moved c' opened' := by
  simp only [step] at h ⊢
  split at h
  · next hlevel =>
    rw [if_pos hlevel]
    exact h
  · simp at h

theorem step_record_ne_moved (e : Xml.Element) :
    c.step sec k opened (.record e) ≠ .moved c' opened' := by
  intro h
  simp only [step] at h
  split at h
  · simp at h
  · simp at h

theorem step_moved (h : c.step sec k opened stop = .moved c' opened') :
    (∃ e entry, (sec.environment c.present.vars).scopeEntry e = .ok (some entry) ∧
      c' = c.enterCommand entry ∧ opened' = some ⟨c.generation, .command⟩ :: opened) ∨
    (∃ v, c' = c.enterVariable v ∧ opened' = some ⟨c.generation, .variable⟩ :: opened) ∨
    (c' = c ∧ opened' = none :: opened) ∨
    (c' = c ∧ opened' = opened) ∨
    (c' = c ∧ opened = none :: opened') ∨
    (∃ o, c' = c.leave o ∧ opened = some o :: opened') := by
  cases stop with
  | record e => exact absurd h (step_record_ne_moved e)
  | enter kind e =>
    match kind with
    | .command =>
      simp only [step] at h
      split at h
      · simp only [Outcome.moved.injEq] at h
        exact .inr (.inr (.inl ⟨h.1.symm, h.2.symm⟩))
      · next entry hentry =>
        simp only [Outcome.moved.injEq] at h
        exact .inl ⟨e, entry, hentry, h.1.symm, h.2.symm⟩
      · simp at h
    | .variable =>
      simp only [step] at h
      split at h
      · next v _ =>
        simp only [Outcome.moved.injEq] at h
        exact .inr (.inl ⟨v, h.1.symm, h.2.symm⟩)
      · simp at h
  | reach first level =>
    simp only [step] at h
    split at h
    · simp only [Outcome.moved.injEq] at h
      exact .inr (.inr (.inr (.inl ⟨h.1.symm, h.2.symm⟩)))
    · simp at h
  | leave =>
    cases opened with
    | nil =>
      simp only [step, Outcome.moved.injEq] at h
      exact .inr (.inr (.inr (.inl ⟨h.1.symm, h.2.symm⟩)))
    | cons o opened =>
      cases o with
      | none =>
        simp only [step, Outcome.moved.injEq] at h
        exact .inr (.inr (.inr (.inr (.inl ⟨h.1.symm, by rw [h.2]⟩))))
      | some o =>
        simp only [step, Outcome.moved.injEq] at h
        exact .inr (.inr (.inr (.inr (.inr ⟨o, h.1.symm, by rw [h.2]⟩))))
  | unknown e => simp [step] at h

theorem kept_of_moved (h : c.step sec k opened stop = .moved c' opened') : c'.kept = c.kept := by
  obtain ⟨e, entry, -, rfl, -⟩ | ⟨v, rfl, -⟩ | ⟨rfl, -⟩ | ⟨rfl, -⟩ | ⟨rfl, -⟩ | ⟨o, rfl, -⟩ :=
    step_moved h
  · rfl
  · rfl
  · rfl
  · rfl
  · rfl
  · unfold leave
    split
    · rfl
    · rfl

theorem build_of_yielded {e : Xml.Element} {r : Record}
    (h : c.step sec k opened (.record e) = .yielded r c') : c.build sec k e = (.ok r, c') := by
  simp only [step] at h
  split at h
  · next hbuild =>
    simp only [Outcome.yielded.injEq] at h
    rw [hbuild, h.1, h.2]
  · simp at h

theorem step_yielded {r : Record} (h : c.step sec k opened stop = .yielded r c') :
    ∃ e kept, stop = .record e ∧ k.add r (k.create r.id c.kept) = .ok kept ∧
      c' = { c with kept, current := some e } := by
  cases stop with
  | record e =>
    obtain ⟨commands, kept, -, hadd, hc⟩ := build_of_ok (build_of_yielded h)
    exact ⟨e, kept, rfl, hadd, hc⟩
  | enter kind e =>
    match kind with
    | .command =>
      simp only [step] at h
      split at h
      · simp at h
      · simp at h
      · simp at h
    | .variable =>
      simp only [step] at h
      split at h
      · simp at h
      · simp at h
  | reach first level =>
    simp only [step] at h
    split at h
    · simp at h
    · simp at h
  | leave =>
    simp only [step] at h
    split at h
    · simp at h
    · simp at h
    · simp at h
  | unknown e => simp [step] at h

theorem step_failed {f : Fault} (h : c.step sec k opened stop = .failed f c') :
    c' = c ∨ ∃ id, c' = { c with kept := k.create id c.kept } := by
  cases stop with
  | record e =>
    simp only [step] at h
    split at h
    · simp at h
    · next hbuild =>
      simp only [Outcome.failed.injEq] at h
      rw [h.2] at hbuild
      exact build_of_error hbuild
  | enter kind e =>
    match kind with
    | .command =>
      simp only [step] at h
      split at h
      · simp at h
      · simp at h
      · simp only [Outcome.failed.injEq] at h
        exact .inl h.2.symm
    | .variable =>
      simp only [step] at h
      split at h
      · simp at h
      · simp only [Outcome.failed.injEq] at h
        exact .inl h.2.symm
  | reach first level =>
    simp only [step] at h
    split at h
    · simp at h
    · simp only [Outcome.failed.injEq] at h
      exact .inl h.2.symm
  | leave =>
    simp only [step] at h
    split at h
    · simp at h
    · simp at h
    · simp at h
  | unknown e =>
    simp only [step, Outcome.failed.injEq] at h
    exact .inl h.2.symm

end

end Collector
end Catalog
