import Catalog.Proofs.Lexical.Basic
/-!
This module contains what a limit on the depth does to a reading: where the limit is reached the
reading ends, and otherwise it makes no difference.
-/

namespace Catalog

open Xml (Element Node)

namespace Reading

def Limits (n : Nat) (limited full : Reading) : Prop :=
  (∃ first, limited.fault = some ⟨.tooDeep n, first, none⟩ ∧ limited.visits <+: full.visits) ∨
    limited = full

namespace Limits

variable {n : Nat}

theorem refl (reading : Reading) : Limits n reading reading := by
  exact .inr rfl

theorem followedBy {first first' second second' : Reading} (h : Limits n first first')
    (h' : Limits n second second') :
    Limits n (first.followedBy second) (first'.followedBy second') := by
  obtain ⟨e, hfault, hvisits⟩ | rfl := h
  · left
    refine ⟨e, ?_, ?_⟩
    · simp only [Reading.followedBy, hfault]
    · simp only [Reading.followedBy, hfault]
      cases first'.fault with
      | none => exact hvisits.trans (List.prefix_append first'.visits second'.visits)
      | some f => exact hvisits
  · cases hfault : first.fault with
    | some f =>
      right
      simp only [Reading.followedBy, hfault]
    | none =>
      obtain ⟨e, hfault', hvisits⟩ | rfl := h'
      · left
        refine ⟨e, ?_, ?_⟩
        · simp only [Reading.followedBy, hfault, hfault']
        · simp only [Reading.followedBy, hfault]
          exact (List.prefix_append_right_inj first.visits).mpr hvisits
      · exact refl _

end Limits
end Reading

namespace Lexical

theorem limits_ofScope {n level : Nat} {e : Element}
    {opened : Except Fault (Surroundings × List ScopeKind)}
    {inside inside' : Surroundings → Reading}
    (h : ∀ around, Reading.Limits n (inside around) (inside' around)) :
    Reading.Limits n (ofScope (some n) level e opened inside) (ofScope none level e opened inside')
      := by
  unfold ofScope
  cases e.elements with
  | nil => exact .refl _
  | cons first others =>
    cases opened with
    | error f => exact .refl _
    | ok p =>
      obtain ⟨around, scopes⟩ := p
      simp only
      split
      · obtain ⟨e, hfault, hvisits⟩ | heq := h around
        · exact .inl ⟨e, hfault, hvisits⟩
        · rw [heq]
          exact .refl _
      · exact .inl ⟨first, rfl, List.nil_prefix⟩

mutual

theorem limits_ofNode (sec : Section) (n level : Nat) (around : Surroundings) (node : Node) :
    Reading.Limits n (ofNode sec (some n) level around node) (ofNode sec none level around node)
      := by
  cases node with
  | element tag children =>
    unfold ofNode
    split
    · exact .refl _
    · apply limits_ofScope
      intro around
      apply limits_ofNodes
    · apply limits_ofScope
      intro around
      apply limits_ofNodes
    · exact .refl _
  | text _ => exact .refl _
  | comment _ => exact .refl _
  | instruction _ _ => exact .refl _

theorem limits_ofNodes (sec : Section) (n level : Nat) (around : Surroundings)
    (nodes : List Node) :
    Reading.Limits n (ofNodes sec (some n) level around nodes)
      (ofNodes sec none level around nodes) := by
  cases nodes with
  | nil => exact .refl _
  | cons node nodes =>
    unfold ofNodes
    apply Reading.Limits.followedBy
    · apply limits_ofNode
    · apply limits_ofNodes

end

theorem limits_read (sec : Section) (n : Nat) :
    Reading.Limits n (read sec (some n)) (read sec none) := by
  apply limits_ofNodes

end Lexical
end Catalog
