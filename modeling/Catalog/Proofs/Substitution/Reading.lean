import Catalog.Proofs.Substitution.Environment
import Catalog.Proofs.Traversal.Carries
/-!
This module contains the proof that an element that binds a variable can be replaced by what is in
it, once the variable is replaced there by its value. A section that can be read is then read to the
same records.
-/

namespace Catalog

open Xml (Element Attribute Node Retext)

variable {sec : Section} {v : Variable} {w : Retext} {limit : Option Nat} {level level' : Nat}
  {around around' : Surroundings}

namespace Lexical

open Reading (Carries carries_refl carries_followedBy carries_of_fault)

mutual

theorem carries_ofNode (sec : Section) (limit : Option Nat) {level level' : Nat}
    (hlevel : level' ≤ level) {around around' : Surroundings}
    (henv : around'.environment sec = around.environment sec)
    (hcommands : around'.commands = around.commands) (n : Node) :
    Carries (ofNode sec limit level around n) (ofNode sec limit level' around' n) := by
  cases n with
  | element tag children =>
    match hkind : ElementKind.ofName tag.name with
    | .record =>
      unfold ofNode
      rw [hkind]
      apply carries_ofRecord
      unfold record
      rw [henv, hcommands]
      apply yields_refl
    | .command =>
      apply carries_command hlevel hkind hkind rfl
      · rw [henv]
        apply yields_refl
      · intro commands _
        apply carries_ofNodes sec limit (Nat.succ_le_succ hlevel)
        · exact henv
        · simp only [Surroundings.inherit, hcommands]
    | .variable =>
      apply carries_variable hlevel hkind hkind rfl
      · rw [henv]
        apply yields_refl
      · intro u _
        apply carries_ofNodes sec limit (Nat.succ_le_succ hlevel)
        · apply Surroundings.environment_bind_of_lookup
          intro name _
          rw [henv]
        · exact hcommands
    | .unknown =>
      unfold ofNode
      rw [hkind]
      apply carries_of_fault
  | text s => apply carries_refl
  | comment s => apply carries_refl
  | instruction target data => apply carries_refl

theorem carries_ofNodes (sec : Section) (limit : Option Nat) {level level' : Nat}
    (hlevel : level' ≤ level) {around around' : Surroundings}
    (henv : around'.environment sec = around.environment sec)
    (hcommands : around'.commands = around.commands) (ns : List Node) :
    Carries (ofNodes sec limit level around ns) (ofNodes sec limit level' around' ns) := by
  cases ns with
  | nil => apply carries_refl
  | cons n ns =>
    unfold ofNodes
    apply carries_followedBy
    · apply carries_ofNode sec limit hlevel henv hcommands
    · apply carries_ofNodes sec limit hlevel henv hcommands

end

mutual

theorem carries_ofNode_replace (limit : Option Nat) (w : Retext) {level level' : Nat}
    (hlevel : level' ≤ level) {around around' : Surroundings}
    (h : (around.environment sec).Replaces (around'.environment sec) v)
    (hcommands : around'.commands = around.commands) (n : Node) :
    Carries (ofNode sec limit level around n)
      (ofNode sec limit level' around' (n.replace v w)) := by
  cases n with
  | element tag children =>
    unfold Node.replace
    match hkind : ElementKind.ofName tag.name with
    | .record =>
      have hkind' : ElementKind.ofName (tag.replace v).name = .record := hkind
      unfold ofNode
      rw [hkind, hkind']
      apply carries_ofRecord
      apply record_replace h hcommands
    | .command =>
      have hkind' : ElementKind.ofName (tag.replaceCommand v).name = .command := by
        rw [tag.name_replaceCommand]
        exact hkind
      simp only
      split
      · next hempty =>
        rw [ofNode_of_isEmpty (.inl hkind) hempty, ofNode_of_isEmpty (.inl hkind) hempty]
        apply carries_refl
      · apply carries_command hlevel hkind hkind'
        · apply Element.isEmpty_elements_replaceAll
        · apply h.ofCommandElement
        · intro commands _
          apply carries_ofNodes_replace limit w (Nat.succ_le_succ hlevel)
          · exact h
          · simp only [Surroundings.inherit, hcommands]
    | .variable =>
      have hkind' : ElementKind.ofName (tag.replaceValue v).name = .variable := hkind
      simp only
      split
      · next hempty =>
        rw [ofNode_of_isEmpty (.inr hkind) hempty, ofNode_of_isEmpty (.inr hkind) hempty]
        apply carries_refl
      · split
        · next hbinds =>
          -- The variable is hidden in the element, whatever is around it.
          apply carries_variable hlevel hkind hkind' rfl
          · apply h.ofVariableElement
          · intro u hvariable
            rw [Environment.binds_of_ofVariableElement hvariable, beq_iff_eq] at hbinds
            apply carries_ofNodes sec limit (Nat.succ_le_succ hlevel)
            · apply Surroundings.environment_bind_of_lookup
              rw [hbinds]
              exact h.others
            · exact hcommands
        · next hbinds =>
          apply carries_variable hlevel hkind hkind'
          · apply Element.isEmpty_elements_replaceAll
          · apply h.ofVariableElement
          · intro u hvariable
            rw [Environment.binds_of_ofVariableElement hvariable, beq_iff_eq] at hbinds
            apply carries_ofNodes_replace limit w (Nat.succ_le_succ hlevel)
            · exact h.bind hbinds
            · exact hcommands
    | .unknown =>
      unfold ofNode
      simp only [hkind]
      apply carries_of_fault
  | text s => apply carries_refl
  | comment s => apply carries_refl
  | instruction target data => apply carries_refl

theorem carries_ofNodes_replace (limit : Option Nat) (w : Retext) {level level' : Nat}
    (hlevel : level' ≤ level) {around around' : Surroundings}
    (h : (around.environment sec).Replaces (around'.environment sec) v)
    (hcommands : around'.commands = around.commands) (ns : List Node) :
    Carries (ofNodes sec limit level around ns)
      (ofNodes sec limit level' around' (Node.replaceAll v w ns)) := by
  cases ns with
  | nil => apply carries_refl
  | cons n ns =>
    unfold Node.replaceAll ofNodes
    apply carries_followedBy
    · apply carries_ofNode_replace limit w hlevel h hcommands
    · apply carries_ofNodes_replace limit w hlevel h hcommands

end

end Lexical
end Catalog
