import Catalog.Proofs.Substitution.Reading
/-!
This module contains the replacement of an element that binds a variable by what is in it. A section
that can be read is read to the same records afterwards.
-/

namespace Catalog

open Xml (Element Attribute Node Retext)

inductive Walked (e : Element) : List Node → Prop where
  | here (hkind : ElementKind.ofName e.name = .variable) (helements : ¬ e.elements.isEmpty)
      (rest : List Node) : Walked e (.element e.tag e.children :: rest)
  | later {ns : List Node} (n : Node) (h : Walked e ns) : Walked e (n :: ns)
  | inCommand {tag : Xml.Tag} {children : List Node}
      (hkind : ElementKind.ofName tag.name = .command) (h : Walked e children) (rest : List Node) :
      Walked e (.element tag children :: rest)
  | inVariable {tag : Xml.Tag} {children : List Node}
      (hkind : ElementKind.ofName tag.name = .variable) (h : Walked e children)
      (rest : List Node) : Walked e (.element tag children :: rest)

/--
In a list of nodes with the given surroundings, an element that a walk comes past and that binds a
variable is replaced by what is in it, and the variable by its value there.
-/
inductive Unwraps (sec : Section) (w : Retext) (e : Element) :
    Surroundings → List Node → List Node → Prop where
  | here {around : Surroundings} {v : Variable} (hkind : ElementKind.ofName e.name = .variable)
      (helements : ¬ e.elements.isEmpty)
      (hvariable : (around.environment sec).ofVariableElement e = .ok v) (rest : List Node) :
      Unwraps sec w e around (.element e.tag e.children :: rest)
        (Node.replaceAll v w e.children ++ rest)
  | later {around : Surroundings} {ns ns' : List Node} (n : Node)
      (h : Unwraps sec w e around ns ns') : Unwraps sec w e around (n :: ns) (n :: ns')
  | inCommand {around : Surroundings} {tag : Xml.Tag} {children children' : List Node}
      {commands : List Command} (hkind : ElementKind.ofName tag.name = .command)
      (hcommand : (around.environment sec).ofCommandElement ⟨tag, children⟩ = .ok commands)
      (h : Unwraps sec w e (around.inherit commands) children children') (rest : List Node) :
      Unwraps sec w e around (.element tag children :: rest) (.element tag children' :: rest)
  | inVariable {around : Surroundings} {tag : Xml.Tag} {children children' : List Node}
      {v : Variable} (hkind : ElementKind.ofName tag.name = .variable)
      (hvariable : (around.environment sec).ofVariableElement ⟨tag, children⟩ = .ok v)
      (h : Unwraps sec w e (around.bind v) children children') (rest : List Node) :
      Unwraps sec w e around (.element tag children :: rest) (.element tag children' :: rest)

variable {sec : Section} {w : Retext} {e : Element} {around : Surroundings} {ns ns' : List Node}

theorem Surroundings.replaces_bind (h : sec.settings.substitute = true) (around : Surroundings)
    (v : Variable) : ((around.bind v).environment sec).Replaces (around.environment sec) v := by
  constructor
  · rfl
  · exact h
  · exact h
  · rw [lookup_bind, if_pos rfl]
  · intro name hname
    rw [lookup_bind, if_neg (Ne.symm hname)]

theorem Walked.not_isEmpty (h : Walked e ns) (tag : Xml.Tag) :
    ¬ (Element.mk tag ns).elements.isEmpty := by
  rw [List.isEmpty_iff]
  induction h with
  | here => simp [Element.elements, Node.element?]
  | later n _ ih => exact Element.elements_ne_nil_of_cons ih n
  | inCommand => simp [Element.elements, Node.element?]
  | inVariable => simp [Element.elements, Node.element?]

namespace Unwraps

theorem walked (h : Unwraps sec w e around ns ns') : Walked e ns := by
  induction h with
  | here hkind helements _ rest => exact .here hkind helements rest
  | later n _ ih => exact .later n ih
  | inCommand hkind _ _ rest ih => exact .inCommand hkind ih rest
  | inVariable hkind _ _ rest ih => exact .inVariable hkind ih rest

theorem elements_ne_nil (h : Unwraps sec w e around ns ns') (tag : Xml.Tag) :
    (Element.mk tag ns').elements ≠ [] := by
  induction h with
  | @here around v _ helements _ rest =>
    rw [← Element.isEmpty_elements_replaceAll v w e.tag tag, List.isEmpty_iff] at helements
    rw [Element.elements_append]
    exact List.append_ne_nil_of_left_ne_nil helements _
  | later n _ ih => exact Element.elements_ne_nil_of_cons ih n
  | inCommand => simp [Element.elements, Node.element?]
  | inVariable => simp [Element.elements, Node.element?]

theorem isEmpty_elements (h : Unwraps sec w e around ns ns') (tag : Xml.Tag) :
    (Element.mk tag ns').elements.isEmpty = (Element.mk tag ns).elements.isEmpty := by
  rw [List.isEmpty_eq_false_iff.mpr (h.elements_ne_nil tag),
    Bool.eq_false_of_not_eq_true (h.walked.not_isEmpty tag)]

end Unwraps

namespace Lexical

open Reading (Carries carries_refl carries_followedBy)

theorem carries_of_unwraps (hresolving : sec.settings.substitute = true)
    (h : Unwraps sec w e around ns ns') (limit : Option Nat) (level : Nat) :
    Carries (ofNodes sec limit level around ns) (ofNodes sec limit level around ns') := by
  induction h generalizing level with
  | @here around v hkind helements hvariable rest =>
    have hkind' : ElementKind.ofName e.tag.name = .variable := hkind
    rw [ofNodes_append, ofNodes]
    refine carries_followedBy ?_ (carries_refl _)
    unfold ofNode
    simp only [hkind', hvariable, Except.map]
    intro hfault
    obtain ⟨inner, scopes, hopened, hdeep, hinside⟩ := exists_of_ofScope helements hfault
    obtain ⟨rfl, rfl⟩ := Prod.mk.inj (Except.ok.inj hopened)
    rw [ofScope_of_ok helements _ _ hdeep]
    exact (carries_ofNodes_replace limit w (Nat.le_succ level)
      (around.replaces_bind hresolving v) rfl e.children hinside).with_scopes _ _
  | later n _ ih =>
    rw [ofNodes, ofNodes]
    exact carries_followedBy (carries_refl _) (ih level)
  | @inCommand around tag children children' commands hkind hcommand h rest ih =>
    rw [ofNodes, ofNodes]
    refine carries_followedBy ?_ (carries_refl _)
    apply carries_command (Nat.le_refl level) hkind hkind (h.isEmpty_elements tag)
    · intro found hfound
      exact (around.environment sec).ofCommandElement_of_tag hfound children'
    · intro found hfound
      obtain rfl := Except.ok.inj (hcommand.symm.trans hfound)
      exact ih (level + 1)
  | @inVariable around tag children children' v hkind hvariable h rest ih =>
    rw [ofNodes, ofNodes]
    refine carries_followedBy ?_ (carries_refl _)
    apply carries_variable (Nat.le_refl level) hkind hkind (h.isEmpty_elements tag)
    · intro found hfound
      exact (around.environment sec).ofVariableElement_of_tag hfound children'
    · intro found hfound
      obtain rfl := Except.ok.inj (hvariable.symm.trans hfound)
      exact ih (level + 1)

theorem exists_unwraps (w : Retext) (h : Walked e ns) {limit : Option Nat} {level : Nat}
    (hfault : (ofNodes sec limit level around ns).fault = none) :
    ∃ ns', Unwraps sec w e around ns ns' := by
  induction h generalizing around level with
  | here hkind helements rest =>
    obtain ⟨v, hvariable, -⟩ :=
      exists_of_variable hkind helements (Reading.fault_of_followedBy hfault).1
    exact ⟨_, .here hkind helements hvariable rest⟩
  | later n _ ih =>
    obtain ⟨ns', hunwraps⟩ := ih (Reading.fault_of_followedBy hfault).2
    exact ⟨_, .later n hunwraps⟩
  | @inCommand tag children hkind h rest ih =>
    obtain ⟨commands, hcommand, hinside⟩ :=
      exists_of_command hkind (h.not_isEmpty tag) (Reading.fault_of_followedBy hfault).1
    obtain ⟨children', hunwraps⟩ := ih hinside
    exact ⟨_, .inCommand hkind hcommand hunwraps rest⟩
  | @inVariable tag children hkind h rest ih =>
    obtain ⟨v, hvariable, hinside⟩ :=
      exists_of_variable hkind (h.not_isEmpty tag) (Reading.fault_of_followedBy hfault).1
    obtain ⟨children', hunwraps⟩ := ih hinside
    exact ⟨_, .inVariable hkind hvariable hunwraps rest⟩

end Lexical

def Section.outer : Element where
  tag := {
    written := ⟨none, "variable"⟩
    attributes := [
      { written := ⟨none, "name"⟩, value := "n" },
      { written := ⟨none, "value"⟩, value := "a$$b" }]
  }
  children := [
    .element {
      written := ⟨none, "variable"⟩
      attributes := [
        { written := ⟨none, "name"⟩, value := "m" },
        { written := ⟨none, "value"⟩, value := "$(n)!" }]
    } [
      .element {
        written := ⟨none, "new"⟩
        attributes := [{ written := ⟨none, "id"⟩, value := "$(m)" }]
      } [
        .element { written := ⟨none, "Title"⟩ } [.text "the $", .text "(n)"]]],
    .element {
      written := ⟨none, "variable"⟩
      attributes := [
        { written := ⟨none, "name"⟩, value := "n" },
        { written := ⟨none, "value"⟩, value := "$(n)2" }]
    } [
      .element {
        written := ⟨none, "new"⟩
        attributes := [{ written := ⟨none, "Title"⟩, value := "$(n)" }]
      } []]]

def Section.inner : List Node := [
  .element {
    written := ⟨none, "variable"⟩
    attributes := [
      { written := ⟨none, "name"⟩, value := "m" },
      { written := ⟨none, "value"⟩, value := "a$$b!" }]
  } [
    .element {
      written := ⟨none, "new"⟩
      attributes := [{ written := ⟨none, "id"⟩, value := "$(m)" }]
    } [
      .element { written := ⟨none, "Title"⟩ } [.text "the a$$b"]]],
  .element {
    written := ⟨none, "variable"⟩
    attributes := [
      { written := ⟨none, "name"⟩, value := "n" },
      { written := ⟨none, "value"⟩, value := "a$$b2" }]
  } [
    .element {
      written := ⟨none, "new"⟩
      attributes := [{ written := ⟨none, "Title"⟩, value := "$(n)" }]
    } []]]

def Section.tagged (children : List Node) : Section where
  element := ⟨{ written := ⟨none, "records"⟩ }, [
    .element {
      written := ⟨none, "set"⟩
      attributes := [{ written := ⟨none, "tag"⟩, value := "old" }]
    } children]⟩
  entity := Titles.entity
  settings := default

def Xml.Retext.single : Retext where
  write _ s := [.text s]
  contents_write _ s := by simp [Node.contents, Node.content]

namespace Collector

variable {σ : Type}

/--
In a section that can be read, every element that binds a variable and that a walk comes past can be
replaced by what is in it, if the variable is replaced there by its value, with every `$` of the
value written twice. The section is then read to the same records. Elements that bind the same
variable again hide it.
-/
theorem drain_unwrapped (hresolving : sec.settings.substitute = true) {k : Keeper σ}
    {c : Collector σ} (hread : (c.drain sec k .fresh).2.1 = none) (w : Retext)
    (h : Walked e sec.element.children) :
    (∃ children, Unwraps sec w e {} sec.element.children children) ∧
      ∀ children, Unwraps sec w e {} sec.element.children children →
        let unwrapped : Section := { sec with element := { sec.element with children } }
        (c.drain unwrapped k .fresh).1 = (c.drain sec k .fresh).1 ∧
          (c.drain unwrapped k .fresh).2.1 = none ∧
          ∀ (reader reader' : Collector Shelf) (rs : List Record),
            (reader.readRecords sec).1 = .ok rs → (reader'.readRecords unwrapped).1 = .ok rs := by
  refine ⟨Lexical.exists_unwraps w h (fault_of_drain hread), ?_⟩
  intro children hunwraps unwrapped
  have hcarries : Reading.Carries (Lexical.read sec (some sec.settings.maxDepth))
      (Lexical.read unwrapped (some unwrapped.settings.maxDepth)) := by
    have hunwrapped : Lexical.read unwrapped (some unwrapped.settings.maxDepth) =
        Lexical.ofNodes sec (some sec.settings.maxDepth) 1 {} children := by
      apply Lexical.ofNodes_with
    rw [hunwrapped]
    exact Lexical.carries_of_unwraps hresolving hunwraps (some sec.settings.maxDepth) 1
  obtain ⟨hrecords, herror⟩ := drain_of_carries hcarries hread
  refine ⟨hrecords, herror, ?_⟩
  intro reader reader' rs hrs
  exact readRecords_of_carries hcarries hrs reader'

theorem drain_unwrapped_tagged :
    let sec := Section.tagged [.element Section.outer.tag Section.outer.children]
    sec.settings.substitute = true ∧
      (Collector.drain { kept := [] } sec .journal .fresh).2.1 = none ∧
      Walked Section.outer sec.element.children ∧
      Unwraps sec .single Section.outer {} sec.element.children
        (Section.tagged Section.inner).element.children ∧
      (Collector.readRecords { kept := {} } (Section.tagged Section.inner)).1 =
        .ok [
          { id := some "a$b!", properties := [("Title", .text "the a$b")], tags := ["old"] },
          { properties := [("Title", .text "a$b2")], tags := ["old"] }] := by
  intro sec
  have hread : (Collector.drain { kept := [] } sec .journal .fresh).2.1 = none := by
    with_unfolding_all rfl
  have hwalked : Walked Section.outer sec.element.children := by
    apply Walked.inCommand rfl
    apply Walked.here rfl
    simp [Element.elements, Node.element?, Section.outer]
  have hunwraps : Unwraps sec .single Section.outer {} sec.element.children
      (Section.tagged Section.inner).element.children := by
    refine .inCommand rfl (show _ = Except.ok [Command.addTag "old"] from ?_) ?_ []
    · with_unfolding_all rfl
    · convert Unwraps.here (v := ⟨"n", "a$b"⟩) ?_ ?_ ?_ [] using 1
      · with_unfolding_all rfl
      · rfl
      · simp [Element.elements, Node.element?, Section.outer]
      · with_unfolding_all rfl
  refine ⟨rfl, hread, hwalked, hunwraps, ?_⟩
  obtain ⟨-, hreads⟩ := drain_unwrapped rfl hread .single hwalked
  apply (hreads _ hunwraps).2.2 { kept := {} }
  with_unfolding_all rfl

end Collector
end Catalog
