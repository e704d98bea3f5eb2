import Catalog.Proofs.Lexical.Unlimited
import Catalog.Proofs.Tagging.Attributes
import Catalog.Proofs.Traversal.Depth
/-!
This module contains the proof that lexical reading gives to each record the tags of just the
elements that are around its own element, the outermost first.
-/

namespace Catalog

open Xml (Element Node)

structure Lineage where
  outer : List Element
  element : Element

def Lineage.inside (e : Element) (l : Lineage) : Lineage := { l with outer := e :: l.outer }

namespace Xml.Node

mutual

def lineages : Node → List Lineage
  | .element tag children =>
    match ElementKind.ofName tag.name with
    | .record => [⟨[], ⟨tag, children⟩⟩]
    | .command => (lineagesAll children).map (Lineage.inside ⟨tag, children⟩)
    | .variable => (lineagesAll children).map (Lineage.inside ⟨tag, children⟩)
    | .unknown => []
  | .text _ => []
  | .comment _ => []
  | .instruction _ _ => []

def lineagesAll : List Node → List Lineage
  | [] => []
  | n :: ns => n.lineages ++ lineagesAll ns

end

mutual

theorem newLevels_eq (level : Nat) (n : Node) :
    n.newLevels level = n.lineages.map fun l => (l.element, level + l.outer.length) := by
  cases n with
  | element tag children =>
    have hinside : newLevelsAll (level + 1) children =
        ((lineagesAll children).map (Lineage.inside ⟨tag, children⟩)).map
          fun l => (l.element, level + l.outer.length) := by
      rw [newLevelsAll_eq, List.map_map]
      congr 1
      funext l
      simp [Lineage.inside]
      omega
    unfold newLevels lineages
    match ElementKind.ofName tag.name with
    | .record => rfl
    | .command => exact hinside
    | .variable => exact hinside
    | .unknown => rfl
  | text s => rfl
  | comment s => rfl
  | instruction target data => rfl

theorem newLevelsAll_eq (level : Nat) (ns : List Node) :
    newLevelsAll level ns = (lineagesAll ns).map fun l => (l.element, level + l.outer.length) := by
  cases ns with
  | nil => rfl
  | cons n ns =>
    unfold newLevelsAll lineagesAll
    rw [List.map_append, newLevels_eq level n, newLevelsAll_eq level ns]

end

theorem lineagesAll_of_elements {tag : Tag} {children : List Node}
    (h : (Element.mk tag children).elements = []) : lineagesAll children = [] := by
  have hlevels := newLevelsAll_of_elements h 1
  rw [newLevelsAll_eq, List.map_eq_nil_iff] at hlevels
  exact hlevels

end Xml.Node

namespace Reading

variable {α β : Type} {P : α → Visit → Prop} {xs xs' : List α}

def Covers (P : α → Visit → Prop) (xs : List α) (reading : Reading) : Prop :=
  ∃ first rest, xs = first ++ rest ∧ List.Forall₂ P first reading.visits ∧
    (reading.fault = none → rest = [])

theorem covers_nil : Covers P [] {} := by
  exact ⟨[], [], rfl, .nil, fun _ => rfl⟩

theorem covers_of_fault (xs : List α) (scopes : List ScopeKind) (f : Fault) :
    Covers P xs { scopes, fault := some f } := by
  exact ⟨[], xs, rfl, .nil, by simp⟩

theorem Covers.followedBy {reading reading' : Reading} (h : Covers P xs reading)
    (h' : Covers P xs' reading') : Covers P (xs ++ xs') (reading.followedBy reading') := by
  obtain ⟨first, rest, rfl, hvisits, hfault⟩ := h
  unfold Reading.followedBy
  cases hfirst : reading.fault with
  | some f =>
    refine ⟨first, rest ++ xs', List.append_assoc first rest xs', hvisits, ?_⟩
    intro hnone
    simp [hfirst] at hnone
  | none =>
    obtain rfl := hfault hfirst
    obtain ⟨first', rest', rfl, hvisits', hfault'⟩ := h'
    refine ⟨first ++ first', rest', ?_, List.rel_append hvisits hvisits', hfault'⟩
    rw [List.append_nil, List.append_assoc]

theorem Covers.map {Q : β → Visit → Prop} {reading : Reading} (h : Covers P xs reading) (f : α → β)
    (hf : ∀ x v, P x v → Q (f x) v) : Covers Q (xs.map f) reading := by
  obtain ⟨first, rest, rfl, hvisits, hfault⟩ := h
  refine ⟨first.map f, rest.map f, List.map_append, ?_, ?_⟩
  · rw [List.forall₂_map_left_iff]
    exact hvisits.imp hf
  · intro hnone
    rw [hfault hnone, List.map_nil]

end Reading

namespace Lexical

variable {sec : Section} {around inner : Surroundings}

/--
Elements that open scopes one inside of the other, with what is around them, what they make of it
for their innermost place, and the tags that they give to the records there.
-/
inductive Encloses (sec : Section) :
    Surroundings → List Element → Surroundings → List String → Prop where
  | nil (around : Surroundings) : Encloses sec around [] around []
  | cons {around inner innermost : Surroundings} {e : Element} {outer : List Element}
    {tags more : List String} (henter : enter sec around e = .ok inner)
    (htags : (around.environment sec).ResolvesAll e.tagging tags)
    (h : Encloses sec inner outer innermost more) :
    Encloses sec around (e :: outer) innermost (tags ++ more)

theorem tags_of_enter {tag : Xml.Tag} {children : List Node} (hscope : tag.OpensScope)
    (h : enter sec around ⟨tag, children⟩ = .ok inner) :
    ∃ tags, (around.environment sec).ResolvesAll (Element.tagging ⟨tag, children⟩) tags ∧
      Command.tagsAll inner.commands.flatten =
        Command.tagsAll around.commands.flatten ++ tags := by
  obtain hkind | hkind := hscope
  · rw [enter_of_command hkind] at h
    obtain ⟨commands, hcommands, rfl⟩ := map_eq_ok_iff.mp h
    refine ⟨_, Environment.resolvesAll_of_ofCommandElement hcommands, ?_⟩
    simp only [Surroundings.inherit, List.flatten_append, List.flatten_singleton,
      Command.tagsAll_append]
  · rw [enter_of_variable hkind] at h
    obtain ⟨v, -, rfl⟩ := map_eq_ok_iff.mp h
    have htagging : Element.tagging ⟨tag, children⟩ = [] :=
      Element.tagging_of_variable (ElementKind.eq_variable_of_ofName_eq_variable hkind)
    refine ⟨[], ?_, (List.append_nil _).symm⟩
    rw [htagging]
    exact .nil

structure Places (sec : Section) (around : Surroundings) (l : Lineage) (v : Visit) : Prop where
  element : v.element = l.element
  record : record sec v.around v.element = .ok v.record
  encloses : ∃ tags, Encloses sec around l.outer v.around tags ∧
    Command.tagsAll v.around.commands.flatten = Command.tagsAll around.commands.flatten ++ tags

theorem Places.inside {tag : Xml.Tag} {children : List Node} {l : Lineage} {v : Visit}
    (h : Places sec inner l v) (hscope : tag.OpensScope)
    (henter : enter sec around ⟨tag, children⟩ = .ok inner) :
    Places sec around (l.inside ⟨tag, children⟩) v := by
  obtain ⟨more, hencloses, hmore⟩ := h.encloses
  obtain ⟨tags, htags, hinner⟩ := tags_of_enter hscope henter
  constructor
  · exact h.element
  · exact h.record
  · refine ⟨tags ++ more, .cons henter htags hencloses, ?_⟩
    rw [hmore, hinner, List.append_assoc]

theorem covers_ofRecord (e : Element) :
    Reading.Covers (Places sec around) [⟨[], e⟩] (ofRecord sec around e) := by
  unfold ofRecord
  cases hrecord : record sec around e with
  | error f => exact Reading.covers_of_fault _ [] f
  | ok r =>
    refine ⟨[⟨[], e⟩], [], rfl, .cons ?_ .nil, fun _ => rfl⟩
    exact ⟨rfl, hrecord, [], .nil around, (List.append_nil _).symm⟩

theorem covers_ofScope {tag : Xml.Tag} {children : List Node} {limit : Option Nat} {level : Nat}
    {opened : Except Fault (Surroundings × List ScopeKind)} {inside : Surroundings → Reading}
    (hscope : tag.OpensScope)
    (henter : enter sec around ⟨tag, children⟩ = opened.map (·.1))
    (hinside : ∀ inner, Reading.Covers (Places sec inner) (Node.lineagesAll children)
      (inside inner)) :
    Reading.Covers (Places sec around)
      ((Node.lineagesAll children).map (Lineage.inside ⟨tag, children⟩))
      (ofScope limit level ⟨tag, children⟩ opened inside) := by
  unfold ofScope
  cases helements : (Element.mk tag children).elements with
  | nil =>
    rw [Node.lineagesAll_of_elements helements]
    exact Reading.covers_nil
  | cons first others =>
    cases opened with
    | error f => exact Reading.covers_of_fault _ [] f
    | ok p =>
      have hcovers := (hinside p.1).map (Lineage.inside ⟨tag, children⟩)
        fun l v hplaces => hplaces.inside hscope henter
      cases limit with
      | none => exact hcovers
      | some n =>
        simp only
        split
        · exact hcovers
        · exact Reading.covers_of_fault _ p.2 _

mutual

theorem covers_ofNode (sec : Section) (limit : Option Nat) (level : Nat) (around : Surroundings)
    (n : Node) :
    Reading.Covers (Places sec around) n.lineages (ofNode sec limit level around n) := by
  cases n with
  | element tag children =>
    unfold ofNode Node.lineages
    match hkind : ElementKind.ofName tag.name with
    | .record => apply covers_ofRecord
    | .command =>
      apply covers_ofScope (.inl hkind)
      · rw [enter_of_command hkind]
        cases (around.environment sec).ofCommandElement ⟨tag, children⟩ with
        | error f => rfl
        | ok commands => rfl
      · intro inner
        apply covers_ofNodes
    | .variable =>
      apply covers_ofScope (.inr hkind)
      · rw [enter_of_variable hkind]
        cases (around.environment sec).ofVariableElement ⟨tag, children⟩ with
        | error f => rfl
        | ok v => rfl
      · intro inner
        apply covers_ofNodes
    | .unknown => exact Reading.covers_of_fault _ [] _
  | text s => exact Reading.covers_nil
  | comment s => exact Reading.covers_nil
  | instruction target data => exact Reading.covers_nil

theorem covers_ofNodes (sec : Section) (limit : Option Nat) (level : Nat) (around : Surroundings)
    (ns : List Node) :
    Reading.Covers (Places sec around) (Node.lineagesAll ns)
      (ofNodes sec limit level around ns) := by
  cases ns with
  | nil => exact Reading.covers_nil
  | cons n ns =>
    unfold ofNodes Node.lineagesAll
    apply Reading.Covers.followedBy
    · apply covers_ofNode
    · apply covers_ofNodes

end

end Lexical
end Catalog
