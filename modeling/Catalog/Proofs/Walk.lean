import Catalog.Walk
/-!
This module contains what two walks have in common as far as some record, and what is left of a walk
behind it. The records of a walk are elements of one name.
-/

namespace Catalog

theorem ElementKind.eq_new_of_ofName_eq_record {name : String} (h : ofName name = .record) :
    name = "new" := by
  unfold ofName at h
  split at h
  · next hname => exact hname
  · split at h
    · simp at h
    · split at h
      · simp at h
      · simp at h

theorem CommandElement.comparable_name (c : CommandElement) :
    Xml.comparable c.name = .ok c.name := by
  cases c <;> rfl

theorem CommandElement.comparable_of_ofName? {name : String} {kind : CommandElement}
    (h : ofName? name = some kind) : Xml.comparable name = .ok name := by
  have hname := List.find?_some h
  rw [beq_iff_eq] at hname
  rw [← hname, comparable_name]

theorem ElementKind.isSome_of_ofName_eq_command {name : String} (h : ofName name = .command) :
    (CommandElement.ofName? name).isSome := by
  unfold ofName at h
  split at h
  · simp at h
  · split at h
    · next hcommand => exact hcommand
    · split at h
      · simp at h
      · simp at h

theorem ElementKind.eq_variable_of_ofName_eq_variable {name : String} (h : ofName name = .variable) :
    name = "variable" := by
  unfold ofName at h
  split at h
  · simp at h
  · split at h
    · simp at h
    · split at h
      · next hname => exact hname
      · simp at h

namespace Stop

open Xml (Element Node Tag)

def record? : Stop → Option Element
  | .record e => some e
  | _ => none

def behind : Nat → List Stop → List Stop
  | 0, stops => stops
  | _ + 1, [] => []
  | n + 1, .record _ :: stops => behind n stops
  | n + 1, _ :: stops => behind (n + 1) stops

theorem behind_zero (stops : List Stop) : behind 0 stops = stops := by
  cases stops with
  | nil => rfl
  | cons stop stops => rfl

inductive AlikeUntil : Nat → List Stop → List Stop → Prop where
  | rest (stops stops' : List Stop) : AlikeUntil 0 stops stops'
  | record {n : Nat} {stops stops' : List Stop} (e : Element) (h : AlikeUntil n stops stops') :
    AlikeUntil (n + 1) (.record e :: stops) (.record e :: stops')
  | enter {n : Nat} {stops stops' : List Stop} (kind : ScopeKind) (tag : Tag)
    (children children' : List Node) (h : AlikeUntil (n + 1) stops stops') :
    AlikeUntil (n + 1) (.enter kind ⟨tag, children⟩ :: stops)
      (.enter kind ⟨tag, children'⟩ :: stops')
  | reach {n : Nat} {stops stops' : List Stop} (first first' : Element) (level : Nat)
    (h : AlikeUntil (n + 1) stops stops') :
    AlikeUntil (n + 1) (.reach first level :: stops) (.reach first' level :: stops')
  | leave {n : Nat} {stops stops' : List Stop} (h : AlikeUntil (n + 1) stops stops') :
    AlikeUntil (n + 1) (.leave :: stops) (.leave :: stops')

theorem mem_inside_of_mem_scope {kind : ScopeKind} {scoping e : Element} {level : Nat}
    {inside : List Stop} (h : .record e ∈ scope kind scoping level inside) :
    .record e ∈ inside := by
  unfold scope at h
  split at h
  · simp at h
  · simpa using h

mutual

theorem name_of_mem_ofNode {level : Nat} {node : Node} {e : Element}
    (h : .record e ∈ ofNode level node) : e.name = "new" := by
  cases node with
  | element tag children =>
    unfold ofNode at h
    split at h
    · next hkind =>
      obtain rfl : e = ⟨tag, children⟩ := by simpa using h
      exact ElementKind.eq_new_of_ofName_eq_record hkind
    · exact name_of_mem_ofNodes (mem_inside_of_mem_scope h)
    · exact name_of_mem_ofNodes (mem_inside_of_mem_scope h)
    · simp at h
  | text _ => simp [ofNode] at h
  | comment _ => simp [ofNode] at h
  | instruction _ _ => simp [ofNode] at h

theorem name_of_mem_ofNodes {level : Nat} {nodes : List Node} {e : Element}
    (h : .record e ∈ ofNodes level nodes) : e.name = "new" := by
  cases nodes with
  | nil => simp [ofNodes] at h
  | cons node nodes =>
    unfold ofNodes at h
    rw [List.mem_append] at h
    cases h with
    | inl h => exact name_of_mem_ofNode h
    | inr h => exact name_of_mem_ofNodes h

end

theorem mem_of_mem_records {stops : List Stop} {e : Element}
    (h : e ∈ stops.filterMap record?) : .record e ∈ stops := by
  obtain ⟨stop, hstop, heq⟩ := List.mem_filterMap.mp h
  cases stop with
  | record e' =>
    obtain rfl : e' = e := Option.some.inj heq
    exact hstop
  | enter => simp [record?] at heq
  | reach => simp [record?] at heq
  | leave => simp [record?] at heq
  | unknown => simp [record?] at heq

end Stop
end Catalog
