import Catalog.Proofs.Walk
/-!
This module contains where the elements of a walk are: all of them are below the element that is
walked through, and the level of a walk is the length of the way to its elements.
-/

namespace Catalog

open Xml (Element Node Tag)

namespace Xml.Element

def Below (root e : Element) : Prop := ∃ path, path ≠ [] ∧ root.at? path = some e

theorem at?_concat {root e : Element} {path : List Nat} (h : root.at? path = some e) (i : Nat) :
    root.at? (path ++ [i]) = e.elements[i]? := by
  induction path generalizing root with
  | nil =>
    obtain rfl : root = e := Option.some.inj h
    rw [List.nil_append, at?]
    cases root.elements[i]? with
    | none => rfl
    | some child => rfl
  | cons j path ih =>
    rw [at?] at h
    rw [List.cons_append, at?]
    cases hchild : root.elements[j]? with
    | none => simp [hchild] at h
    | some child =>
      rw [hchild] at h
      exact ih h

theorem below_of_at?_concat {root e : Element} {path : List Nat} {i : Nat}
    (h : root.at? (path ++ [i]) = some e) : root.Below e := by
  exact ⟨path ++ [i], by simp, h⟩

theorem Below.elements {root e child : Element} (h : root.Below e) (hchild : child ∈ e.elements) :
    root.Below child := by
  obtain ⟨path, -, hpath⟩ := h
  obtain ⟨i, hi⟩ := List.mem_iff_getElem?.mp hchild
  apply below_of_at?_concat
  rw [at?_concat hpath i, hi]

end Xml.Element

namespace Stop

inductive Placed (root : Element) : Stop → Prop where
  | record {e : Element} (h : root.Below e) (hname : e.name = "new") : Placed root (.record e)
  | command {e : Element} (h : root.Below e) (hname : (CommandElement.ofName? e.name).isSome) :
    Placed root (.enter .command e)
  | binding {e : Element} (h : root.Below e) (hname : e.name = "variable") :
    Placed root (.enter .variable e)
  | reach {first : Element} {path : List Nat} (h : root.at? (path ++ [0]) = some first) :
    Placed root (.reach first (path.length + 1))
  | leave : Placed root .leave
  | unknown {e : Element} (h : root.Below e) (hname : ElementKind.ofName e.name = .unknown) :
    Placed root (.unknown e)

variable {root : Element}

theorem placed_scope {kind : ScopeKind} {e : Element} {path : List Nat} {i : Nat}
    {inside : List Stop} (h : root.at? (path ++ [i]) = some e) (henter : Placed root (.enter kind e))
    (hinside : ∀ stop ∈ inside, stop.Placed root) :
    ∀ stop ∈ scope kind e (path.length + 1 + 1) inside, stop.Placed root := by
  unfold scope
  cases helements : e.elements with
  | nil => simp
  | cons first others =>
    have hfirst : root.at? (path ++ [i] ++ [0]) = some first := by
      rw [Xml.Element.at?_concat h 0, helements]
      rfl
    have hreach := Placed.reach hfirst
    rw [List.length_append, List.length_singleton] at hreach
    intro stop hstop
    simp only [List.cons_append, List.mem_cons, List.mem_append, List.not_mem_nil, or_false]
      at hstop
    obtain rfl | rfl | hstop | rfl := hstop
    · exact henter
    · exact hreach
    · exact hinside stop hstop
    · exact .leave

mutual

theorem placed_ofNode {path : List Nat} {i : Nat} {node : Node}
    (h : ∀ e, node.element? = some e → root.at? (path ++ [i]) = some e) :
    ∀ stop ∈ ofNode (path.length + 1) node, stop.Placed root := by
  cases node with
  | element tag children =>
    have he : root.at? (path ++ [i]) = some ⟨tag, children⟩ := h _ rfl
    have hbelow := Xml.Element.below_of_at?_concat he
    have hinside : ∀ stop ∈ ofNodes (path.length + 1 + 1) children, stop.Placed root := by
      have hnodes := placed_ofNodes [] children he rfl
      rw [List.length_append, List.length_singleton] at hnodes
      exact hnodes
    unfold ofNode
    split
    · next hkind =>
      have hname : tag.name = "new" := ElementKind.eq_new_of_ofName_eq_record hkind
      simpa using Placed.record hbelow hname
    · next hkind =>
      apply placed_scope he _ hinside
      exact .command hbelow (ElementKind.isSome_of_ofName_eq_command hkind)
    · next hkind =>
      apply placed_scope he _ hinside
      exact .binding hbelow (ElementKind.eq_variable_of_ofName_eq_variable hkind)
    · next hkind =>
      simpa using Placed.unknown hbelow hkind
  | text _ => simp [ofNode]
  | comment _ => simp [ofNode]
  | instruction _ _ => simp [ofNode]

theorem placed_ofNodes {path : List Nat} {parent : Element} (before nodes : List Node)
    (hparent : root.at? path = some parent) (hchildren : parent.children = before ++ nodes) :
    ∀ stop ∈ ofNodes (path.length + 1) nodes, stop.Placed root := by
  cases nodes with
  | nil => simp [ofNodes]
  | cons node nodes =>
    have hnode : ∀ e, node.element? = some e →
        root.at? (path ++ [(before.filterMap Node.element?).length]) = some e := by
      -- Only elements count on the way down, not the text and the comments between them.
      intro e he
      rw [Xml.Element.at?_concat hparent, Xml.Element.elements, hchildren, List.filterMap_append,
        List.filterMap_cons, he]
      simp
    have hothers : parent.children = (before ++ [node]) ++ nodes := by
      rw [hchildren, List.append_assoc]
      rfl
    unfold ofNodes
    intro stop hstop
    rw [List.mem_append] at hstop
    obtain hstop | hstop := hstop
    · exact placed_ofNode hnode stop hstop
    · exact placed_ofNodes (before ++ [node]) nodes hparent hothers stop hstop

end

theorem placed_ofSection (root : Element) : ∀ stop ∈ ofSection root, stop.Placed root := by
  have hroot : root.at? [] = some root := rfl
  exact placed_ofNodes [] root.children hroot rfl

end Stop
end Catalog
