import Catalog.Proofs.Substitution.Tree
import Catalog.Proofs.Translation.Transfer
/-!
This module contains the proof that an element in which a variable is replaced by its value means
without the variable what the element itself means with it, if it means anything.
-/

namespace Catalog

open Xml (Element Attribute Node Retext)

namespace Surroundings

variable {sec : Section} {around around' : Surroundings}

theorem lookup_bind (sec : Section) (around : Surroundings) (u : Variable) (name : String) :
    ((around.bind u).environment sec).lookup name =
      if u.name = name then some u.value else (around.environment sec).lookup name := by
  simp only [environment, nearest?, Surroundings.bind, List.find?_cons]
  by_cases h : u.name = name
  · rw [if_pos h, beq_iff_eq.mpr h]
    rfl
  · rw [if_neg h, beq_eq_false_iff_ne.mpr h]

theorem environment_bind_of_lookup (u : Variable)
    (h : ∀ name, name ≠ u.name →
      (around'.environment sec).lookup name = (around.environment sec).lookup name) :
    (around'.bind u).environment sec = (around.bind u).environment sec := by
  have hlookup : ((around'.bind u).environment sec).lookup =
      ((around.bind u).environment sec).lookup := by
    funext name
    rw [lookup_bind, lookup_bind]
    split
    · rfl
    · next hname => exact h name (Ne.symm hname)
  unfold environment at hlookup ⊢
  simp only at hlookup
  rw [hlookup]

end Surroundings

structure Environment.Replaces (env env' : Environment) (v : Variable) : Prop where
  entity : env'.entity = env.entity
  resolving : env.substitute = true
  resolving' : env'.substitute = true
  bound : env.lookup v.name = some v.value
  others : ∀ name, name ≠ v.name → env'.lookup name = env.lookup name

theorem Xml.Attribute.retells_replace (v : Variable) (a : Attribute) :
    a.Retells (Value.replace v) (a.replace v) where
  name := rfl
  value := rfl

namespace Environment

variable (v : Variable)

theorem retells_replaceCommand (tag : Xml.Tag) (children children' : List Node) :
    Retells (Value.replace v) ⟨tag, children⟩ ⟨tag.replaceCommand v, children'⟩ where
  name := tag.name_replaceCommand v
  names := tag.names_replaceCommand v
  attributes hkind := by
    refine ⟨Attribute.replace v, Attribute.retells_replace v, ?_⟩
    have hreplace : tag.replaceCommand v = tag.replace v := if_neg hkind
    unfold Element.attributes
    rw [hreplace]
    rfl
  value hkind := by
    have hreplace : tag.replaceCommand v = tag.replaceValue v := if_pos hkind
    rw [hreplace]
    exact Element.attribute?_replaceValue v tag children children'

theorem retellsChild_replaceInRecord (w : Retext) (e : Element) :
    RetellsChild (Value.replace v) e (e.replaceInRecord v w) := by
  by_cases hattributes : e.attributes = []
  · have hreplace : e.replaceInRecord v w =
        ⟨e.tag, w.write e.children (Value.replace v e.content)⟩ := if_pos (by simp [hattributes])
    rw [hreplace]
    constructor
    · refine Retells.of_map ?_ (Attribute.retells_replace v) ?_
      · rfl
      · rw [hattributes]
        exact hattributes
    · intro _
      apply w.contents_write
  · have hreplace : e.replaceInRecord v w = ⟨e.tag.replaceCommand v, e.children⟩ :=
      if_neg (by simpa using hattributes)
    rw [hreplace]
    constructor
    · apply retells_replaceCommand
    · intro hnil
      contradiction

theorem elements_replaceInRecord (w : Retext) (tag tag' : Xml.Tag) (children : List Node) :
    Element.elements ⟨tag', children.map (Node.replaceInRecord v w)⟩ =
      (Element.elements ⟨tag, children⟩).map (Element.replaceInRecord v w) := by
  unfold Element.elements
  rw [List.filterMap_map, List.map_filterMap]
  congr 1
  funext n
  cases n with
  | element tag children => rfl
  | text s => rfl
  | comment s => rfl
  | instruction target data => rfl

namespace Replaces

variable {env env' : Environment} {v : Variable}

theorem transfers (h : env.Replaces env' v) : Transfers (Value.replace v) env env' where
  findProperty? := by rw [h.entity]
  resolves := by
    intro raw value hvalue
    unfold Resolves at hvalue ⊢
    rw [if_pos h.resolving] at hvalue
    rw [if_pos h.resolving']
    exact Value.resolve?_replace h.bound h.others raw value hvalue

theorem ofCommandElement (h : env.Replaces env' v) (tag : Xml.Tag)
    (children children' : List Node) :
    Yields (env.ofCommandElement ⟨tag, children⟩)
      (env'.ofCommandElement ⟨tag.replaceCommand v, children'⟩) := by
  exact h.transfers.ofCommandElement (retells_replaceCommand v tag children children')

theorem ofVariableElement (h : env.Replaces env' v) (tag : Xml.Tag)
    (children children' : List Node) :
    Yields (env.ofVariableElement ⟨tag, children⟩)
      (env'.ofVariableElement ⟨tag.replaceValue v, children'⟩) := by
  intro u hu
  have hname : Element.attribute? ⟨tag.replaceValue v, children'⟩ "name" =
      (Element.attribute? ⟨tag, children⟩ "name").map (Option.map id) := by
    rw [Element.attribute?_replaceValue_of_ne v (by decide) tag children, Option.map_id,
      Except.map_id]
    rfl
  apply h.transfers.ofVariableElement hname
  · exact Element.attribute?_replaceValue v tag children children'
  · rw [hu]
    rfl

theorem bind {sec : Section} {around around' : Surroundings}
    (h : (around.environment sec).Replaces (around'.environment sec) v) {u : Variable}
    (hne : u.name ≠ v.name) :
    ((around.bind u).environment sec).Replaces ((around'.bind u).environment sec) v := by
  constructor
  · exact h.entity
  · exact h.resolving
  · exact h.resolving'
  · rw [Surroundings.lookup_bind, if_neg hne]
    exact h.bound
  · intro name hname
    rw [Surroundings.lookup_bind, Surroundings.lookup_bind, h.others name hname]

end Replaces

theorem binds_of_ofVariableElement {env : Environment} {e : Element} {u : Variable}
    (h : env.ofVariableElement e = .ok u) (name : String) : e.binds name = (u.name == name) := by
  unfold Element.binds
  rw [(ofVariableElement_eq_ok_iff.mp h).1]

end Environment

namespace Lexical

variable {sec : Section} {around around' : Surroundings} {v : Variable}

theorem record_replace (h : (around.environment sec).Replaces (around'.environment sec) v)
    (hcommands : around'.commands = around.commands) (w : Retext) (tag : Xml.Tag)
    (children : List Node) :
    Yields (record sec around ⟨tag, children⟩)
      (record sec around' ⟨tag.replace v, children.map (Node.replaceInRecord v w)⟩) := by
  unfold record
  rw [hcommands]
  apply yields_bind
  · apply yields_mapM
    intro a
    apply h.transfers.ownAttribute (a.retells_replace v)
  · intro own
    apply yields_bind
    · apply h.transfers.ofChildren (Environment.retellsChild_replaceInRecord v w)
      apply Environment.elements_replaceInRecord
    · intro commands
      apply yields_ok

end Lexical
end Catalog
