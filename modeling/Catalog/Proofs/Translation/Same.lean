import Catalog.Proofs.Translation.Transfer
/-!
This module contains two cases in which nothing is changed: elements that have the same names and
values are translated alike, whatever else is in them, and so is one element in environments that
find the same properties and resolve values alike.
-/

namespace Catalog

open Xml (Element Attribute Tag Node)

namespace Environment

variable {env env' : Environment} {kind : CommandElement} {e e' : Element}

theorem transfersFaults_refl (env : Environment) : TransfersFaults id env env :=
  transfersFaults_of_eq rfl rfl rfl

theorem TransfersFaults.ofVariableElement_of_attributes (h : TransfersFaults id env env')
    (hattributes : e'.attributes = e.attributes) :
    (env.ofVariableElement e).mapError (Fault.with e') = env'.ofVariableElement e' := by
  have hsame (name : String) : e'.attribute? name = (e.attribute? name).map (Option.map id) := by
    unfold Element.attribute?
    rw [hattributes, Option.map_id, Except.map_id]
    rfl
  have hmap : (fun u : Variable => { u with name := id u.name }) = id := rfl
  have htransfer := h.ofVariableElement (hsame "name") (hsame "value")
  rw [hmap, Except.map_id] at htransfer
  exact htransfer

section

variable (env : Environment)

theorem translate_with (htag : kind ≠ .tag) (e e' : Element) (a : Attribute) :
    (kind.translate env e a).mapError (Fault.with e') = kind.translate env e' a := by
  exact (transfersFaults_refl env).translate htag (.refl a) e e'

theorem ownAttribute_with (e e' : Element) (a : Attribute) :
    (Lexical.ofAttribute env e a).mapError (Fault.with e') = Lexical.ofAttribute env e' a := by
  exact (transfersFaults_refl env).ownAttribute (.refl a) e e'

theorem ofCommandElement_same (hname : e'.name = e.name)
    (hattributes : e'.attributes = e.attributes) :
    (env.ofCommandElement e).mapError (Fault.with e') = env.ofCommandElement e' := by
  exact (transfersFaults_refl env).ofCommandElement (.of_attributes hname hattributes)

theorem ofChild_same (hname : e'.name = e.name) (hattributes : e'.attributes = e.attributes)
    (hcontent : e'.content = e.content) :
    (env.ofChild e).mapError (Fault.with e') = env.ofChild e' := by
  apply (transfersFaults_refl env).ofChild
  exact ⟨.of_attributes hname hattributes, fun _ => hcontent⟩

theorem ofVariableElement_same (hattributes : e'.attributes = e.attributes) :
    (env.ofVariableElement e).mapError (Fault.with e') = env.ofVariableElement e' := by
  exact (transfersFaults_refl env).ofVariableElement_of_attributes hattributes

theorem ofCommandElement_with (tag : Tag) (children children' : List Node) :
    (env.ofCommandElement ⟨tag, children⟩).mapError (Fault.with ⟨tag, children'⟩) =
      env.ofCommandElement ⟨tag, children'⟩ := by
  exact env.ofCommandElement_same rfl rfl

theorem ofVariableElement_with (tag : Tag) (children children' : List Node) :
    (env.ofVariableElement ⟨tag, children⟩).mapError (Fault.with ⟨tag, children'⟩) =
      env.ofVariableElement ⟨tag, children'⟩ := by
  exact env.ofVariableElement_same rfl

variable {tag : Tag} {children : List Node}

theorem ofCommandElement_of_tag {cs : List Command}
    (h : env.ofCommandElement ⟨tag, children⟩ = .ok cs) (children' : List Node) :
    env.ofCommandElement ⟨tag, children'⟩ = .ok cs := by
  rw [← env.ofCommandElement_with tag children children', h]
  rfl

theorem ofVariableElement_of_tag {v : Variable}
    (h : env.ofVariableElement ⟨tag, children⟩ = .ok v) (children' : List Node) :
    env.ofVariableElement ⟨tag, children'⟩ = .ok v := by
  rw [← env.ofVariableElement_with tag children children', h]
  rfl

theorem scopeEntry_of_tag {entry : Option Command}
    (h : env.scopeEntry ⟨tag, children⟩ = .ok entry) (children' : List Node) :
    env.scopeEntry ⟨tag, children'⟩ = .ok entry := by
  obtain ⟨cs, hcs, hjoin⟩ := map_eq_ok_iff.mp h
  rw [scopeEntry, env.ofCommandElement_of_tag hcs children']
  exact congrArg Except.ok hjoin

end

namespace TransfersFaults

variable (h : TransfersFaults id env env')
include h

theorem scopeEntry_eq (e : Element) : env.scopeEntry e = env'.scopeEntry e := by
  unfold scopeEntry
  rw [← env.ofCommandElement_same (e := e) rfl rfl, h.ofCommandElement (.of_attributes rfl rfl)]

theorem ofVariableElement_eq (e : Element) :
    env.ofVariableElement e = env'.ofVariableElement e := by
  rw [← env.ofVariableElement_same (e := e) rfl, h.ofVariableElement_of_attributes rfl]

theorem ofChildren_eq (e : Element) : env.ofChildren e = env'.ofChildren e := by
  have hsame (child : Element) : RetellsChild id child (id child) :=
    ⟨.of_attributes rfl rfl, fun _ => rfl⟩
  have helements := (List.map_id e.elements).symm
  exact ((transfersFaults_refl env).ofChildren hsame helements).symm.trans
    (h.ofChildren hsame helements)

theorem ofAttributes_eq (e : Element) : env.ofAttributes e = env'.ofAttributes e := by
  have hown (a : Attribute) : Lexical.ofAttribute env e a = Lexical.ofAttribute env' e a := by
    rw [← env.ownAttribute_with e e a]
    exact h.ownAttribute (.refl a) e e
  rw [Lexical.ofAttributes_eq, Lexical.ofAttributes_eq, funext hown]

end TransfersFaults

end Environment
end Catalog
