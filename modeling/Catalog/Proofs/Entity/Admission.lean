import Catalog.Proofs.Record.Edit
import Catalog.Proofs.Translation.Outcome
/-!
This module contains the proof that all commands that attributes and elements stand for are about
properties of the entity, and that they set single texts only and add to lists only.
-/

namespace Catalog

open Xml (Element Attribute)

def Edit.Suits (p : Property) : Edit → Prop
  | .set _ => p.collection = false
  | .addItem _ => p.collection = true
  | .append _ => True
  | .prepend _ => True

namespace Entity

variable {entity : Entity}

/--
Commands that an entity admits edit its properties only, each in a way that suits the property.
-/
def Admits (entity : Entity) (cs : List Command) : Prop :=
  ∀ x ∈ Command.editsAll cs, ∃ p, entity.findProperty? x.1 = some p ∧ x.2.Suits p

theorem admits_nil (entity : Entity) : entity.Admits [] := by
  intro x hx
  simp [Command.editsAll] at hx

theorem admits_append {cs ds : List Command} :
    entity.Admits (cs ++ ds) ↔ entity.Admits cs ∧ entity.Admits ds := by
  unfold Admits
  rw [Command.editsAll_append]
  exact List.forall_mem_append

theorem admits_iff {cs : List Command} :
    entity.Admits cs ↔ ∀ c ∈ cs, entity.Admits [c] := by
  induction cs with
  | nil => simp [admits_nil]
  | cons c cs ih =>
    rw [← List.singleton_append, admits_append, ih, List.singleton_append, List.forall_mem_cons]

theorem admits_reverse {cs : List Command} : entity.Admits cs.reverse ↔ entity.Admits cs := by
  rw [admits_iff, admits_iff]
  simp only [List.mem_reverse]

theorem admits_flatten {css : List (List Command)} :
    entity.Admits css.flatten ↔ ∀ cs ∈ css, entity.Admits cs := by
  induction css with
  | nil => simp [admits_nil]
  | cons cs css ih => rw [List.flatten_cons, admits_append, ih, List.forall_mem_cons]

theorem admits_join {cs : List Command} {entry : Command} (h : Command.join cs = some entry) :
    entity.Admits [entry] ↔ entity.Admits cs := by
  unfold Admits
  match cs with
  | [] => simp [Command.join] at h
  | [c] =>
    obtain rfl : c = entry := Option.some.inj h
    rfl
  | c :: d :: cs =>
    obtain rfl : .group (c :: d :: cs) = entry := Option.some.inj h
    simp [Command.editsAll, Command.edits]

theorem admits_edit {c : Command} {name : String} {edit : Edit} {p : Property}
    (hedits : c.edits = [(name, edit)]) (hp : entity.findProperty? name = some p)
    (hsuits : edit.Suits p) : entity.Admits [c] := by
  intro x hx
  rw [Command.editsAll, Command.editsAll, List.append_nil, hedits, List.mem_singleton] at hx
  rw [hx]
  exact ⟨p, hp, hsuits⟩

theorem admits_addTag (tag : String) : entity.Admits [.addTag tag] := by
  intro x hx
  simp [Command.editsAll, Command.edits] at hx

theorem Admits.suits {cs : List Command} (h : entity.Admits cs) {p : Property}
    (hp : p ∈ entity.properties) {edit : Edit} (hedit : edit ∈ Command.editsOf p.name cs) :
    edit.Suits p := by
  obtain ⟨q, hq, hsuits⟩ := h _ (Command.mem_editsOf.mp hedit)
  rw [mem_properties_iff.mp hp, Option.some.injEq] at hq
  rw [hq]
  exact hsuits

theorem Admits.not_addItem {cs : List Command} (h : entity.Admits cs) {p : Property}
    (hp : p ∈ entity.properties) (hcollection : p.collection = false) (item : String) :
    .addItem item ∉ Command.editsOf p.name cs := by
  intro hmem
  have hsuits : p.collection = true := h.suits hp hmem
  simp [hcollection] at hsuits

theorem Admits.not_set {cs : List Command} (h : entity.Admits cs) {p : Property}
    (hp : p ∈ entity.properties) (hcollection : p.collection = true) (value : String) :
    .set value ∉ Command.editsOf p.name cs := by
  intro hmem
  have hsuits : p.collection = false := h.suits hp hmem
  simp [hcollection] at hsuits

end Entity

namespace Environment

variable {env : Environment} {e : Element} {cs : List Command}

theorem assign_admitted {p : Property} {name : String} (h : env.entity.findProperty? name = some p)
    (value : String) : env.entity.Admits [assign p name value] := by
  unfold assign
  cases hcollection : p.collection with
  | true => exact Entity.admits_edit rfl h hcollection
  | false => exact Entity.admits_edit rfl h hcollection

theorem Gives.admitted {kind : CommandElement} {a : Attribute} {c : Command}
    (h : env.Gives kind a c) : env.entity.Admits [c] := by
  cases h with
  | addTag => exact Entity.admits_addTag _
  | set _ hproperty hcollection => exact Entity.admits_edit rfl hproperty hcollection
  | addItem _ hproperty hcollection => exact Entity.admits_edit rfl hproperty hcollection
  | append _ hproperty => exact Entity.admits_edit rfl hproperty trivial
  | prepend _ hproperty => exact Entity.admits_edit rfl hproperty trivial

theorem GivesAll.admitted (h : env.GivesAll e cs) : env.entity.Admits cs := by
  cases h with
  | all _ _ _ hcs =>
    rw [Entity.admits_iff]
    intro c hc
    obtain ⟨a, -, ha⟩ := exists_of_mem_forall₂ hcs hc
    exact ha.admitted
  | tag => exact Entity.admits_addTag _
  | noTag => exact Entity.admits_nil _

theorem ofChild_admitted (h : env.ofChild e = .ok cs) : env.entity.Admits cs := by
  by_cases hattributes : e.attributes = []
  · obtain ⟨c, hassigns, rfl⟩ := (ofChild_eq_ok_iff hattributes).mp h
    obtain ⟨p, hp, value, -, rfl⟩ := hassigns.command
    exact assign_admitted hp value
  · rw [ofChild_of_attributes hattributes, ofCommandElement_eq_ok_iff_givesAll] at h
    exact h.admitted

theorem ofChildren_admitted (h : env.ofChildren e = .ok cs) : env.entity.Admits cs := by
  obtain ⟨css, hcss, rfl⟩ := ofChildren_eq_ok_iff.mp h
  rw [Entity.admits_flatten]
  intro cs hcs
  obtain ⟨child, -, hchild⟩ := exists_of_mem_forall₂ hcss hcs
  exact ofChild_admitted hchild

theorem scopeEntry_admitted {entry : Command} (h : env.scopeEntry e = .ok (some entry)) :
    env.entity.Admits [entry] := by
  obtain ⟨cs, hcs, hjoin⟩ := scopeEntry_eq_ok_iff.mp h
  rw [Entity.admits_join hjoin]
  exact hcs.admitted

theorem ofAttributes_admitted {id : Option String} {own : List Command}
    (h : env.ofAttributes e = .ok (id, own)) : env.entity.Admits own := by
  obtain ⟨found, hfound, heq⟩ := ofAttributes_eq_ok_iff.mp h
  obtain ⟨-, rfl⟩ := Prod.mk.inj heq
  rw [Entity.admits_iff]
  intro c hc
  obtain ⟨x, hx, hright⟩ := List.mem_filterMap.mp hc
  obtain ⟨a, -, ha⟩ := exists_of_mem_forall₂ hfound hx
  cases ha with
  | id => simp at hright
  | command _ _ hc' =>
    obtain rfl := Option.some.inj hright
    exact hc'.admitted

end Environment
end Catalog
