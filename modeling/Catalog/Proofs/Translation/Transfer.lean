import Catalog.Proofs.Translation.Outcome
/-!
This module contains the proof that what an element is translated to depends on its names and values
only, and on how an environment finds properties and resolves values. Where another environment
finds the same properties, and resolves other values in place of these to the same, an element that
has the other values is translated to the same.
-/

namespace Catalog

open Xml (Element Attribute)

structure Xml.Attribute.Retells (v : String → String) (a a' : Attribute) : Prop where
  name : a'.name = a.name
  value : a'.value = v a.value

theorem Xml.Attribute.Retells.refl (a : Attribute) : a.Retells id a := ⟨rfl, rfl⟩

namespace Environment

/--
Values are resolved in the second environment, changed by `v`, to what they are resolved to in the
first one.
-/
structure Transfers (v : String → String) (env env' : Environment) : Prop where
  findProperty? : env'.entity.findProperty? = env.entity.findProperty?
  resolves : ∀ {raw value}, env.Resolves raw value → env'.Resolves (v raw) value

structure TransfersFaults (v : String → String) (env env' : Environment) : Prop
    extends Transfers v env env' where
  spoils : ∀ {raw err}, env.substitute = true → resolve? env.lookup raw = .error err →
    env'.substitute = true ∧ resolve? env'.lookup (v raw) = .error err

structure Retells (v : String → String) (e e' : Element) : Prop where
  name : e'.name = e.name
  names : e'.attributes.map (·.name) = e.attributes.map (·.name)
  attributes : CommandElement.ofName? e.name ≠ some .tag → ∃ g : Attribute → Attribute,
    (∀ a : Attribute, a.Retells v (g a)) ∧ e'.attributes = e.attributes.map g
  value : CommandElement.ofName? e.name = some .tag →
    e'.attribute? "value" = (e.attribute? "value").map (Option.map v)

structure RetellsChild (v : String → String) (e e' : Element) : Prop extends Retells v e e' where
  content : e.attributes = [] → e'.content = v e.content

variable {v : String → String} {env env' : Environment} {kind : CommandElement} {e e' : Element}
  {a a' : Attribute}

theorem Retells.of_map {g : Attribute → Attribute} (hname : e'.name = e.name)
    (hg : ∀ a : Attribute, a.Retells v (g a)) (hattributes : e'.attributes = e.attributes.map g) :
    Retells v e e' where
  name := hname
  names := by
    rw [hattributes, List.map_map]
    exact List.map_congr_left fun a _ => (hg a).name
  attributes _ := ⟨g, hg, hattributes⟩
  value _ := Element.attribute?_of_map (fun a => (hg a).name) (fun a => (hg a).value) hattributes _

theorem Retells.of_attributes (hname : e'.name = e.name)
    (hattributes : e'.attributes = e.attributes) : Retells id e e' := by
  apply Retells.of_map hname (g := id)
  · exact .refl
  · rw [List.map_id, hattributes]

theorem Retells.comparableNames_eq (h : Retells v e e') :
    e'.comparableNames = e.comparableNames := by
  unfold Element.comparableNames
  rw [h.name, h.names]

theorem Retells.attributes_eq_nil_iff (h : Retells v e e') :
    e'.attributes = [] ↔ e.attributes = [] := by
  rw [← List.map_eq_nil_iff (f := (·.name)), h.names, List.map_eq_nil_iff]

theorem transfersFaults_of_eq (hproperties : env'.entity.findProperty? = env.entity.findProperty?)
    (hsubstitute : env'.substitute = env.substitute) (hlookup : env'.lookup = env.lookup) :
    TransfersFaults id env env' where
  findProperty? := hproperties
  resolves h := by
    unfold Resolves at h ⊢
    rwa [hsubstitute, hlookup]
  spoils hsub h := by
    rw [hsubstitute, hlookup]
    exact ⟨hsub, h⟩

/-!
What elements are translated to
-/

section

variable (h : Transfers v env env')
include h

theorem Transfers.property (ha : a.Retells v a') {found : Option Property}
    (hfound : env.entity.findProperty? a.name = found) :
    env'.entity.findProperty? a'.name = found := by
  rw [h.findProperty?, ha.name]
  exact hfound

theorem Transfers.value (ha : a.Retells v a') {value : String}
    (hvalue : env.Resolves a.value value) : env'.Resolves a'.value value := by
  rw [ha.value]
  exact h.resolves hvalue

theorem Gives.transfer (ha : a.Retells v a') {c : Command} (hgives : env.Gives kind a c) :
    env'.Gives kind a' c := by
  cases hgives with
  | addTag hkind hname hvalue =>
    exact .addTag hkind (ha.name.trans hname) (h.value ha hvalue)
  | set hkind hproperty hcollection hvalue =>
    rw [← ha.name]
    exact .set hkind (h.property ha hproperty) hcollection (h.value ha hvalue)
  | addItem hkind hproperty hcollection hvalue =>
    rw [← ha.name]
    exact .addItem hkind (h.property ha hproperty) hcollection (h.value ha hvalue)
  | append hkind hproperty hvalue =>
    rw [← ha.name]
    exact .append hkind (h.property ha hproperty) (h.value ha hvalue)
  | prepend hkind hproperty hvalue =>
    rw [← ha.name]
    exact .prepend hkind (h.property ha hproperty) (h.value ha hvalue)

theorem GivesAll.transfer (he : Retells v e e') {cs : List Command} (hgives : env.GivesAll e cs) :
    env'.GivesAll e' cs := by
  cases hgives with
  | all hnames hkind htag hcs =>
    rw [← he.comparableNames_eq] at hnames
    have hkind' := hkind
    rw [← he.name] at hkind'
    obtain ⟨g, hg, hattributes⟩ := he.attributes (by simpa [hkind] using htag)
    refine .all hnames hkind' htag ?_
    rw [hattributes, List.forall₂_map_left_iff]
    exact hcs.imp fun a c hc => hc.transfer h (hg a)
  | tag hnames hkind hraw hvalue =>
    have hraw' := he.value hkind
    rw [hraw] at hraw'
    rw [← he.comparableNames_eq] at hnames
    rw [← he.name] at hkind
    exact .tag hnames hkind hraw' (h.resolves hvalue)
  | noTag hnames hkind hraw =>
    have hraw' := he.value hkind
    rw [hraw] at hraw'
    rw [← he.comparableNames_eq] at hnames
    rw [← he.name] at hkind
    exact .noTag hnames hkind hraw'

theorem Transfers.ofCommandElement (he : Retells v e e') :
    Yields (env.ofCommandElement e) (env'.ofCommandElement e') := by
  intro cs hcs
  rw [ofCommandElement_eq_ok_iff_givesAll] at hcs ⊢
  exact hcs.transfer h he

theorem Transfers.ofChild (he : RetellsChild v e e') :
    Yields (env.ofChild e) (env'.ofChild e') := by
  intro cs hcs
  by_cases hattributes : e.attributes = []
  · rw [ofChild_eq_ok_iff hattributes] at hcs
    rw [ofChild_eq_ok_iff (he.attributes_eq_nil_iff.mpr hattributes), he.name,
      he.content hattributes]
    obtain ⟨c, ⟨hname, p, hp, value, hvalue, rfl⟩, rfl⟩ := hcs
    rw [← h.findProperty?] at hp
    exact ⟨_, ⟨hname, p, hp, value, h.resolves hvalue, rfl⟩, rfl⟩
  · rw [ofChild_of_attributes hattributes] at hcs
    rw [ofChild_of_attributes (mt he.attributes_eq_nil_iff.mp hattributes)]
    exact h.ofCommandElement he.toRetells cs hcs

theorem Transfers.ofChildren {g : Element → Element} (hg : ∀ child, RetellsChild v child (g child))
    (helements : e'.elements = e.elements.map g) :
    Yields (env.ofChildren e) (env'.ofChildren e') := by
  intro cs hcs
  rw [ofChildren_eq_ok_iff] at hcs ⊢
  obtain ⟨css, hcss, rfl⟩ := hcs
  refine ⟨css, ?_, rfl⟩
  rw [helements, List.forall₂_map_left_iff]
  exact hcss.imp fun child cs hcs => h.ofChild (hg child) cs hcs

theorem Transfers.ofVariableElement {n : String → String}
    (hname : e'.attribute? "name" = (e.attribute? "name").map (Option.map n))
    (hvalue : e'.attribute? "value" = (e.attribute? "value").map (Option.map v)) :
    Yields ((env.ofVariableElement e).map fun u => { u with name := n u.name })
      (env'.ofVariableElement e') := by
  intro u hu
  obtain ⟨u, hok, rfl⟩ := map_eq_ok_iff.mp hu
  rw [ofVariableElement_eq_ok_iff] at hok ⊢
  obtain ⟨hfound, raw, hraw, hresolves⟩ := hok
  rw [hname, hvalue, hfound, hraw]
  exact ⟨rfl, v raw, rfl, h.resolves hresolves⟩

theorem GivesOwn.transfer (ha : a.Retells v a') {x : String ⊕ Command}
    (hgives : env.GivesOwn a x) : env'.GivesOwn a' x := by
  cases hgives with
  | id hname hid hvalue =>
    rw [← ha.name] at hname hid
    exact .id hname hid (h.value ha hvalue)
  | command hname hid hc =>
    rw [← ha.name] at hname hid
    exact .command hname hid (hc.transfer h ha)

theorem Transfers.ownAttribute (ha : a.Retells v a') (e e' : Element) :
    Yields (Lexical.ofAttribute env e a) (Lexical.ofAttribute env' e' a') := by
  intro x hx
  rw [ownAttribute_eq_ok_iff] at hx ⊢
  exact hx.transfer h ha

end

/-!
Why elements are refused
-/

theorem required_transfer {name : String} {n : String → String} {f : Fault}
    (hname : e'.attribute? name = (e.attribute? name).map (Option.map n))
    (hf : required e name = .error f) : required e' name = .error (f.with e') := by
  rw [required_eq_error_iff] at hf ⊢
  rw [hname]
  obtain ⟨n, hn, rfl⟩ | ⟨hnone, rfl⟩ := hf
  · rw [hn]
    exact .inl ⟨n, rfl, rfl⟩
  · rw [hnone]
    exact .inr ⟨rfl, rfl⟩

section

variable (h : TransfersFaults v env env') {f : Fault}
include h

theorem Rejects.transfer (ha : a.Retells v a') (hrejects : env.Rejects kind e a f) :
    env'.Rejects kind e' a' (f.with e') := by
  unfold Fault.with
  cases hrejects with
  | undefinedProperty hname hproperty =>
    simp only [← ha.name] at hname ⊢
    exact .undefinedProperty hname (h.property ha hproperty)
  | notCollection hkind hproperty hcollection =>
    simp only [← ha.name]
    exact .notCollection hkind (h.property ha hproperty) hcollection
  | badValue hproperty hsubstitute hvalue =>
    obtain ⟨hsubstitute', hvalue'⟩ := h.spoils hsubstitute hvalue
    rw [← ha.value] at hvalue'
    rw [← ha.name, ← h.findProperty?] at hproperty
    simp only [← ha.name]
    exact .badValue hproperty hsubstitute' hvalue'

theorem RejectsAll.transfer (he : Retells v e e') (hrejects : env.RejectsAll e f) :
    env'.RejectsAll e' (f.with e') := by
  cases hrejects with
  | malformedName hnames =>
    rw [← he.comparableNames_eq] at hnames
    exact .malformedName hnames
  | undefinedCommand hnames hkind =>
    unfold Fault.with
    rw [← he.comparableNames_eq] at hnames
    rw [← he.name] at hkind ⊢
    exact .undefinedCommand hnames hkind
  | first hnames hkind htag hattributes hbefore ha =>
    rw [← he.comparableNames_eq] at hnames
    obtain ⟨g, hg, hattributes'⟩ := he.attributes (by simpa [hkind] using htag)
    rw [← he.name] at hkind
    rw [hattributes, List.map_append, List.map_cons] at hattributes'
    refine .first hnames hkind htag hattributes' ?_ (ha.transfer h (hg _))
    rw [List.forall_mem_map]
    intro b hb
    obtain ⟨c, hc⟩ := hbefore b hb
    exact ⟨c, hc.transfer h.toTransfers (hg b)⟩
  | badTag hnames hkind hraw hsubstitute hvalue =>
    obtain ⟨hsubstitute', hvalue'⟩ := h.spoils hsubstitute hvalue
    have hraw' := he.value hkind
    rw [hraw] at hraw'
    rw [← he.comparableNames_eq] at hnames
    rw [← he.name] at hkind
    exact .badTag hnames hkind hraw' hsubstitute' hvalue'

theorem RefusesText.transfer (hname : e'.name = e.name) (hcontent : e'.content = v e.content)
    (hrefuses : env.RefusesText e f) : env'.RefusesText e' (f.with e') := by
  cases hrefuses with
  | malformedName hcomparable =>
    rw [← hname] at hcomparable
    exact .malformedName hcomparable
  | undefinedProperty hcomparable hproperty =>
    unfold Fault.with
    rw [← hname] at hcomparable hproperty ⊢
    rw [← h.findProperty?] at hproperty
    exact .undefinedProperty hcomparable hproperty
  | badValue hcomparable hproperty hsubstitute hvalue =>
    obtain ⟨hsubstitute', hvalue'⟩ := h.spoils hsubstitute hvalue
    rw [← hcontent] at hvalue'
    rw [← hname] at hcomparable hproperty
    rw [← h.findProperty?] at hproperty
    exact .badValue hcomparable hproperty hsubstitute' hvalue'

theorem TransfersFaults.ofCommandElement (he : Retells v e e') :
    (env.ofCommandElement e).mapError (Fault.with e') = env'.ofCommandElement e' := by
  apply mapError_eq_of (h.toTransfers.ofCommandElement he)
  intro f hf
  rw [ofCommandElement_eq_error_iff_rejectsAll] at hf ⊢
  exact hf.transfer h he

theorem TransfersFaults.ofChild (he : RetellsChild v e e') :
    (env.ofChild e).mapError (Fault.with e') = env'.ofChild e' := by
  apply mapError_eq_of (h.toTransfers.ofChild he)
  intro f hf
  by_cases hattributes : e.attributes = []
  · rw [ofChild_eq_error_iff hattributes] at hf
    rw [ofChild_eq_error_iff (he.attributes_eq_nil_iff.mpr hattributes)]
    exact hf.transfer h he.name (he.content hattributes)
  · rw [ofChild_of_attributes hattributes, ofCommandElement_eq_error_iff_rejectsAll] at hf
    rw [ofChild_of_attributes (mt he.attributes_eq_nil_iff.mp hattributes),
      ofCommandElement_eq_error_iff_rejectsAll]
    exact hf.transfer h he.toRetells

theorem TransfersFaults.ofChildren {g : Element → Element}
    (hg : ∀ child, RetellsChild v child (g child)) (helements : e'.elements = e.elements.map g) :
    (env.ofChildren e).mapError (fun f => f.with (g f.element)) = env'.ofChildren e' := by
  apply mapError_eq_of (h.toTransfers.ofChildren hg helements)
  intro f hf
  rw [ofChildren_eq_error_iff] at hf ⊢
  obtain ⟨before, child, after, hchildren, hbefore, hchild⟩ := mapM_eq_error_iff.mp hf
  rw [mapM_eq_error_iff, helements, hchildren]
  refine ⟨before.map g, g child, after.map g, by simp, ?_, ?_⟩
  · rw [List.forall_mem_map]
    intro b hb
    obtain ⟨cs, hcs⟩ := hbefore b hb
    exact ⟨cs, h.toTransfers.ofChild (hg b) cs hcs⟩
  · rw [← h.ofChild (hg child), hchild, element_of_ofChild hchild]
    rfl

theorem TransfersFaults.ofVariableElement {n : String → String}
    (hname : e'.attribute? "name" = (e.attribute? "name").map (Option.map n))
    (hvalue : e'.attribute? "value" = (e.attribute? "value").map (Option.map v)) :
    ((env.ofVariableElement e).map fun u => { u with name := n u.name }).mapError (Fault.with e') =
      env'.ofVariableElement e' := by
  apply mapError_eq_of (h.toTransfers.ofVariableElement hname hvalue)
  intro f hf
  rw [map_eq_error_iff, ofVariableElement_eq_error_iff] at hf
  rw [ofVariableElement_eq_error_iff]
  obtain hf | ⟨name, hfound, hf⟩ := hf
  · exact .inl (required_transfer hname hf)
  · refine .inr ⟨n name, by rw [hname, hfound]; rfl, ?_⟩
    obtain hf | ⟨raw, hraw, hf⟩ := hf
    · exact .inl (required_transfer hvalue hf)
    · refine .inr ⟨v raw, by rw [hvalue, hraw]; rfl, ?_⟩
      rw [value_eq_error_iff] at hf ⊢
      obtain ⟨hsubstitute, err, herr, rfl⟩ := hf
      obtain ⟨hsubstitute', herr'⟩ := h.spoils hsubstitute herr
      exact ⟨hsubstitute', err, herr', rfl⟩

theorem RejectsOwn.transfer (ha : a.Retells v a') (hrejects : env.RejectsOwn e a f) :
    env'.RejectsOwn e' a' (f.with e') := by
  cases hrejects with
  | malformedName hname =>
    rw [← ha.name] at hname
    exact .malformedName hname
  | badId hname hid hsubstitute hvalue =>
    obtain ⟨hsubstitute', hvalue'⟩ := h.spoils hsubstitute hvalue
    unfold Fault.with
    rw [← ha.value] at hvalue'
    rw [← ha.name] at hname hid ⊢
    exact .badId hname hid hsubstitute' hvalue'
  | command hname hid hf =>
    rw [← ha.name] at hname hid
    exact .command hname hid (hf.transfer h ha)

theorem TransfersFaults.translate (htag : kind ≠ .tag) (ha : a.Retells v a') (e e' : Element) :
    (kind.translate env e a).mapError (Fault.with e') = kind.translate env' e' a' := by
  apply mapError_eq_of
  · intro c hc
    rw [translate_eq_ok_iff htag] at hc ⊢
    exact hc.transfer h.toTransfers ha
  · intro f hf
    rw [translate_eq_error_iff htag] at hf ⊢
    exact hf.transfer h ha

theorem TransfersFaults.ownAttribute (ha : a.Retells v a') (e e' : Element) :
    (Lexical.ofAttribute env e a).mapError (Fault.with e') = Lexical.ofAttribute env' e' a' := by
  apply mapError_eq_of (h.toTransfers.ownAttribute ha e e')
  intro f hf
  rw [ownAttribute_eq_error_iff] at hf ⊢
  exact hf.transfer h ha

end

end Environment
end Catalog
