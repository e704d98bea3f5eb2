import Catalog.Document.Layout
import Catalog.Proofs.Entity.Visible
import Catalog.Proofs.Environment
import Mathlib.Data.List.Forall2
import Mathlib.Data.List.Nodup
/-!
This module contains the layout of an entity, said of the tree of its element alone, and the proof
that reading an element which keeps to the layout can fail for one reason only: the name of an
attribute cannot be told.
-/

namespace Catalog

open Xml (Element Attribute)

namespace Document

def named (name : String) (es : List Element) : List Element := es.filter (·.name == name)

theorem named_append (name : String) (es es' : List Element) :
    named name (es ++ es') = named name es ++ named name es' := by
  exact List.filter_append es es'

def declarations (e : Element) : List Element :=
  (named "declarations" e.elements).flatMap (·.elements)

def sections (e : Element) : List Element := named "records" e.elements

structure PropertyLayout (e : Element) : Prop where
  name : ∃ name, e.value? "name" = some name ∧ name.toLower ∉ ["id", "tag"]
  collection : e.value? "collection" ∈ [none, some "", some "true", some "false"]

structure VariableLayout (e : Element) : Prop where
  name : ∃ name, e.value? "name" = some name
  value : ∃ value, e.value? "value" = some value

def DeclarationLayout (e : Element) : Prop :=
  e.name = "property" ∧ PropertyLayout e ∨ e.name = "variable" ∧ VariableLayout e

structure EntityLayout (e : Element) : Prop where
  kind : e.name = "entity"
  name : ∃ name, e.value? "name" = some name
  parts : ∀ part ∈ e.elements, part.name = "declarations" ∨ part.name = "records"
  declarations : ∀ d ∈ declarations e, DeclarationLayout d
  properties : ((named "property" (Document.declarations e)).map (·.value? "name")).Nodup
  vars : ((named "variable" (Document.declarations e)).map (·.value? "name")).Nodup

structure DeclarationTold (e : Element) : Prop where
  ofProperty : e.name = "property" →
    ∀ name ∈ ["collection", "name", "type", "default"], e.Tells name
  ofVariable : e.name = "variable" → ∀ name ∈ ["name", "value"], e.Tells name

structure EntityTold (e : Element) : Prop where
  entity : ∀ name ∈ ["name", "base"], e.Tells name
  declarations : ∀ d ∈ declarations e, DeclarationTold d

structure IsProperty (e : Element) (p : Property) : Prop where
  name : e.value? "name" = some p.name
  type : p.type = ((e.value? "type").filter (· ≠ "")).getD "string"
  default : p.default = e.value? "default"
  collection : p.collection = (e.value? "collection" == some "true")

structure IsVariable (e : Element) (v : Variable) : Prop where
  name : e.value? "name" = some v.name
  value : e.value? "value" = some v.value

section

variable {α β : Type}

def Untold (told : Prop) (x : Except Refusal α) : Prop :=
  ∀ r, x = .error r → (∃ n, r = .ofName n) ∧ ¬ told

theorem untold_ok (told : Prop) (a : α) : Untold told (.ok a) := by
  intro r hr
  simp at hr

theorem Untold.mono {told told' : Prop} {x : Except Refusal α} (h : Untold told x)
    (htold : told' → told) : Untold told' x := by
  intro r hr
  exact ⟨(h r hr).1, fun ht => (h r hr).2 (htold ht)⟩

theorem untold_bind {told : Prop} {x : Except Refusal α} {f : α → Except Refusal β}
    (hx : Untold told x) (hf : ∀ a, x = .ok a → Untold told (f a)) : Untold told (x >>= f) := by
  cases x with
  | error r =>
    intro r' hr'
    obtain rfl : r = r' := Except.error.inj hr'
    exact hx r rfl
  | ok a => exact hf a rfl

end

section

variable {β : Type} {e : Element} {wanted : String}

theorem untold_attribute? (hwanted : Xml.comparable wanted = .ok wanted) :
    Untold (e.Tells wanted) (attribute? e wanted) := by
  intro r hr
  unfold attribute? at hr
  cases hfound : e.attribute? wanted with
  | ok value => simp [hfound, Except.mapError] at hr
  | error n =>
    rw [hfound] at hr
    refine ⟨⟨n, (Except.error.inj hr).symm⟩, ?_⟩
    intro htells
    obtain ⟨value, hvalue⟩ := Element.exists_attribute?_of_tells hwanted htells
    simp [hfound] at hvalue

theorem told_of_attribute? {value : Option String} (h : attribute? e wanted = .ok value) :
    e.Tells wanted ∧ e.value? wanted = value := by
  exact Element.tells_and_value?_of_attribute? (mapError_eq_ok_iff.mp h)

theorem untold_required (hwanted : Xml.comparable wanted = .ok wanted)
    (h : ∃ value, e.value? wanted = some value) : Untold (e.Tells wanted) (required e wanted) := by
  unfold required
  apply untold_bind (untold_attribute? hwanted)
  intro found hfound
  obtain ⟨value, hvalue⟩ := h
  obtain rfl : some value = found := hvalue.symm.trans (told_of_attribute? hfound).2
  apply untold_ok

theorem told_of_required {value : String} (h : required e wanted = .ok value) :
    e.Tells wanted ∧ e.value? wanted = some value := by
  obtain ⟨found, hfound, h⟩ := bind_eq_ok_iff.mp h
  obtain ⟨htells, hvalue⟩ := told_of_attribute? hfound
  cases found with
  | none =>
    obtain ⟨name, -, h⟩ := bind_eq_ok_iff.mp h
    simp [throw, throwThe, MonadExceptOf.throw] at h
  | some found =>
    obtain rfl : found = value := Except.ok.inj h
    exact ⟨htells, hvalue⟩

theorem name_of_name {kind : String} (h : name e = .ok kind) : e.name = kind := by
  exact Xml.eq_of_comparable (mapError_eq_ok_iff.mp h)

theorem name_of_comparable {kind : String} (hkind : Xml.comparable kind = .ok kind)
    (h : e.name = kind) : name e = .ok kind := by
  unfold name Element.comparableName
  rw [h, hkind]
  rfl

theorem untold_name_bind {kind : String} {told : Prop} {f : String → Except Refusal β}
    (hkind : Xml.comparable kind = .ok kind) (h : e.name = kind) (hf : Untold told (f kind)) :
    Untold told (name e >>= f) := by
  rw [name_of_comparable hkind h]
  exact hf

theorem untold_collection
    (h : e.value? "collection" ∈ [none, some "", some "true", some "false"]) :
    Untold (e.Tells "collection") (collection e) := by
  unfold collection
  apply untold_bind (untold_attribute? rfl)
  intro found hfound
  rw [(told_of_attribute? hfound).2] at h
  simp only [List.mem_cons, List.not_mem_nil, or_false] at h
  obtain rfl | rfl | rfl | rfl := h
  · apply untold_ok
  · apply untold_ok
  · apply untold_ok
  · apply untold_ok

theorem told_of_collection {b : Bool} (h : collection e = .ok b) :
    e.Tells "collection" ∧ e.value? "collection" ∈ [none, some "", some "true", some "false"] ∧
      b = (e.value? "collection" == some "true") := by
  obtain ⟨found, hfound, h⟩ := bind_eq_ok_iff.mp h
  obtain ⟨htells, hvalue⟩ := told_of_attribute? hfound
  rw [hvalue]
  refine ⟨htells, ?_⟩
  cases found with
  | none =>
    obtain rfl : false = b := Except.ok.inj h
    exact ⟨by simp, rfl⟩
  | some value =>
    simp only at h
    split at h
    · next htrue =>
      obtain rfl : true = b := Except.ok.inj h
      simp [htrue]
    · next htrue =>
      split at h
      · next hfalse =>
        obtain rfl : false = b := Except.ok.inj h
        simp only [Bool.or_eq_true, decide_eq_true_eq] at hfalse
        obtain rfl | rfl := hfalse
        · exact ⟨by simp, rfl⟩
        · exact ⟨by simp, rfl⟩
      · simp [throw, throwThe, MonadExceptOf.throw] at h

theorem untold_readProperty (h : PropertyLayout e) :
    Untold (∀ name ∈ ["collection", "name", "type", "default"], e.Tells name) (readProperty e) := by
  obtain ⟨name, hname, hreserved⟩ := h.name
  unfold readProperty
  apply untold_bind
  · exact (untold_collection h.collection).mono fun htold => htold _ (by simp)
  · intro collection _
    apply untold_bind
    · exact (untold_required rfl ⟨name, hname⟩).mono fun htold => htold _ (by simp)
    · intro found hfound
      apply untold_bind
      · exact (untold_attribute? rfl).mono fun htold => htold _ (by simp)
      · intro type _
        apply untold_bind
        · exact (untold_attribute? rfl).mono fun htold => htold _ (by simp)
        · intro default _
          obtain rfl : name = found :=
            Option.some.inj (hname.symm.trans (told_of_required hfound).2)
          unfold Property.declare
          rw [dif_pos (isReserved_eq_false_iff.mpr hreserved)]
          apply untold_ok

theorem told_of_readProperty {p : Property} (h : readProperty e = .ok p) :
    (∀ name ∈ ["collection", "name", "type", "default"], e.Tells name) ∧ PropertyLayout e ∧
      IsProperty e p := by
  obtain ⟨collection, hcollection, h⟩ := bind_eq_ok_iff.mp h
  obtain ⟨name, hname, h⟩ := bind_eq_ok_iff.mp h
  obtain ⟨type, htype, h⟩ := bind_eq_ok_iff.mp h
  obtain ⟨default, hdefault, h⟩ := bind_eq_ok_iff.mp h
  obtain ⟨htoldCollection, hallowed, hcollection⟩ := told_of_collection hcollection
  obtain ⟨htoldName, hname⟩ := told_of_required hname
  obtain ⟨htoldType, htype⟩ := told_of_attribute? htype
  obtain ⟨htoldDefault, hdefault⟩ := told_of_attribute? hdefault
  have hdeclare := mapError_eq_ok_iff.mp h
  unfold Property.declare at hdeclare
  split at hdeclare
  · next hreserved =>
    obtain rfl := Except.ok.inj hdeclare
    refine ⟨?_, ⟨⟨name, hname, ?_⟩, hallowed⟩, ?_⟩
    · simp [htoldCollection, htoldName, htoldType, htoldDefault]
    · exact isReserved_eq_false_iff.mp hreserved
    · constructor
      · exact hname
      · rw [htype]
      · exact hdefault.symm
      · exact hcollection
  · simp at hdeclare

theorem untold_readVariable (h : VariableLayout e) :
    Untold (∀ name ∈ ["name", "value"], e.Tells name) (readVariable e) := by
  unfold readVariable
  apply untold_bind
  · exact (untold_required rfl h.name).mono fun htold => htold _ (by simp)
  · intro name _
    apply untold_bind
    · exact (untold_required rfl h.value).mono fun htold => htold _ (by simp)
    · intro value _
      apply untold_ok

theorem told_of_readVariable {v : Variable} (h : readVariable e = .ok v) :
    (∀ name ∈ ["name", "value"], e.Tells name) ∧ VariableLayout e ∧ IsVariable e v := by
  obtain ⟨name, hname, h⟩ := bind_eq_ok_iff.mp h
  obtain ⟨value, hvalue, h⟩ := bind_eq_ok_iff.mp h
  obtain ⟨htold, hname⟩ := told_of_required hname
  obtain ⟨htold', hvalue⟩ := told_of_required hvalue
  obtain rfl := Except.ok.inj h
  exact ⟨by simp [htold, htold'], ⟨⟨name, hname⟩, ⟨value, hvalue⟩⟩, ⟨hname, hvalue⟩⟩

end

structure Draft.Reads (ds ss : List Element) (d d' : Draft) : Prop where
  layout : ∀ e ∈ ds, DeclarationLayout e
  told : ∀ e ∈ ds, DeclarationTold e
  properties : ∃ ps, List.Forall₂ IsProperty (named "property" ds) ps ∧
    d'.properties = d.properties ++ ps
  vars : ∃ vs, List.Forall₂ IsVariable (named "variable" ds) vs ∧ d'.vars = d.vars ++ vs
  records : d'.records = ss.getLast?.or d.records

namespace Draft.Reads

variable {e : Element} {ds ds' ss ss' : List Element} {d d' d'' : Draft}

theorem nothing (d : Draft) : Reads [] [] d d := by
  constructor
  · simp
  · simp
  · exact ⟨[], .nil, by simp⟩
  · exact ⟨[], .nil, by simp⟩
  · rfl

theorem trans (h : Reads ds ss d d') (h' : Reads ds' ss' d' d'') :
    Reads (ds ++ ds') (ss ++ ss') d d'' := by
  obtain ⟨ps, hps, hproperties⟩ := h.properties
  obtain ⟨ps', hps', hproperties'⟩ := h'.properties
  obtain ⟨vs, hvs, hvars⟩ := h.vars
  obtain ⟨vs', hvs', hvars'⟩ := h'.vars
  constructor
  · exact List.forall_mem_append.mpr ⟨h.layout, h'.layout⟩
  · exact List.forall_mem_append.mpr ⟨h.told, h'.told⟩
  · refine ⟨ps ++ ps', ?_, ?_⟩
    · rw [named_append]
      exact List.rel_append hps hps'
    · rw [hproperties', hproperties, List.append_assoc]
  · refine ⟨vs ++ vs', ?_, ?_⟩
    · rw [named_append]
      exact List.rel_append hvs hvs'
    · rw [hvars', hvars, List.append_assoc]
  · rw [h'.records, h.records, List.getLast?_append, Option.or_assoc]

theorem of_property {p : Property} (hkind : e.name = "property") (h : readProperty e = .ok p) :
    Reads [e] [] d { d with properties := d.properties ++ [p] } := by
  obtain ⟨htold, hlayout, hp⟩ := told_of_readProperty h
  constructor
  · exact List.forall_mem_singleton.mpr (.inl ⟨hkind, hlayout⟩)
  · exact List.forall_mem_singleton.mpr ⟨fun _ => htold, by simp [hkind]⟩
  · refine ⟨[p], ?_, rfl⟩
    simpa [named, hkind] using hp
  · refine ⟨[], ?_, by simp⟩
    simp [named, hkind]
  · rfl

theorem of_variable {v : Variable} (hkind : e.name = "variable") (h : readVariable e = .ok v) :
    Reads [e] [] d { d with vars := d.vars ++ [v] } := by
  obtain ⟨htold, hlayout, hv⟩ := told_of_readVariable h
  constructor
  · exact List.forall_mem_singleton.mpr (.inr ⟨hkind, hlayout⟩)
  · exact List.forall_mem_singleton.mpr ⟨by simp [hkind], fun _ => htold⟩
  · refine ⟨[], ?_, by simp⟩
    simp [named, hkind]
  · refine ⟨[v], ?_, rfl⟩
    simpa [named, hkind] using hv
  · rfl

theorem of_records (d : Draft) (e : Element) : Reads [] [e] d { d with records := some e } := by
  constructor
  · simp
  · simp
  · exact ⟨[], .nil, by simp⟩
  · exact ⟨[], .nil, by simp⟩
  · rfl

theorem of_readDeclaration (h : readDeclaration d e = .ok d') : Reads [e] [] d d' := by
  obtain ⟨kind, hkind, h⟩ := bind_eq_ok_iff.mp h
  obtain rfl := name_of_name hkind
  split at h
  · next hproperty =>
    obtain ⟨p, hp, h⟩ := bind_eq_ok_iff.mp h
    obtain rfl := Except.ok.inj h
    exact of_property hproperty hp
  · split at h
    · next hvariable =>
      obtain ⟨v, hv, h⟩ := bind_eq_ok_iff.mp h
      obtain rfl := Except.ok.inj h
      exact of_variable hvariable hv
    · simp [throw, throwThe, MonadExceptOf.throw] at h

theorem of_foldlM_readDeclaration (h : ds.foldlM readDeclaration d = .ok d') :
    Reads ds [] d d' := by
  induction ds generalizing d with
  | nil =>
    obtain rfl : d = d' := Except.ok.inj h
    exact nothing d
  | cons e ds ih =>
    rw [List.foldlM_cons] at h
    obtain ⟨d₁, he, h⟩ := bind_eq_ok_iff.mp h
    exact (of_readDeclaration he).trans (ih h)

end Draft.Reads

section

variable {e : Element} {d d' : Draft} {entity : String}

theorem untold_readDeclaration (h : DeclarationLayout e) :
    Untold (DeclarationTold e) (readDeclaration d e) := by
  unfold readDeclaration
  obtain ⟨hkind, hlayout⟩ | ⟨hkind, hlayout⟩ := h
  · apply untold_name_bind rfl hkind
    rw [if_pos rfl]
    apply untold_bind
    · exact (untold_readProperty hlayout).mono fun htold => htold.ofProperty hkind
    · intro p _
      apply untold_ok
  · apply untold_name_bind rfl hkind
    rw [if_neg (by decide), if_pos rfl]
    apply untold_bind
    · exact (untold_readVariable hlayout).mono fun htold => htold.ofVariable hkind
    · intro v _
      apply untold_ok

theorem untold_foldlM {σ : Type} {f : σ → Element → Except Refusal σ} {told : Element → Prop}
    {es : List Element} (h : ∀ e ∈ es, ∀ s, Untold (told e) (f s e)) (s : σ) :
    Untold (∀ e ∈ es, told e) (es.foldlM f s) := by
  induction es generalizing s with
  | nil => apply untold_ok
  | cons e es ih =>
    rw [List.foldlM_cons]
    apply untold_bind
    · exact (h e List.mem_cons_self s).mono fun htold => htold e List.mem_cons_self
    · intro s' _
      refine (ih (fun e' he' => h e' (List.mem_cons_of_mem e he')) s').mono ?_
      intro htold e' he'
      exact htold e' (List.mem_cons_of_mem e he')

theorem untold_readPart (hkind : e.name = "declarations" ∨ e.name = "records")
    (h : e.name = "declarations" → ∀ d ∈ e.elements, DeclarationLayout d) :
    Untold (e.name = "declarations" → ∀ d ∈ e.elements, DeclarationTold d)
      (readPart entity d e) := by
  unfold readPart
  obtain hkind | hkind := hkind
  · apply untold_name_bind rfl hkind
    rw [if_pos rfl]
    refine (untold_foldlM (fun x hx d => untold_readDeclaration (h hkind x hx)) d).mono ?_
    intro htold
    exact htold hkind
  · apply untold_name_bind rfl hkind
    rw [if_neg (by decide), if_pos rfl]
    apply untold_ok

theorem untold_foldlM_readPart {parts : List Element}
    (hkinds : ∀ part ∈ parts, part.name = "declarations" ∨ part.name = "records")
    (h : ∀ d ∈ (named "declarations" parts).flatMap (·.elements), DeclarationLayout d) :
    Untold (∀ d ∈ (named "declarations" parts).flatMap (·.elements), DeclarationTold d)
      (parts.foldlM (readPart entity) d) := by
  have hmem {part x : Element} (hpart : part ∈ parts) (hdeclarations : part.name = "declarations")
      (hx : x ∈ part.elements) : x ∈ (named "declarations" parts).flatMap (·.elements) := by
    apply List.mem_flatMap_of_mem _ hx
    exact List.mem_filter.mpr ⟨hpart, beq_iff_eq.mpr hdeclarations⟩
  have hpart (part : Element) (hpart : part ∈ parts) (d : Draft) :
      Untold (part.name = "declarations" → ∀ x ∈ part.elements, DeclarationTold x)
        (readPart entity d part) := by
    apply untold_readPart (hkinds part hpart)
    intro hdeclarations x hx
    exact h x (hmem hpart hdeclarations hx)
  apply (untold_foldlM hpart d).mono
  intro htold part hpart hdeclarations x hx
  exact htold x (hmem hpart hdeclarations hx)

theorem Draft.Reads.of_readPart (h : readPart entity d e = .ok d') :
    (e.name = "declarations" ∨ e.name = "records") ∧
      Draft.Reads ((named "declarations" [e]).flatMap (·.elements)) (named "records" [e]) d d' := by
  obtain ⟨kind, hkind, h⟩ := bind_eq_ok_iff.mp h
  obtain rfl := name_of_name hkind
  split at h
  · next hdeclarations =>
    refine ⟨.inl hdeclarations, ?_⟩
    simpa [named, hdeclarations] using Draft.Reads.of_foldlM_readDeclaration h
  · split at h
    · next hrecords =>
      obtain rfl := Except.ok.inj h
      refine ⟨.inr hrecords, ?_⟩
      simpa [named, hrecords] using Draft.Reads.of_records d e
    · simp [throw, throwThe, MonadExceptOf.throw] at h

theorem Draft.Reads.of_foldlM_readPart {parts : List Element}
    (h : parts.foldlM (readPart entity) d = .ok d') :
    (∀ part ∈ parts, part.name = "declarations" ∨ part.name = "records") ∧
      Draft.Reads ((named "declarations" parts).flatMap (·.elements)) (named "records" parts)
        d d' := by
  induction parts generalizing d with
  | nil =>
    obtain rfl : d = d' := Except.ok.inj h
    exact ⟨by simp, .nothing d⟩
  | cons part parts ih =>
    rw [List.foldlM_cons] at h
    obtain ⟨d₁, hpart, h⟩ := bind_eq_ok_iff.mp h
    obtain ⟨hkind, hreads⟩ := of_readPart hpart
    obtain ⟨hkinds, hreads'⟩ := ih h
    refine ⟨List.forall_mem_cons.mpr ⟨hkind, hkinds⟩, ?_⟩
    rw [← List.singleton_append, named_append, named_append, List.flatMap_append]
    exact hreads.trans hreads'

end

end Document
end Catalog
