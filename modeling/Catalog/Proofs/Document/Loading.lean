import Catalog.Document.Layout
import Catalog.Proofs.Document.Layout
import Catalog.Proofs.Entity.Flat
import Mathlib.Data.List.Induction
import Mathlib.Data.Option.Basic
/-!
This module contains the proof that exactly the trees are loaded that keep to the layout of
documents, as long as no attribute stands in the way whose name cannot be told, and what the
document is that they are loaded as.
-/

namespace Catalog.Document

open Xml (Element)

def entityElements (root : Element) : List Element := root.elements.flatMap (·.elements)

structure EntitiesLayout (es : List Element) : Prop where
  entity : ∀ e ∈ es, EntityLayout e
  base : ∀ before e after, es = before ++ e :: after →
    ∀ base, e.value? "base" = some base → some base ∈ before.map (·.value? "name")
  names : (es.map (·.value? "name")).Nodup

structure Laid (root : Element) : Prop where
  kind : root.name = "document"
  sections : ∀ e ∈ root.elements, e.name = "entities"
  entities : EntitiesLayout (entityElements root)

/--
No attribute that comes in front of one that is asked for has a name that cannot be told.
-/
def Told (root : Element) : Prop := ∀ e ∈ entityElements root, EntityTold e

structure Entry.Of (earlier : List Entry) (e : Element) (entry : Entry) : Prop where
  name : e.value? "name" = some entry.name
  properties : List.Forall₂ IsProperty (named "property" (declarations e))
    entry.entity.own.properties
  vars : List.Forall₂ IsVariable (named "variable" (declarations e)) entry.entity.own.vars
  bases : e.value? "base" = none ∧ entry.entity.bases = [] ∨
    ∃ base ∈ earlier, e.value? "base" = some base.name ∧ entry.entity.bases = base.entity.layers
  records : entry.records = (sections e).getLast?

inductive Entries : List Element → List Entry → Prop
  | nil : Entries [] []
  | snoc {es : List Element} {entries : List Entry} {e : Element} {entry : Entry}
    (h : Entries es entries) (hentry : entry.Of entries e) :
    Entries (es ++ [e]) (entries ++ [entry])

section

variable {es es' : List Element} {e : Element} {entries before after : List Entry} {entry : Entry}

theorem Entries.map_name (h : Entries es entries) :
    entries.map (some ·.name) = es.map (·.value? "name") := by
  induction h with
  | nil => rfl
  | snoc h hentry ih => rw [List.map_append, List.map_append, ih, List.map_singleton,
      List.map_singleton, hentry.name]

theorem Entries.chain_sublist (h : Entries es entries)
    (hentry : entries = before ++ entry :: after) :
    entry.entity.bases.reverse.Sublist (before.map (·.entity.own)) := by
  induction h generalizing before entry after with
  | nil => simp at hentry
  | snoc h hof ih =>
    rename_i es entries e last
    cases after using List.reverseRecOn with
    | nil =>
      obtain ⟨rfl, rfl⟩ := List.append_inj' hentry rfl |>.imp_right List.singleton_inj.mp
      obtain ⟨-, hbases⟩ | ⟨base, hbase, -, hbases⟩ := hof.bases
      · rw [hbases]
        exact List.nil_sublist _
      · obtain ⟨before, after, rfl⟩ := List.append_of_mem hbase
        have hchain := ih rfl
        rw [hbases, Entity.layers, List.reverse_cons, List.map_append, List.map_cons]
        exact hchain.append (List.singleton_sublist.mpr List.mem_cons_self)
    | append_singleton after final =>
      rw [← List.cons_append, ← List.append_assoc] at hentry
      exact ih (List.append_inj' hentry rfl).1

theorem EntitiesLayout.of_append (h : EntitiesLayout (es ++ es')) : EntitiesLayout es := by
  constructor
  · exact (List.forall_mem_append.mp h.entity).1
  · intro before e after hes
    exact h.base before e (after ++ es') (by rw [hes, List.append_assoc, List.cons_append])
  · have hnames := h.names
    rw [List.map_append] at hnames
    exact hnames.of_append_left

theorem EntitiesLayout.snoc (h : EntitiesLayout es) (he : EntityLayout e)
    (hbase : ∀ base, e.value? "base" = some base → some base ∈ es.map (·.value? "name"))
    (hname : e.value? "name" ∉ es.map (·.value? "name")) : EntitiesLayout (es ++ [e]) := by
  constructor
  · exact List.forall_mem_append.mpr ⟨h.entity, List.forall_mem_singleton.mpr he⟩
  · intro before e' after hes
    cases after using List.reverseRecOn with
    | nil =>
      obtain ⟨rfl, rfl⟩ := List.append_inj' hes rfl |>.imp_right List.singleton_inj.mp
      exact hbase
    | append_singleton after final =>
      rw [← List.cons_append, ← List.append_assoc] at hes
      exact h.base before e' after (List.append_inj' hes rfl).1
  · rw [List.map_append, List.map_singleton]
    exact h.names.append (List.nodup_singleton _) (List.disjoint_singleton.mpr hname)

end

section

variable {d d' : Document} {e : Element} {entry : Entry}

theorem exists_entry_of_readBase {base : Option Entity} (h : readBase d e = .ok base) :
    e.Tells "base" ∧ (e.value? "base" = none ∧ base = none ∨
      ∃ entry ∈ d.entries, e.value? "base" = some entry.name ∧ base = some entry.entity) := by
  obtain ⟨found, hfound, h⟩ := bind_eq_ok_iff.mp h
  obtain ⟨htells, hvalue⟩ := told_of_attribute? hfound
  refine ⟨htells, ?_⟩
  cases found with
  | none =>
    obtain rfl : none = base := Except.ok.inj h
    exact .inl ⟨hvalue, rfl⟩
  | some name =>
    obtain ⟨entry, hentry, h⟩ := bind_eq_ok_iff.mp h
    obtain rfl : some entry.entity = base := Except.ok.inj h
    have hget := mapError_eq_ok_iff.mp hentry
    unfold get at hget
    split at hget
    · next found hfind =>
      obtain rfl := Except.ok.inj hget
      have hname := List.find?_some hfind
      rw [beq_iff_eq] at hname
      exact .inr ⟨found, List.mem_of_find?_eq_some hfind, by rw [hvalue, hname], rfl⟩
    · simp at hget

theorem untold_readBase
    (h : ∀ base, e.value? "base" = some base → base ∈ d.entries.map (·.name)) :
    Untold (e.Tells "base") (readBase d e) := by
  unfold readBase
  apply untold_bind (untold_attribute? rfl)
  intro found hfound
  cases found with
  | none => apply untold_ok
  | some base =>
    have hbase := h base (told_of_attribute? hfound).2
    cases hfind : d.find? base with
    | none => exact absurd hbase (find?_eq_none_iff.mp hfind)
    | some entry =>
      simp only [get, hfind]
      apply untold_ok

theorem declare_eq_ok {name : String} {properties : List Property} {vars : List Variable}
    {base : Option Entity} {entity : Entity}
    (h : Entity.declare name properties vars base = .ok entity) :
    entity.name = name ∧ entity.own.properties = properties ∧ entity.own.vars = vars ∧
      entity.bases = (base.map Entity.layers).getD [] := by
  unfold Entity.declare at h
  dsimp only at h
  split at h
  · simp at h
  · split at h
    · simp at h
    · obtain rfl := Except.ok.inj h
      exact ⟨rfl, rfl, rfl, rfl⟩

theorem map_name_of_isProperty {es : List Element} {ps : List Property}
    (h : List.Forall₂ IsProperty es ps) :
    es.map (·.value? "name") = (ps.map (·.name)).map some := by
  induction h with
  | nil => rfl
  | cons hp h ih => rw [List.map_cons, hp.name, ih, List.map_cons, List.map_cons]

theorem map_name_of_isVariable {es : List Element} {vs : List Variable}
    (h : List.Forall₂ IsVariable es vs) :
    es.map (·.value? "name") = (vs.map (·.name)).map some := by
  induction h with
  | nil => rfl
  | cons hv h ih => rw [List.map_cons, hv.name, ih, List.map_cons, List.map_cons]

end

structure Reads (source : Option String) (es : List Element) (d : Document) : Prop where
  layout : EntitiesLayout es
  told : ∀ e ∈ es, EntityTold e
  entries : Entries es d.entries
  source : d.source = source

section

variable {source : Option String} {es es' ss : List Element} {e : Element} {d d' : Document}
  {entry : Entry}

theorem Reads.empty (source : Option String) : Reads source [] (empty source) := by
  constructor
  · constructor
    · simp
    · simp
    · exact List.nodup_nil
  · simp
  · exact .nil
  · rfl

theorem Reads.map_name (h : Reads source es d) :
    d.entries.map (some ·.name) = es.map (·.value? "name") := by
  exact h.entries.map_name

theorem Reads.mem_names_iff (h : Reads source es d) {name : String} :
    some name ∈ es.map (·.value? "name") ↔ name ∈ d.entries.map (·.name) := by
  rw [← h.map_name]
  simp

theorem read_of_readEntity (h : readEntity d e = .ok entry) :
    EntityLayout e ∧ EntityTold e ∧ entry.Of d.entries e := by
  obtain ⟨kind, hkind, h⟩ := bind_eq_ok_iff.mp h
  obtain rfl := name_of_name hkind
  split at h
  · next hentity =>
    obtain ⟨name, hname, h⟩ := bind_eq_ok_iff.mp h
    obtain ⟨base, hbase, h⟩ := bind_eq_ok_iff.mp h
    obtain ⟨draft, hdraft, h⟩ := bind_eq_ok_iff.mp h
    obtain ⟨entity, hdeclare, h⟩ := bind_eq_ok_iff.mp h
    obtain rfl := Except.ok.inj h
    obtain ⟨htoldName, hname⟩ := told_of_required hname
    obtain ⟨htoldBase, hbase⟩ := exists_entry_of_readBase hbase
    obtain ⟨hparts, hreads⟩ := Draft.Reads.of_foldlM_readPart hdraft
    obtain ⟨hentityName, hproperties, hvars, hbases⟩ :=
      declare_eq_ok (mapError_eq_ok_iff.mp hdeclare)
    obtain ⟨ps, hps, hdraftProperties⟩ := hreads.properties
    obtain ⟨vs, hvs, hdraftVars⟩ := hreads.vars
    rw [hdraftProperties, List.nil_append] at hproperties
    rw [hdraftVars, List.nil_append] at hvars
    refine ⟨?_, ?_, ?_⟩
    · constructor
      · exact hentity
      · exact ⟨name, hname⟩
      · exact hparts
      · exact hreads.layout
      · rw [declarations, map_name_of_isProperty hps, ← hproperties]
        exact entity.own.properties_nodup.map (Option.some_injective _)
      · rw [declarations, map_name_of_isVariable hvs, ← hvars]
        exact entity.own.vars_nodup.map (Option.some_injective _)
    · constructor
      · simp [htoldName, htoldBase]
      · exact hreads.told
    · constructor
      · rw [hname, Entry.name, hentityName]
      · rw [hproperties]
        exact hps
      · rw [hvars]
        exact hvs
      · obtain ⟨hnone, rfl⟩ | ⟨base, hmem, hvalue, rfl⟩ := hbase
        · exact .inl ⟨hnone, hbases⟩
        · exact .inr ⟨base, hmem, hvalue, hbases⟩
      · exact hreads.records.trans Option.or_none
  · simp [throw, throwThe, MonadExceptOf.throw] at h

theorem Reads.of_addEntity (h : Reads source es d) (hadd : addEntity d e = .ok d') :
    Reads source (es ++ [e]) d' := by
  obtain ⟨entry, hentry, hadd⟩ := bind_eq_ok_iff.mp hadd
  obtain ⟨hlayout, htold, hof⟩ := read_of_readEntity hentry
  split at hadd
  · next added hadded =>
    obtain rfl := Except.ok.inj hadd
    unfold declare? at hadded
    split at hadded
    · simp at hadded
    · next hfind =>
      obtain rfl := Option.some.inj hadded
      constructor
      · apply h.layout.snoc hlayout
        · intro base hbase
          rw [h.mem_names_iff]
          obtain ⟨hnone, -⟩ | ⟨b, hb, hvalue, -⟩ := hof.bases
          · simp [hnone] at hbase
          · obtain rfl := Option.some.inj (hvalue.symm.trans hbase)
            exact List.mem_map_of_mem hb
        · rw [hof.name, h.mem_names_iff]
          exact find?_eq_none_iff.mp hfind
      · exact List.forall_mem_append.mpr ⟨h.told, List.forall_mem_singleton.mpr htold⟩
      · exact h.entries.snoc hof
      · exact h.source
  · simp [throw, throwThe, MonadExceptOf.throw] at hadd

theorem Reads.of_foldlM_addEntity (h : Reads source es d) (hadd : es'.foldlM addEntity d = .ok d') :
    Reads source (es ++ es') d' := by
  induction es' generalizing es d with
  | nil =>
    obtain rfl : d = d' := Except.ok.inj hadd
    rw [List.append_nil]
    exact h
  | cons e es' ih =>
    rw [List.foldlM_cons] at hadd
    obtain ⟨d₁, he, hadd⟩ := bind_eq_ok_iff.mp hadd
    rw [List.append_cons]
    exact ih (h.of_addEntity he) hadd

theorem Reads.of_addSection (h : Reads source es d) (hadd : addSection d e = .ok d') :
    e.name = "entities" ∧ Reads source (es ++ e.elements) d' := by
  obtain ⟨kind, hkind, hadd⟩ := bind_eq_ok_iff.mp hadd
  obtain rfl := name_of_name hkind
  split at hadd
  · next hentities => exact ⟨hentities, h.of_foldlM_addEntity hadd⟩
  · simp [throw, throwThe, MonadExceptOf.throw] at hadd

theorem Reads.of_foldlM_addSection (h : Reads source es d) (hadd : ss.foldlM addSection d = .ok d') :
    (∀ s ∈ ss, s.name = "entities") ∧ Reads source (es ++ ss.flatMap (·.elements)) d' := by
  induction ss generalizing es d with
  | nil =>
    obtain rfl : d = d' := Except.ok.inj hadd
    rw [List.flatMap_nil, List.append_nil]
    exact ⟨by simp, h⟩
  | cons s ss ih =>
    rw [List.foldlM_cons] at hadd
    obtain ⟨d₁, hs, hadd⟩ := bind_eq_ok_iff.mp hadd
    obtain ⟨hentities, hreads⟩ := h.of_addSection hs
    obtain ⟨hss, hreads⟩ := ih hreads hadd
    rw [List.flatMap_cons, ← List.append_assoc]
    exact ⟨List.forall_mem_cons.mpr ⟨hentities, hss⟩, hreads⟩

theorem reads_of_read {root : Element} (h : read source root = .ok d) :
    Laid root ∧ Reads source (entityElements root) d := by
  obtain ⟨kind, hkind, h⟩ := bind_eq_ok_iff.mp h
  obtain rfl := name_of_name hkind
  split at h
  · next hdocument =>
    obtain ⟨hsections, hreads⟩ := (Reads.empty source).of_foldlM_addSection h
    rw [List.nil_append] at hreads
    exact ⟨⟨hdocument, hsections, hreads.layout⟩, hreads⟩
  · simp [throw, throwThe, MonadExceptOf.throw] at h

theorem untold_readEntity (h : EntityLayout e)
    (hbase : ∀ base, e.value? "base" = some base → base ∈ d.entries.map (·.name)) :
    Untold (EntityTold e) (readEntity d e) := by
  unfold readEntity
  apply untold_name_bind rfl h.kind
  rw [if_pos rfl]
  apply untold_bind
  · exact (untold_required rfl h.name).mono fun htold => htold.entity _ (by simp)
  intro name _
  apply untold_bind
  · exact (untold_readBase hbase).mono fun htold => htold.entity _ (by simp)
  intro base _
  apply untold_bind
  · exact (untold_foldlM_readPart h.parts h.declarations).mono fun htold => htold.declarations
  intro draft hdraft
  -- The names are distinct in the tree, so they are in the draft that has been read.
  obtain ⟨-, hreads⟩ := Draft.Reads.of_foldlM_readPart hdraft
  obtain ⟨ps, hps, hproperties⟩ := hreads.properties
  obtain ⟨vs, hvs, hvars⟩ := hreads.vars
  have hpropertyNames := h.properties
  rw [declarations, map_name_of_isProperty hps] at hpropertyNames
  have hvariableNames := h.vars
  rw [declarations, map_name_of_isVariable hvs] at hvariableNames
  rw [hproperties, List.nil_append, hvars, List.nil_append,
    Entity.declare_of_nodup name hpropertyNames.of_map hvariableNames.of_map base]
  apply untold_ok

theorem Reads.untold_addEntity (h : Reads source es d) (hlayout : EntitiesLayout (es ++ [e])) :
    Untold (EntityTold e) (addEntity d e) := by
  unfold addEntity
  apply untold_bind
  · apply untold_readEntity (hlayout.entity e (by simp))
    intro base hbase
    rw [← h.mem_names_iff]
    exact hlayout.base es e [] rfl base hbase
  · intro entry hentry
    obtain ⟨-, -, hof⟩ := read_of_readEntity hentry
    have hname : d.find? entry.name = none := by
      have hnames := hlayout.names
      rw [List.map_append, List.map_singleton, hof.name, List.nodup_append] at hnames
      rw [find?_eq_none_iff, ← h.mem_names_iff]
      intro hmem
      exact hnames.2.2 _ hmem _ List.mem_cons_self rfl
    have hdeclare : ∃ added, d.declare? entry = some added := by
      unfold declare?
      split
      · next found hfound => simp [hfound] at hname
      · exact ⟨_, rfl⟩
    obtain ⟨added, hadded⟩ := hdeclare
    rw [hadded]
    apply untold_ok

theorem Reads.untold_foldlM_addEntity (h : Reads source es d)
    (hlayout : EntitiesLayout (es ++ es')) :
    Untold (∀ e ∈ es', EntityTold e) (es'.foldlM addEntity d) := by
  induction es' generalizing es d with
  | nil => apply untold_ok
  | cons e es' ih =>
    rw [List.append_cons] at hlayout
    rw [List.foldlM_cons]
    apply untold_bind
    · exact (h.untold_addEntity hlayout.of_append).mono fun htold => htold e List.mem_cons_self
    · intro d₁ hd₁
      apply (ih (h.of_addEntity hd₁) hlayout).mono
      intro htold e' he'
      exact htold e' (List.mem_cons_of_mem e he')

theorem Reads.untold_foldlM_addSection (h : Reads source es d)
    (hsections : ∀ s ∈ ss, s.name = "entities")
    (hlayout : EntitiesLayout (es ++ ss.flatMap (·.elements))) :
    Untold (∀ e ∈ ss.flatMap (·.elements), EntityTold e) (ss.foldlM addSection d) := by
  induction ss generalizing es d with
  | nil => apply untold_ok
  | cons s ss ih =>
    rw [List.flatMap_cons, ← List.append_assoc] at hlayout
    rw [List.foldlM_cons]
    obtain ⟨hs, hss⟩ := List.forall_mem_cons.mp hsections
    rw [List.flatMap_cons]
    apply untold_bind
    · unfold addSection
      apply untold_name_bind rfl hs
      rw [if_pos rfl]
      apply (h.untold_foldlM_addEntity hlayout.of_append).mono
      intro htold
      exact (List.forall_mem_append.mp htold).1
    · intro d₁ hd₁
      obtain ⟨-, hreads⟩ := h.of_addSection hd₁
      apply (ih hreads hss hlayout).mono
      intro htold
      exact (List.forall_mem_append.mp htold).2

theorem untold_read {root : Element} (h : Laid root) : Untold (Told root) (read source root) := by
  unfold read
  apply untold_name_bind rfl h.kind
  rw [if_pos rfl]
  exact (Reads.empty source).untold_foldlM_addSection h.sections h.entities

theorem exists_of_untold {α : Type} {told : Prop} {x : Except Refusal α} (h : Untold told x)
    (htold : told) : ∃ a, x = .ok a := by
  cases hx : x with
  | error r => exact absurd htold (h r hx).2
  | ok a => exact ⟨a, rfl⟩

end

/--
A document that can be loaded: a parser makes a tree of it, this keeps to the layout, and all names
can be told that matter.
-/
def Loadable (tree : Parsed) : Prop := ∃ root, tree = .ok root ∧ Laid root ∧ Told root

section

variable (source : Option String) (tree : Parsed)

theorem reads_of_load {root : Element} {d : Document} (h : load source (.ok root) = .ok d) :
    Laid root ∧ Reads source (entityElements root) d := by
  exact reads_of_read (mapError_eq_ok_iff.mp h)

theorem load_eq_ok_iff : (∃ d, load source tree = .ok d) ↔ Loadable tree := by
  constructor
  · rintro ⟨d, hd⟩
    cases tree with
    | error words => simp [load] at hd
    | ok root =>
      obtain ⟨hlaid, hreads⟩ := reads_of_load source hd
      exact ⟨root, rfl, hlaid, hreads.told⟩
  · rintro ⟨root, rfl, hlaid, htold⟩
    obtain ⟨d, hd⟩ := exists_of_untold (untold_read hlaid) htold
    refine ⟨d, ?_⟩
    rw [load, hd]
    rfl

theorem load_of_not_told {root : Element} (hlaid : Laid root) (htold : ¬ Told root) :
    ∃ n, load source (.ok root) = .error (.load { problem := .malformedName n, source }) := by
  cases hread : read source root with
  | ok d =>
    obtain ⟨-, hreads⟩ := reads_of_read hread
    exact absurd hreads.told htold
  | error r =>
    obtain ⟨⟨n, rfl⟩, -⟩ := untold_read hlaid r hread
    refine ⟨n, ?_⟩
    rw [load, hread]
    rfl

/--
Exactly the trees that keep to the layout are loaded as documents, whatever parser makes them of
bytes, of a text or of a file, unless an attribute stands in front of one that is asked for and its
name cannot be told: then loading ends with this name, although the tree keeps to the layout. A
loaded document has the entities of all sections by their names in document order; each has the
properties and variables of all its declarations in document order, and its base is declared before
it, so that each chain of bases ends.
-/
theorem load_iff_laid :
    ((∃ d, load source tree = .ok d) ↔ Loadable tree) ∧
    (∀ parse bytes, (∃ d, loadBytes parse source bytes = .ok d) ↔ Loadable (parse bytes)) ∧
    (∀ parse text, (∃ d, loadString parse source text = .ok d) ↔
      Loadable (parse text.toUTF8.toList)) ∧
    (∀ parse path, (∃ d, loadFile parse path = .ok d) ↔ Loadable (parse (Path.plain path))) ∧
    ∀ root, tree = .ok root →
      (Laid root → ¬ Told root →
        ∃ n, load source tree = .error (.load { problem := .malformedName n, source })) ∧
      ∀ d, load source tree = .ok d →
        d.source = source ∧
        d.entries.map (some ·.name) = (entityElements root).map (·.value? "name") ∧
        (∀ entry ∈ d.entries, d.find? entry.name = some entry) ∧
        Entries (entityElements root) d.entries ∧
        ∀ before entry after, d.entries = before ++ entry :: after →
          entry.entity.bases.reverse.Sublist (before.map (·.entity.own)) := by
  refine ⟨load_eq_ok_iff source tree, ?_, ?_, ?_, ?_⟩
  · intro parse bytes
    exact load_eq_ok_iff source (parse bytes)
  · intro parse text
    exact load_eq_ok_iff source (parse text.toUTF8.toList)
  · intro parse path
    exact load_eq_ok_iff (some (Path.plain path)) (parse (Path.plain path))
  · rintro root rfl
    refine ⟨load_of_not_told source, ?_⟩
    intro d hd
    obtain ⟨-, hreads⟩ := reads_of_load source hd
    refine ⟨hreads.source, hreads.map_name, ?_, hreads.entries, ?_⟩
    · intro entry hentry
      exact (find?_name_eq_some_iff d.entries_nodup).mpr ⟨hentry, rfl⟩
    · intro before entry after hentries
      exact hreads.entries.chain_sublist hentries

end

def sectioned : Element :=
  let named (name : String) : Xml.Attribute := { written := ⟨none, "name"⟩, value := name }
  ⟨{ written := ⟨none, "document"⟩ }, [
    .element { written := ⟨none, "entities"⟩ } [
      .element { written := ⟨none, "entity"⟩, attributes := [named "A"] } []],
    .element { written := ⟨none, "entities"⟩ } [
      .element {
        written := ⟨none, "entity"⟩
        attributes := [named "B", { written := ⟨none, "base"⟩, value := "A" }]
      } [
        .element { written := ⟨none, "declarations"⟩ } [
          .element { written := ⟨none, "property"⟩, attributes := [named "Title"] } []],
        .element { written := ⟨none, "declarations"⟩ } [
          .element { written := ⟨none, "property"⟩, attributes := [named "Genres"] } []]]]]⟩

theorem load_iff_laid_sectioned :
    Loadable (.ok sectioned) ∧
      ∃ d, load none (.ok sectioned) = .ok d ∧
        d.entries.map (some ·.name) = [some "A", some "B"] ∧
        Entries (entityElements sectioned) d.entries := by
  obtain ⟨hiff, -, -, -, hloaded⟩ := load_iff_laid none (.ok sectioned)
  have hd : ∃ d, load none (.ok sectioned) = .ok d := ⟨_, rfl⟩
  refine ⟨hiff.mp hd, ?_⟩
  obtain ⟨d, hd⟩ := hd
  obtain ⟨-, hnames, -, hentries, -⟩ := (hloaded sectioned rfl).2 d hd
  exact ⟨d, hd, hnames, hentries⟩

def unqualified : Element :=
  ⟨{ written := ⟨none, "document"⟩ }, [
    .element { written := ⟨none, "entities"⟩ } [
      .element {
        written := ⟨none, "entity"⟩
        attributes := [
          { written := ⟨none, "name"⟩, value := "A" },
          { written := ⟨some "x", "n"⟩, value := "1", name := "x:n" }]
      } []]]⟩

theorem load_unqualified :
    Laid unqualified ∧
      load none (.ok unqualified) = .error (.load { problem := .malformedName ⟨"x:n"⟩ }) := by
  refine ⟨⟨rfl, ?_, ?_⟩, by rfl⟩
  · simp [unqualified, Element.elements, Xml.Node.element?, Element.name]
  · apply (Reads.empty none).layout.snoc
    · constructor
      · rfl
      · exact ⟨"A", rfl⟩
      · simp [Element.elements]
      · simp [declarations, named, Element.elements]
      · exact List.nodup_nil
      · exact List.nodup_nil
    · intro base hbase
      have hnone : (none : Option String) = some base := hbase
      simp at hnone
    · exact List.not_mem_nil

end Catalog.Document
