import Catalog.Proofs.Record.Rearrange
import Catalog.Proofs.Rewriting.Assignment
import Catalog.Proofs.Rewriting.Exchange
/-!
This module contains the proof that it does not matter whether properties are given to a record by
attributes of its element, by elements in it, or by attributes of an element with the command `set`.
-/

namespace Catalog

open Xml (Element Attribute Node)

def Xml.Tag.properties (tag : Xml.Tag) : List Attribute :=
  tag.attributes.filter (·.IsProperty)

def Xml.Tag.withoutProperties (tag : Xml.Tag) : Xml.Tag :=
  { tag with attributes := tag.attributes.filter (¬ ·.IsProperty) }

structure Xml.Attribute.MovesTo (a : Attribute) (e : Element) : Prop where
  attributes : e.attributes = []
  name : e.name = a.name
  content : e.content = a.value

namespace Lexical

inductive Splits : List (String ⊕ Command) → List (String ⊕ Command) → List Command → Prop where
  | nil : Splits [] [] []
  | id {own kept : List (String ⊕ Command)} {moved : List Command} (text : String)
      (h : Splits own kept moved) : Splits (.inl text :: own) (.inl text :: kept) moved
  | tag {own kept : List (String ⊕ Command)} {moved : List Command} (text : String)
      (h : Splits own kept moved) :
      Splits (.inr (.addTag text) :: own) (.inr (.addTag text) :: kept) moved
  | property {own kept : List (String ⊕ Command)} {moved : List Command} {c : Command}
      (hc : c.tags = []) (h : Splits own kept moved) : Splits (.inr c :: own) kept (c :: moved)

namespace Splits

open Command (editsAll tagsAll)

variable {own kept : List (String ⊕ Command)} {moved : List Command}

theorem ids_eq (h : Splits own kept moved) :
    own.filterMap Sum.getLeft? = kept.filterMap Sum.getLeft? := by
  induction h with
  | nil => rfl
  | id text _ ih => exact congrArg (text :: ·) ih
  | tag text _ ih => exact ih
  | property _ _ ih => exact ih

theorem editsAll_kept (h : Splits own kept moved) :
    editsAll (kept.filterMap Sum.getRight?) = [] := by
  induction h with
  | nil => rfl
  | id text _ ih => exact ih
  | tag text _ ih => exact ih
  | property _ _ ih => exact ih

theorem editsAll_own (h : Splits own kept moved) :
    editsAll (own.filterMap Sum.getRight?) = editsAll moved := by
  induction h with
  | nil => rfl
  | id text _ ih => exact ih
  | tag text _ ih => exact ih
  | @property _ _ _ c _ _ ih => exact congrArg (c.edits ++ ·) ih

theorem tagsAll_moved (h : Splits own kept moved) : tagsAll moved = [] := by
  induction h with
  | nil => rfl
  | id text _ ih => exact ih
  | tag text _ ih => exact ih
  | property hc _ ih => rw [tagsAll, hc, ih, List.append_nil]

theorem tagsAll_own (h : Splits own kept moved) :
    tagsAll (own.filterMap Sum.getRight?) = tagsAll (kept.filterMap Sum.getRight?) := by
  induction h with
  | nil => rfl
  | id text _ ih => exact ih
  | tag text _ ih => exact congrArg (text :: ·) ih
  | @property own _ _ c hc _ ih =>
    have hcons : (Sum.inr c :: own).filterMap Sum.getRight? = c :: own.filterMap Sum.getRight? :=
      rfl
    rw [hcons, tagsAll, hc, ih, List.nil_append]

theorem make_eq (h : Splits own kept moved) (entity : Entity) (rest : List Command) :
    entity.make (own.filterMap Sum.getLeft?).getLast? (own.filterMap Sum.getRight? ++ rest) =
      entity.make (kept.filterMap Sum.getLeft?).getLast?
        (kept.filterMap Sum.getRight? ++ (moved ++ rest)) := by
  rw [h.ids_eq]
  apply Entity.make_congr
  · rw [Command.editsAll_append, Command.editsAll_append, Command.editsAll_append,
      h.editsAll_kept, h.editsAll_own, List.nil_append]
  · rw [Command.tagsAll_append, Command.tagsAll_append, Command.tagsAll_append,
      h.tagsAll_moved, h.tagsAll_own, List.nil_append]

end Splits

variable {sec : Section} {around : Surroundings} {env : Environment} {e : Element}

theorem id_or_tag_of_not_isProperty {a : Attribute} (h : ¬ a.IsProperty) {x : String ⊕ Command}
    (hx : ofAttribute env e a = .ok x) :
    (∃ text, x = .inl text) ∨ ∃ text, x = .inr (.addTag text) := by
  rw [Environment.ownAttribute_eq_ok_iff] at hx
  cases hx with
  | id => exact .inl ⟨_, rfl⟩
  | command _ hid hc =>
    have htag : a.name = "tag" := by
      by_contra hne
      exact h ⟨hid, hne⟩
    obtain ⟨text, -, rfl⟩ := hc.eq_addTag htag
    exact .inr ⟨text, rfl⟩

theorem exists_splits {as : List Attribute} {own : List (String ⊕ Command)}
    (h : as.mapM (ofAttribute env e) = .ok own) : ∃ kept moved,
      (as.filter (¬ ·.IsProperty)).mapM (ofAttribute env e) = .ok kept ∧
      List.Forall₂ (fun a c => env.Assigns a.name a.value c) (as.filter (·.IsProperty)) moved ∧
      Splits own kept moved := by
  simp only [mapM_eq_ok_iff] at h ⊢
  induction h with
  | nil => exact ⟨[], [], .nil, .nil, .nil⟩
  | @cons a x as own hx _ ih =>
    obtain ⟨kept, moved, hkept, hmoved, hsplits⟩ := ih
    by_cases hproperty : a.IsProperty
    · obtain ⟨c, hc, rfl⟩ := (Environment.lexical_ofAttribute_eq_ok_iff hproperty).mp hx
      refine ⟨kept, c :: moved, ?_, ?_, .property (Command.tags_of_assigns hc) hsplits⟩
      · rwa [List.filter_cons_of_neg (by simpa using hproperty)]
      · rw [List.filter_cons_of_pos (by simpa using hproperty)]
        exact .cons hc hmoved
    · refine ⟨x :: kept, moved, ?_, ?_, ?_⟩
      · rw [List.filter_cons_of_pos (by simpa using hproperty)]
        exact .cons hx hkept
      · rwa [List.filter_cons_of_neg (by simpa using hproperty)]
      · obtain ⟨text, rfl⟩ | ⟨text, rfl⟩ := id_or_tag_of_not_isProperty hproperty hx
        · exact .id text hsplits
        · exact .tag text hsplits

theorem exists_own {as : List Attribute} {kept : List (String ⊕ Command)} {moved : List Command}
    (hkept : (as.filter (¬ ·.IsProperty)).mapM (ofAttribute env e) = .ok kept)
    (hmoved : List.Forall₂ (fun a c => env.Assigns a.name a.value c)
      (as.filter (·.IsProperty)) moved) :
    ∃ own, as.mapM (ofAttribute env e) = .ok own ∧ Splits own kept moved := by
  simp only [mapM_eq_ok_iff] at hkept ⊢
  induction as generalizing kept moved with
  | nil =>
    cases hkept
    cases hmoved
    exact ⟨[], .nil, .nil⟩
  | cons a as ih =>
    by_cases hproperty : a.IsProperty
    · rw [List.filter_cons_of_neg (by simpa using hproperty)] at hkept
      rw [List.filter_cons_of_pos (by simpa using hproperty)] at hmoved
      obtain _ | ⟨hc, hmoved⟩ := hmoved
      obtain ⟨own, hown, hsplits⟩ := ih hmoved hkept
      have hx := (Environment.lexical_ofAttribute_eq_ok_iff (e := e) hproperty).mpr ⟨_, hc, rfl⟩
      exact ⟨_, .cons hx hown, .property (Command.tags_of_assigns hc) hsplits⟩
    · rw [List.filter_cons_of_pos (by simpa using hproperty)] at hkept
      rw [List.filter_cons_of_neg (by simpa using hproperty)] at hmoved
      obtain _ | ⟨hx, hkept⟩ := hkept
      obtain ⟨own, hown, hsplits⟩ := ih hmoved hkept
      refine ⟨_, .cons hx hown, ?_⟩
      obtain ⟨text, rfl⟩ | ⟨text, rfl⟩ := id_or_tag_of_not_isProperty hproperty hx
      · exact .id text hsplits
      · exact .tag text hsplits

theorem record_eq_ok_iff {r : Record} :
    record sec around e = .ok r ↔ ∃ own cs,
      e.attributes.mapM (ofAttribute (around.environment sec) e) = .ok own ∧
      (around.environment sec).ofChildren e = .ok cs ∧
      sec.entity.make (own.filterMap Sum.getLeft?).getLast?
        (own.filterMap Sum.getRight? ++ (cs ++ around.commands.flatten)) = r := by
  unfold record
  simp only [bind_eq_ok_iff, Entity.make_eq, List.append_assoc, pure, Except.pure,
    Except.ok.injEq]
  constructor
  · rintro ⟨own, hown, cs, hcs, rfl⟩
    exact ⟨own, cs, hown, hcs, rfl⟩
  · rintro ⟨own, cs, hown, hcs, rfl⟩
    exact ⟨own, hown, cs, hcs, rfl⟩

theorem ofAttribute_eq_ok_congr (e e' : Element) (a : Attribute) (x : String ⊕ Command) :
    ofAttribute env e a = .ok x ↔ ofAttribute env e' a = .ok x := by
  rw [← env.ownAttribute_with e e']
  constructor
  · intro h
    rw [h]
    rfl
  · exact mapError_eq_ok_iff.mp

theorem mapM_ofAttribute_eq_ok_congr (e e' : Element) {as : List Attribute}
    {own : List (String ⊕ Command)} :
    as.mapM (ofAttribute env e) = .ok own ↔ as.mapM (ofAttribute env e') = .ok own := by
  simp only [mapM_eq_ok_iff, ofAttribute_eq_ok_congr e e']

def Gives (env : Environment) (front : List Element) (as : List Attribute) : Prop :=
  ∀ moved, (∃ css, front.mapM env.ofChild = .ok css ∧ css.flatten = moved) ↔
    List.Forall₂ (fun a c => env.Assigns a.name a.value c) as moved

theorem gives_elements {as : List Attribute} {front : List Element}
    (h : List.Forall₂ Attribute.MovesTo as front) : Gives env front as := by
  unfold Gives
  simp only [mapM_eq_ok_iff]
  induction h with
  | nil =>
    intro moved
    simp [eq_comm]
  | @cons a e as front he _ ih =>
    intro moved
    have hchild (cs : List Command) : env.ofChild e = .ok cs ↔
        ∃ c, env.Assigns a.name a.value c ∧ [c] = cs := by
      rw [Environment.ofChild_eq_ok_iff he.attributes, he.name, he.content]
    constructor
    · rintro ⟨css, hcss, rfl⟩
      obtain _ | ⟨hcs, hcss⟩ := hcss
      obtain ⟨c, hc, rfl⟩ := (hchild _).mp hcs
      exact .cons hc ((ih _).mp ⟨_, hcss, rfl⟩)
    · intro hmoved
      obtain _ | ⟨hc, hmoved⟩ := hmoved
      obtain ⟨css, hcss, rfl⟩ := (ih _).mpr hmoved
      exact ⟨_, .cons ((hchild _).mpr ⟨_, hc, rfl⟩) hcss, rfl⟩

theorem gives_set {as : List Attribute} (hproperty : ∀ a ∈ as, a.IsProperty) (hsome : as ≠ [])
    {e : Element} (hname : e.name = "set") (hattributes : e.attributes = as) :
    Gives env [e] as := by
  subst hattributes
  intro moved
  rw [← Environment.ofChild_set_eq_ok_iff hname hsome hproperty]
  simp only [mapM_eq_ok_iff]
  constructor
  · rintro ⟨css, hcss, rfl⟩
    obtain _ | ⟨hcs, hnil⟩ := hcss
    cases hnil
    rwa [List.flatten_singleton]
  · intro hmoved
    exact ⟨[moved], .cons hmoved .nil, List.flatten_singleton⟩

theorem ofChildren_eq_ok_iff {front : List Element} {tag tag' : Xml.Tag} {children : List Node}
    {cs : List Command} :
    env.ofChildren ⟨tag', front.map Element.node ++ children⟩ = .ok cs ↔
      ∃ css rest, front.mapM env.ofChild = .ok css ∧
        env.ofChildren ⟨tag, children⟩ = .ok rest ∧ css.flatten ++ rest = cs := by
  have helements : (Element.mk tag' (front.map Element.node ++ children)).elements =
      front ++ (Element.mk tag children).elements := by
    have hnode : Node.element? ∘ Element.node = some := rfl
    rw [Element.elements_append, Element.elements, List.filterMap_map, hnode, List.filterMap_some]
    rfl
  simp only [Environment.ofChildren_eq_ok_iff, ← mapM_eq_ok_iff, helements, List.mapM_append,
    bind_eq_ok_iff, pure, Except.pure, Except.ok.injEq]
  constructor
  · rintro ⟨_, ⟨css, hcss, rest, hrest, rfl⟩, rfl⟩
    exact ⟨css, rest.flatten, hcss, ⟨rest, hrest, rfl⟩, List.flatten_append.symm⟩
  · rintro ⟨css, _, hcss, ⟨rest, hrest, rfl⟩, rfl⟩
    exact ⟨css ++ rest, ⟨css, hcss, rest, hrest, rfl⟩, List.flatten_append⟩

theorem record_moved {tag : Xml.Tag} {children : List Node} {front : List Element}
    (h : Gives (around.environment sec) front tag.properties) {r : Record} :
    record sec around ⟨tag.withoutProperties, front.map Element.node ++ children⟩ = .ok r ↔
      record sec around ⟨tag, children⟩ = .ok r := by
  have hattributes {kept : List (String ⊕ Command)} :
      tag.withoutProperties.attributes.mapM (ofAttribute (around.environment sec)
          ⟨tag.withoutProperties, front.map Element.node ++ children⟩) = .ok kept ↔
        (tag.attributes.filter (¬ ·.IsProperty)).mapM
          (ofAttribute (around.environment sec) ⟨tag, children⟩) = .ok kept := by
    apply mapM_ofAttribute_eq_ok_congr
  rw [record_eq_ok_iff, record_eq_ok_iff]
  constructor
  · rintro ⟨kept, cs, hkept, hcs, rfl⟩
    obtain ⟨css, rest, hcss, hrest, rfl⟩ := ofChildren_eq_ok_iff.mp hcs
    have hmoved := (h css.flatten).mp ⟨css, hcss, rfl⟩
    obtain ⟨own, hown, hsplits⟩ := exists_own (hattributes.mp hkept) hmoved
    refine ⟨own, rest, hown, hrest, ?_⟩
    rw [hsplits.make_eq, List.append_assoc]
  · rintro ⟨own, rest, hown, hrest, rfl⟩
    obtain ⟨kept, moved, hkept, hmoved, hsplits⟩ := exists_splits hown
    obtain ⟨css, hcss, rfl⟩ := (h moved).mpr hmoved
    refine ⟨kept, css.flatten ++ rest, hattributes.mpr hkept, ?_, ?_⟩
    · exact ofChildren_eq_ok_iff.mpr ⟨css, rest, hcss, hrest, rfl⟩
    · rw [hsplits.make_eq, List.append_assoc]

theorem carries_of_record {tag tag' : Xml.Tag} {children children' : List Node}
    (hkind : ElementKind.ofName tag.name = .record)
    (hkind' : ElementKind.ofName tag'.name = .record)
    (h : ∀ around, Yields (record sec around ⟨tag, children⟩) (record sec around ⟨tag', children'⟩))
    (limit : Option Nat) (level : Nat) (around : Surroundings) :
    Reading.Carries (ofNodes sec limit level around [.element tag children])
      (ofNodes sec limit level around [.element tag' children']) := by
  unfold ofNodes ofNode
  rw [hkind, hkind']
  apply Reading.carries_followedBy
  · exact carries_ofRecord (h around)
  · apply Reading.carries_refl

end Lexical

namespace Collector

variable {sec : Section} {site : Site} {tag : Xml.Tag} {children : List Node}

theorem readRecords_of_gives (hwalked : site.Walked)
    (hkind : ElementKind.ofName tag.name = .record) (front : List Element)
    (h : ∀ env, Lexical.Gives env front tag.properties) (reader reader' : Collector Shelf)
    (rs : List Record) :
    (reader'.readRecords (sec.put site
        [.element tag.withoutProperties (front.map Element.node ++ children)])).1 = .ok rs ↔
      (reader.readRecords (sec.put site [.element tag children])).1 = .ok rs := by
  have hkind' : ElementKind.ofName tag.withoutProperties.name = .record := hkind
  have hsome (tag : Xml.Tag) (ns : List Node) :
      [Node.element tag ns].filterMap Node.element? ≠ [] := by
    simp [Node.element?]
  constructor
  · intro hread
    apply readRecords_put_of_carries hwalked _ _ hread
    · intro hempty
      exact absurd hempty (hsome _ _)
    · apply Lexical.carries_of_record hkind' hkind
      intro around r
      exact (Lexical.record_moved (h _)).mp
  · intro hread
    apply readRecords_put_of_carries hwalked _ _ hread
    · intro hempty
      exact absurd hempty (hsome _ _)
    · apply Lexical.carries_of_record hkind hkind'
      intro around r
      exact (Lexical.record_moved (h _)).mpr

/--
At a place that a walk comes to, the attributes that give properties to a record can be moved to
elements in front of those in its element, or to one element with the command `set`. The section is
then read without an error just if it was before, and to the same records.
-/
theorem readRecords_moved (hwalked : site.Walked) (hkind : ElementKind.ofName tag.name = .record)
    (reader reader' : Collector Shelf) (rs : List Record) :
    let read := (reader.readRecords (sec.put site [.element tag children])).1
    let moved (front : List Node) := (reader'.readRecords
      (sec.put site [.element tag.withoutProperties (front ++ children)])).1
    (∀ front : List Element, List.Forall₂ Attribute.MovesTo tag.properties front →
      (moved (front.map Element.node) = .ok rs ↔ read = .ok rs)) ∧
    ∀ set : Element, set.name = "set" → set.attributes = tag.properties → tag.properties ≠ [] →
      (moved [set.node] = .ok rs ↔ read = .ok rs) := by
  intro read moved
  constructor
  · intro front hfront
    apply readRecords_of_gives hwalked hkind front
    intro env
    exact Lexical.gives_elements hfront
  · intro set hname hattributes hsome
    apply readRecords_of_gives hwalked hkind [set]
    intro env
    apply Lexical.gives_set _ hsome hname hattributes
    intro a ha
    simpa using (List.mem_filter.mp ha).2

theorem readRecords_moved_appended :
    let appending (text : String) : Xml.Tag := {
      written := ⟨none, "append"⟩
      attributes := [{ written := ⟨none, "Title"⟩, value := text }]
    }
    let site : Site := .inside [] (appending "z") (.here [.new "1"] []) []
    let title : Attribute := { written := ⟨none, "Title"⟩, value := "$$x" }
    let tag : Xml.Tag := {
      written := ⟨none, "new"⟩
      attributes := [title, { written := ⟨none, "tag"⟩, value := "t" }]
    }
    let element : Element :=
      ⟨{ written := ⟨none, "Title"⟩ }, [.text "$", .comment "price", .text "$x"]⟩
    let set : Element := ⟨{ written := ⟨none, "set"⟩, attributes := [title] }, []⟩
    let read (tag : Xml.Tag) (front : List Node) :=
      (Collector.readRecords { kept := {} } (Section.titled.put site
        [.element tag (front ++ [.element (appending "y") []])])).1
    let rs : List Record := [
      { id := some "1", properties := [("Title", .text "z")] },
      { properties := [("Title", .text "$xyz")], tags := ["t"] }]
    site.Walked ∧ List.Forall₂ Attribute.MovesTo tag.properties [element] ∧
      set.attributes = tag.properties ∧ read tag [] = .ok rs ∧
      read tag.withoutProperties [element.node] = .ok rs ∧
      read tag.withoutProperties [set.node] = .ok rs := by
  intro appending site title tag element set read rs
  have hwalked : site.Walked := ⟨.inl rfl, trivial⟩
  have hproperties : tag.properties = [title] := by
    decide
  have hmoves : List.Forall₂ Attribute.MovesTo tag.properties [element] := by
    rw [hproperties]
    exact .cons ⟨rfl, rfl, by decide⟩ .nil
  have hread : read tag [] = .ok rs := by
    decide +kernel
  obtain ⟨helements, hset⟩ := @readRecords_moved .titled site tag
    [.element (appending "y") []] hwalked rfl { kept := {} } { kept := {} } rs
  refine ⟨hwalked, hmoves, hproperties.symm, hread, ?_, ?_⟩
  · exact (helements [element] hmoves).mpr hread
  · exact (hset set rfl hproperties.symm (by simp [hproperties])).mpr hread

end Collector
end Catalog
