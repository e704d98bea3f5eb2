import Catalog.Proofs.Record.Frame
/-!
This module contains which attributes give tags: what the commands of an element have for tags are
the values of these attributes, in their order.
-/

namespace Catalog

open Xml (Element Attribute)

namespace Xml.Element

def attributesNamed (e : Element) (name : String) : List Attribute :=
  e.attributes.filter (·.name == name)

def tagging (e : Element) : List Attribute :=
  -- A tag element gives its first value only.
  match CommandElement.ofName? e.name with
  | some .set => e.attributesNamed "tag"
  | some .tag => (e.attributesNamed "value").take 1
  | _ => []

theorem attributesNamed_of_isEmpty {e : Element} (h : e.attributes.isEmpty) (name : String) :
    e.attributesNamed name = [] := by
  unfold attributesNamed
  rw [List.isEmpty_iff.mp h, List.filter_nil]

theorem tagging_of_isEmpty {e : Element} (h : e.attributes.isEmpty) : e.tagging = [] := by
  unfold tagging
  simp only [attributesNamed_of_isEmpty h]
  split
  · rfl
  · rfl
  · rfl

theorem tagging_of_variable {e : Element} (h : e.name = "variable") : e.tagging = [] := by
  unfold tagging
  rw [h]
  rfl

theorem attributesNamed_of_attribute? {e : Element} {name : String} {found : Option String}
    (h : e.attribute? name = .ok found) : (e.attributesNamed name).head?.map (·.value) = found := by
  unfold attributesNamed
  rw [List.head?_filter]
  exact (tells_and_value?_of_attribute? h).2

end Xml.Element

namespace Command

theorem tagsAll_eq_flatMap (cs : List Command) : tagsAll cs = cs.flatMap tags := by
  induction cs with
  | nil => rfl
  | cons c cs ih => rw [tagsAll, ih, List.flatMap_cons]

theorem tagsAll_filterMap_getRight? (found : List (String ⊕ Command)) :
    tagsAll (found.filterMap Sum.getRight?) = found.flatMap (Sum.elim (fun _ => []) tags) := by
  induction found with
  | nil => rfl
  | cons x found ih =>
    rw [List.flatMap_cons, ← ih]
    cases x with
    | inl id => rfl
    | inr c => rfl

theorem tagsAll_flatten (css : List (List Command)) :
    tagsAll css.flatten = (css.map tagsAll).flatten := by
  induction css with
  | nil => rfl
  | cons cs css ih => rw [List.flatten_cons, tagsAll_append, ih, List.map_cons, List.flatten_cons]

end Command

namespace Environment

def ResolvesAll (env : Environment) (as : List Attribute) (values : List String) : Prop :=
  List.Forall₂ (fun a value => env.Resolves a.value value) as values

def OwnTags (env : Environment) (e : Element) (tags : List String) : Prop :=
  ∃ own children, env.ResolvesAll (e.attributesNamed "tag") own ∧
    List.Forall₂ (fun child => env.ResolvesAll child.tagging) e.elements children ∧
    tags = own ++ children.flatten

variable {env : Environment} {e : Element}

theorem resolvesAll_filter {α : Type} {R : Attribute → α → Prop} {pick : Attribute → Bool}
    {tags : α → List String} {as : List Attribute} {xs : List α} (h : List.Forall₂ R as xs)
    (hpicked : ∀ a x, R a x → pick a = true → ∃ value, env.Resolves a.value value ∧ tags x = [value])
    (hothers : ∀ a x, R a x → pick a = false → tags x = []) :
    env.ResolvesAll (as.filter pick) (xs.flatMap tags) := by
  induction h with
  | nil => exact .nil
  | @cons a x as xs hax _ ih =>
    rw [List.flatMap_cons]
    cases hpick : pick a with
    | true =>
      obtain ⟨value, hvalue, hx⟩ := hpicked a x hax hpick
      rw [List.filter_cons_of_pos hpick, hx]
      exact .cons hvalue ih
    | false =>
      rw [List.filter_cons_of_neg (by simp [hpick]), hothers a x hax hpick]
      exact ih

theorem tags_of_gives_set {a : Attribute} {c : Command} (h : env.Gives .set a c) :
    (a.name = "tag" → ∃ value, env.Resolves a.value value ∧ c.tags = [value]) ∧
      (a.name ≠ "tag" → c.tags = []) := by
  constructor
  · intro hname
    obtain ⟨value, hvalue, rfl⟩ := h.eq_addTag hname
    exact ⟨value, hvalue, rfl⟩
  · intro hname
    cases h with
    | addTag _ htag => exact absurd htag hname
    | _ => rfl

theorem tags_of_gives {kind : CommandElement} {a : Attribute} {c : Command}
    (h : env.Gives kind a c) (hset : kind ≠ .set) : c.tags = [] := by
  cases h with
  | addTag hkind => exact absurd hkind hset
  | _ => rfl

theorem tagsAll_of_gives {kind : CommandElement} {as : List Attribute} {cs : List Command}
    (h : List.Forall₂ (fun a c => env.Gives kind a c) as cs) (hset : kind ≠ .set) :
    Command.tagsAll cs = [] := by
  induction h with
  | nil => rfl
  | cons hgives _ ih => rw [Command.tagsAll, tags_of_gives hgives hset, ih, List.nil_append]

theorem GivesAll.resolvesAll {cs : List Command} (h : env.GivesAll e cs) :
    env.ResolvesAll e.tagging (Command.tagsAll cs) := by
  unfold Xml.Element.tagging
  cases h with
  | @all kind _ _ _ hkind htag hcs =>
    rw [hkind]
    -- Only two kinds of elements give tags at all.
    have hothers (hset : kind ≠ .set) : env.ResolvesAll [] (Command.tagsAll cs) := by
      rw [tagsAll_of_gives hcs hset]
      exact .nil
    cases kind with
    | set =>
      rw [Command.tagsAll_eq_flatMap]
      apply resolvesAll_filter hcs
      · intro a c hgives hname
        exact (tags_of_gives_set hgives).1 (by simpa using hname)
      · intro a c hgives hname
        exact (tags_of_gives_set hgives).2 (by simpa using hname)
    | append => exact hothers (by simp)
    | prepend => exact hothers (by simp)
    | add => exact hothers (by simp)
    | tag => contradiction
  | tag _ hkind hraw hvalue =>
    rw [hkind]
    have hnamed := Xml.Element.attributesNamed_of_attribute? hraw
    cases hvalues : e.attributesNamed "value" with
    | nil => simp [hvalues] at hnamed
    | cons a as =>
      obtain rfl : a.value = _ := by simpa [hvalues] using hnamed
      exact .cons hvalue .nil
  | noTag _ hkind hraw =>
    rw [hkind]
    have hnamed := Xml.Element.attributesNamed_of_attribute? hraw
    have hvalues : e.attributesNamed "value" = [] := by simpa using hnamed
    simp only [hvalues]
    exact .nil

theorem resolvesAll_of_ofCommandElement {cs : List Command} (h : env.ofCommandElement e = .ok cs) :
    env.ResolvesAll e.tagging (Command.tagsAll cs) := by
  exact (ofCommandElement_eq_ok_iff_givesAll.mp h).resolvesAll

theorem resolvesAll_of_ofChild {cs : List Command} (h : env.ofChild e = .ok cs) :
    env.ResolvesAll e.tagging (Command.tagsAll cs) := by
  by_cases hattributes : e.attributes = []
  · obtain ⟨c, hassigns, rfl⟩ := (ofChild_eq_ok_iff hattributes).mp h
    rw [Xml.Element.tagging_of_isEmpty (List.isEmpty_iff.mpr hattributes), Command.tagsAll,
      Command.tags_of_assigns hassigns]
    exact .nil
  · rw [ofChild_of_attributes hattributes] at h
    exact resolvesAll_of_ofCommandElement h

theorem resolvesAll_of_ofChildren {cs : List Command} (h : env.ofChildren e = .ok cs) :
    ∃ children, List.Forall₂ (fun child => env.ResolvesAll child.tagging) e.elements children ∧
      Command.tagsAll cs = children.flatten := by
  obtain ⟨css, hcss, rfl⟩ := ofChildren_eq_ok_iff.mp h
  refine ⟨css.map Command.tagsAll, ?_, Command.tagsAll_flatten css⟩
  rw [List.forall₂_map_right_iff]
  exact hcss.imp fun child cs hchild => resolvesAll_of_ofChild hchild

theorem tags_of_own {a : Attribute} {x : String ⊕ Command} (h : env.GivesOwn a x) :
    (a.name = "tag" →
        ∃ value, env.Resolves a.value value ∧ x.elim (fun _ => []) Command.tags = [value]) ∧
      (a.name ≠ "tag" → x.elim (fun _ => []) Command.tags = []) := by
  cases h with
  | id _ hid =>
    refine ⟨?_, fun _ => rfl⟩
    intro htag
    simp [hid] at htag
  | command _ _ hc => exact tags_of_gives_set hc

theorem resolvesAll_of_ofAttributes {id : Option String} {own : List Command}
    (h : env.ofAttributes e = .ok (id, own)) :
    env.ResolvesAll (e.attributesNamed "tag") (Command.tagsAll own) := by
  obtain ⟨found, hfound, heq⟩ := ofAttributes_eq_ok_iff.mp h
  obtain ⟨-, rfl⟩ := Prod.mk.inj heq
  rw [Command.tagsAll_filterMap_getRight?]
  apply resolvesAll_filter hfound
  · intro a x hx hname
    exact (tags_of_own hx).1 (by simpa using hname)
  · intro a x hx hname
    exact (tags_of_own hx).2 (by simpa using hname)

theorem ownTags_of_sources {id : Option String} {own children : List Command}
    (hown : env.ofAttributes e = .ok (id, own)) (hchildren : env.ofChildren e = .ok children) :
    env.OwnTags e (Command.tagsAll (own ++ children)) := by
  obtain ⟨tags, htags, hflatten⟩ := resolvesAll_of_ofChildren hchildren
  refine ⟨Command.tagsAll own, tags, resolvesAll_of_ofAttributes hown, htags, ?_⟩
  rw [Command.tagsAll_append, hflatten]

end Environment
end Catalog
