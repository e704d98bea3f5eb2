import Catalog.Proofs.Lexical.Record
import Catalog.Proofs.Translation.Attribute
/-!
This module contains what elements are translated to, and why they are refused: those that stand for
commands, those in the element of a record, those that declare variables, and the attributes of a
record's element. Whatever is proved of a translation comes from what is said here.
-/

namespace Catalog

open Xml (Element Attribute)

namespace Environment

variable {env : Environment} {kind : CommandElement} {e : Element} {a : Attribute}
  {names : List String} {cs : List Command} {f : Fault}

/-!
Elements that stand for commands
-/

theorem ofCommandElement_of_malformed {n : Xml.MalformedName} (h : e.comparableNames = .error n) :
    env.ofCommandElement e = .error (.ofName e n) := by
  unfold ofCommandElement
  rw [h]
  rfl

theorem ofCommandElement_of_unknown (h : e.comparableNames = .ok names)
    (hkind : CommandElement.ofName? e.name = none) :
    env.ofCommandElement e = .error ⟨.undefinedCommand e.name, e, none⟩ := by
  unfold ofCommandElement
  rw [h, hkind]
  rfl

theorem ofCommandElement_of_kind (h : e.comparableNames = .ok names)
    (hkind : CommandElement.ofName? e.name = some kind) (htag : kind ≠ .tag) :
    env.ofCommandElement e = e.attributes.mapM (kind.translate env e) := by
  unfold ofCommandElement
  rw [h, hkind]
  cases kind with
  | tag => contradiction
  | _ => rfl

theorem ofCommandElement_of_noValue (h : e.comparableNames = .ok names)
    (hkind : CommandElement.ofName? e.name = some .tag) (hraw : e.attribute? "value" = .ok none) :
    env.ofCommandElement e = .ok [] := by
  unfold ofCommandElement
  rw [h, hkind]
  simp only [hraw]
  rfl

theorem ofCommandElement_of_value (h : e.comparableNames = .ok names)
    (hkind : CommandElement.ofName? e.name = some .tag) {raw : String}
    (hraw : e.attribute? "value" = .ok (some raw)) :
    env.ofCommandElement e =
      (env.value e raw (some "value")).map fun tag => [.addTag tag] := by
  unfold ofCommandElement
  rw [h, hkind]
  simp only [hraw]
  rfl

inductive GivesAll (env : Environment) (e : Element) : List Command → Prop where
  | all {kind : CommandElement} {names : List String} {cs : List Command}
    (hnames : e.comparableNames = .ok names) (hkind : CommandElement.ofName? e.name = some kind)
    (htag : kind ≠ .tag) (hcs : List.Forall₂ (env.Gives kind) e.attributes cs) :
    GivesAll env e cs
  | tag {names : List String} {raw value : String} (hnames : e.comparableNames = .ok names)
    (hkind : CommandElement.ofName? e.name = some .tag)
    (hraw : e.attribute? "value" = .ok (some raw)) (hvalue : env.Resolves raw value) :
    GivesAll env e [.addTag value]
  | noTag {names : List String} (hnames : e.comparableNames = .ok names)
    (hkind : CommandElement.ofName? e.name = some .tag) (hraw : e.attribute? "value" = .ok none) :
    GivesAll env e []

/--
Why an element that stands for commands is refused: its names come first, then its own name, then
its attributes in their order.
-/
inductive RejectsAll (env : Environment) (e : Element) : Fault → Prop where
  | malformedName {n : Xml.MalformedName} (hnames : e.comparableNames = .error n) :
    RejectsAll env e (.ofName e n)
  | undefinedCommand {names : List String} (hnames : e.comparableNames = .ok names)
    (hkind : CommandElement.ofName? e.name = none) :
    RejectsAll env e ⟨.undefinedCommand e.name, e, none⟩
  | first {kind : CommandElement} {names : List String} {before after : List Attribute}
    {a : Attribute} {f : Fault} (hnames : e.comparableNames = .ok names)
    (hkind : CommandElement.ofName? e.name = some kind) (htag : kind ≠ .tag)
    (hattributes : e.attributes = before ++ a :: after)
    (hbefore : ∀ b ∈ before, ∃ c, env.Gives kind b c) (ha : env.Rejects kind e a f) :
    RejectsAll env e f
  | badTag {names : List String} {raw : String} {err : ValueError}
    (hnames : e.comparableNames = .ok names) (hkind : CommandElement.ofName? e.name = some .tag)
    (hraw : e.attribute? "value" = .ok (some raw)) (hsubstitute : env.substitute = true)
    (hvalue : resolve? env.lookup raw = .error err) :
    RejectsAll env e ⟨.badValue err, e, some "value"⟩

theorem ofCommandElement_eq_ok_iff_givesAll :
    env.ofCommandElement e = .ok cs ↔ env.GivesAll e cs := by
  constructor
  · intro h
    cases hnames : e.comparableNames with
    | error n => simp [ofCommandElement_of_malformed hnames] at h
    | ok names =>
      cases hkind : CommandElement.ofName? e.name with
      | none => simp [ofCommandElement_of_unknown hnames hkind] at h
      | some kind =>
        by_cases htag : kind = .tag
        · subst htag
          cases hfound : e.attribute? "value" with
          | error n => exact absurd hfound (Element.attribute?_ne_error hnames)
          | ok found =>
            cases found with
            | none =>
              rw [ofCommandElement_of_noValue hnames hkind hfound] at h
              obtain rfl := Except.ok.inj h
              exact .noTag hnames hkind hfound
            | some raw =>
              rw [ofCommandElement_of_value hnames hkind hfound] at h
              obtain ⟨value, hvalue, rfl⟩ := map_eq_ok_iff.mp h
              exact .tag hnames hkind hfound (value_eq_ok_iff.mp hvalue)
        · rw [ofCommandElement_of_kind hnames hkind htag, mapM_eq_ok_iff] at h
          simp only [translate_eq_ok_iff htag] at h
          exact .all hnames hkind htag h
  · intro h
    cases h with
    | all hnames hkind htag hcs =>
      rw [ofCommandElement_of_kind hnames hkind htag, mapM_eq_ok_iff]
      simpa only [translate_eq_ok_iff htag] using hcs
    | tag hnames hkind hraw hvalue =>
      rw [ofCommandElement_of_value hnames hkind hraw, value_eq_ok_iff.mpr hvalue]
      rfl
    | noTag hnames hkind hraw => exact ofCommandElement_of_noValue hnames hkind hraw

theorem ofCommandElement_eq_error_iff_rejectsAll :
    env.ofCommandElement e = .error f ↔ env.RejectsAll e f := by
  constructor
  · intro h
    cases hnames : e.comparableNames with
    | error n =>
      rw [ofCommandElement_of_malformed hnames] at h
      obtain rfl := Except.error.inj h
      exact .malformedName hnames
    | ok names =>
      cases hkind : CommandElement.ofName? e.name with
      | none =>
        rw [ofCommandElement_of_unknown hnames hkind] at h
        obtain rfl := Except.error.inj h
        exact .undefinedCommand hnames hkind
      | some kind =>
        by_cases htag : kind = .tag
        · subst htag
          cases hfound : e.attribute? "value" with
          | error n => exact absurd hfound (Element.attribute?_ne_error hnames)
          | ok found =>
            cases found with
            | none => simp [ofCommandElement_of_noValue hnames hkind hfound] at h
            | some raw =>
              rw [ofCommandElement_of_value hnames hkind hfound] at h
              obtain ⟨hsubstitute, err, hvalue, rfl⟩ :=
                value_eq_error_iff.mp (map_eq_error_iff.mp h)
              exact .badTag hnames hkind hfound hsubstitute hvalue
        · rw [ofCommandElement_of_kind hnames hkind htag, mapM_eq_error_iff] at h
          obtain ⟨before, a, after, hattributes, hbefore, ha⟩ := h
          simp only [translate_eq_ok_iff htag] at hbefore
          exact .first hnames hkind htag hattributes hbefore
            ((translate_eq_error_iff htag).mp ha)
  · intro h
    cases h with
    | malformedName hnames => exact ofCommandElement_of_malformed hnames
    | undefinedCommand hnames hkind => exact ofCommandElement_of_unknown hnames hkind
    | first hnames hkind htag hattributes hbefore ha =>
      rw [ofCommandElement_of_kind hnames hkind htag, mapM_eq_error_iff]
      simp only [translate_eq_ok_iff htag, translate_eq_error_iff htag]
      exact ⟨_, _, _, hattributes, hbefore, ha⟩
    | badTag hnames hkind hraw hsubstitute hvalue =>
      rw [ofCommandElement_of_value hnames hkind hraw,
        value_eq_error_iff.mpr ⟨hsubstitute, _, hvalue, rfl⟩]
      rfl

theorem element_of_rejects (h : env.Rejects kind e a f) : f.element = e := by
  cases h with
  | _ => rfl

theorem RejectsAll.element_eq (h : env.RejectsAll e f) : f.element = e := by
  cases h with
  | first _ _ _ _ _ ha => exact element_of_rejects ha
  | _ => rfl

theorem scopeEntry_eq_ok_iff {entry : Option Command} :
    env.scopeEntry e = .ok entry ↔ ∃ cs, env.GivesAll e cs ∧ Command.join cs = entry := by
  unfold scopeEntry
  simp only [map_eq_ok_iff, ofCommandElement_eq_ok_iff_givesAll]

theorem scopeEntry_eq_error_iff : env.scopeEntry e = .error f ↔ env.RejectsAll e f := by
  rw [scopeEntry, map_eq_error_iff, ofCommandElement_eq_error_iff_rejectsAll]

/-!
Elements in the element of a record
-/

structure Assigns (env : Environment) (name raw : String) (c : Command) : Prop where
  comparable : Xml.comparable name = .ok name
  command : ∃ p, env.entity.findProperty? name = some p ∧
    ∃ value, env.Resolves raw value ∧ assign p name value = c

inductive RefusesText (env : Environment) (e : Element) : Fault → Prop where
  | malformedName {n : Xml.MalformedName} (hname : Xml.comparable e.name = .error n) :
    RefusesText env e (.ofName e n)
  | undefinedProperty (hname : Xml.comparable e.name = .ok e.name)
    (hproperty : env.entity.findProperty? e.name = none) :
    RefusesText env e ⟨.undefinedProperty e.name, e, none⟩
  | badValue {p : Property} {err : ValueError} (hname : Xml.comparable e.name = .ok e.name)
    (hproperty : env.entity.findProperty? e.name = some p) (hsubstitute : env.substitute = true)
    (hvalue : resolve? env.lookup e.content = .error err) :
    RefusesText env e ⟨.badValue err, e, none⟩

theorem ofChild_of_attributes (h : e.attributes ≠ []) :
    env.ofChild e = env.ofCommandElement e := by
  unfold ofChild
  rw [if_neg (by simpa using h)]

theorem ofChild_eq_ok_iff (h : e.attributes = []) :
    env.ofChild e = .ok cs ↔ ∃ c, env.Assigns e.name e.content c ∧ [c] = cs := by
  unfold ofChild
  rw [if_pos (by simp [h]), bind_eq_ok_iff]
  constructor
  · rintro ⟨name, hname, hcs⟩
    obtain ⟨hcomparable, rfl⟩ := comparable_eq_ok_iff.mp hname
    simp only [bind_eq_ok_iff, property_eq_ok_iff, value_eq_ok_iff] at hcs
    obtain ⟨p, hp, value, hvalue, hcs⟩ := hcs
    exact ⟨_, ⟨hcomparable, p, hp, value, hvalue, rfl⟩, Except.ok.inj hcs⟩
  · rintro ⟨c, hassigns, rfl⟩
    obtain ⟨p, hp, value, hvalue, rfl⟩ := hassigns.command
    refine ⟨e.name, comparable_eq_ok_iff.mpr ⟨hassigns.comparable, rfl⟩, ?_⟩
    simp only [bind_eq_ok_iff, property_eq_ok_iff, value_eq_ok_iff]
    exact ⟨p, hp, value, hvalue, rfl⟩

theorem ofChild_eq_error_iff (h : e.attributes = []) :
    env.ofChild e = .error f ↔ env.RefusesText e f := by
  unfold ofChild Element.comparableName
  rw [if_pos (by simp [h])]
  simp only [comparable_eq_ok_iff, bind_eq_error_iff, mapError_eq_error_iff,
    property_eq_error_iff, property_eq_ok_iff, value_eq_error_iff, return_ne_error, and_false,
    exists_false, or_false]
  constructor
  · rintro (⟨n, hn, rfl⟩ | ⟨name, ⟨hname, rfl⟩, h⟩)
    · exact .malformedName hn
    · obtain ⟨hproperty, rfl⟩ | ⟨p, hp, hsubstitute, err, hvalue, rfl⟩ := h
      · exact .undefinedProperty hname hproperty
      · exact .badValue hname hp hsubstitute hvalue
  · intro h
    cases h with
    | malformedName hn => exact .inl ⟨_, hn, rfl⟩
    | undefinedProperty hname hproperty =>
      exact .inr ⟨e.name, ⟨hname, rfl⟩, .inl ⟨hproperty, rfl⟩⟩
    | badValue hname hp hsubstitute hvalue =>
      exact .inr ⟨e.name, ⟨hname, rfl⟩, .inr ⟨_, hp, hsubstitute, _, hvalue, rfl⟩⟩

theorem element_of_ofChild (h : env.ofChild e = .error f) : f.element = e := by
  by_cases hattributes : e.attributes = []
  · cases (ofChild_eq_error_iff hattributes).mp h with
    | _ => rfl
  · rw [ofChild_of_attributes hattributes] at h
    exact (ofCommandElement_eq_error_iff_rejectsAll.mp h).element_eq

theorem ofChildren_eq_ok_iff :
    env.ofChildren e = .ok cs ↔ ∃ css,
      List.Forall₂ (fun child own => env.ofChild child = .ok own) e.elements css ∧
        css.flatten = cs := by
  unfold ofChildren
  simp only [bind_eq_ok_iff, mapM_eq_ok_iff, pure, Except.pure, Except.ok.injEq]

theorem ofChildren_eq_error_iff :
    env.ofChildren e = .error f ↔ e.elements.mapM env.ofChild = .error f := by
  unfold ofChildren
  simp only [bind_eq_error_iff, return_ne_error, and_false, exists_false, or_false]

/-!
Elements that declare variables
-/

theorem ofVariableElement_eq_ok_iff {v : Variable} :
    env.ofVariableElement e = .ok v ↔ e.attribute? "name" = .ok (some v.name) ∧
      ∃ raw, e.attribute? "value" = .ok (some raw) ∧ env.Resolves raw v.value := by
  unfold ofVariableElement
  simp only [bind_eq_ok_iff, required_eq_ok_iff, value_eq_ok_iff, pure, Except.pure,
    Except.ok.injEq]
  constructor
  · rintro ⟨name, hname, raw, hraw, value, hvalue, rfl⟩
    exact ⟨hname, raw, hraw, hvalue⟩
  · rintro ⟨hname, raw, hraw, hvalue⟩
    exact ⟨v.name, hname, raw, hraw, v.value, hvalue, rfl⟩

theorem ofVariableElement_eq_error_iff :
    env.ofVariableElement e = .error f ↔ required e "name" = .error f ∨
      ∃ name, e.attribute? "name" = .ok (some name) ∧ (required e "value" = .error f ∨
        ∃ raw, e.attribute? "value" = .ok (some raw) ∧
          env.value e raw (some "value") = .error f) := by
  unfold ofVariableElement
  simp only [bind_eq_error_iff, required_eq_ok_iff, return_ne_error, and_false, exists_false,
    or_false]

/-!
Attributes of a record's element
-/

inductive GivesOwn (env : Environment) (a : Attribute) : String ⊕ Command → Prop where
  | id {value : String} (hname : Xml.comparable a.name = .ok a.name) (hid : a.name = "id")
    (hvalue : env.Resolves a.value value) : GivesOwn env a (.inl value)
  | command {c : Command} (hname : Xml.comparable a.name = .ok a.name) (hid : a.name ≠ "id")
    (hc : env.Gives .set a c) : GivesOwn env a (.inr c)

inductive RejectsOwn (env : Environment) (e : Element) (a : Attribute) : Fault → Prop where
  | malformedName {n : Xml.MalformedName} (hname : Xml.comparable a.name = .error n) :
    RejectsOwn env e a (.ofName e n)
  | badId {err : ValueError} (hname : Xml.comparable a.name = .ok a.name) (hid : a.name = "id")
    (hsubstitute : env.substitute = true) (hvalue : resolve? env.lookup a.value = .error err) :
    RejectsOwn env e a ⟨.badValue err, e, some a.name⟩
  | command {f : Fault} (hname : Xml.comparable a.name = .ok a.name) (hid : a.name ≠ "id")
    (hf : env.Rejects .set e a f) : RejectsOwn env e a f

theorem ownAttribute_eq_ok_iff {x : String ⊕ Command} :
    Lexical.ofAttribute env e a = .ok x ↔ env.GivesOwn a x := by
  unfold Lexical.ofAttribute
  rw [bind_eq_ok_iff]
  constructor
  · rintro ⟨name, hname, h⟩
    obtain ⟨hcomparable, rfl⟩ := comparable_eq_ok_iff.mp hname
    split at h
    · next hid =>
      obtain ⟨value, hvalue, h⟩ := bind_eq_ok_iff.mp h
      obtain rfl := Except.ok.inj h
      exact .id hcomparable hid (value_eq_ok_iff.mp hvalue)
    · next hid =>
      obtain ⟨c, hc, h⟩ := bind_eq_ok_iff.mp h
      obtain rfl := Except.ok.inj h
      exact .command hcomparable hid (ofAttribute_eq_ok_iff_gives.mp hc)
  · intro h
    refine ⟨a.name, ?_⟩
    cases h with
    | id hname hid hvalue =>
      rw [if_pos hid, value_eq_ok_iff.mpr hvalue]
      exact ⟨comparable_eq_ok_iff.mpr ⟨hname, rfl⟩, rfl⟩
    | command hname hid hc =>
      rw [if_neg hid, ofAttribute_eq_ok_iff_gives.mpr hc]
      exact ⟨comparable_eq_ok_iff.mpr ⟨hname, rfl⟩, rfl⟩

theorem ownAttribute_eq_error_iff :
    Lexical.ofAttribute env e a = .error f ↔ env.RejectsOwn e a f := by
  unfold Lexical.ofAttribute
  rw [bind_eq_error_iff, mapError_eq_error_iff]
  constructor
  · rintro (⟨n, hn, rfl⟩ | ⟨name, hname, h⟩)
    · exact .malformedName hn
    · obtain ⟨hcomparable, rfl⟩ := comparable_eq_ok_iff.mp hname
      split at h
      · next hid =>
        simp only [bind_eq_error_iff, value_eq_error_iff, return_ne_error, and_false, exists_false,
          or_false] at h
        obtain ⟨hsubstitute, err, hvalue, rfl⟩ := h
        exact .badId hcomparable hid hsubstitute hvalue
      · next hid =>
        simp only [bind_eq_error_iff, return_ne_error, and_false, exists_false, or_false] at h
        exact .command hcomparable hid (ofAttribute_eq_error_iff.mp h)
  · intro h
    cases h with
    | malformedName hname => exact .inl ⟨_, hname, rfl⟩
    | badId hname hid hsubstitute hvalue =>
      refine .inr ⟨a.name, comparable_eq_ok_iff.mpr ⟨hname, rfl⟩, ?_⟩
      rw [if_pos hid, bind_eq_error_iff, value_eq_error_iff]
      exact .inl ⟨hsubstitute, _, hvalue, rfl⟩
    | command hname hid hf =>
      refine .inr ⟨a.name, comparable_eq_ok_iff.mpr ⟨hname, rfl⟩, ?_⟩
      rw [if_neg hid, bind_eq_error_iff, ofAttribute_eq_error_iff]
      exact .inl hf

theorem ofAttributes_eq_ok_iff {own : Option String × List Command} :
    env.ofAttributes e = .ok own ↔ ∃ found, List.Forall₂ env.GivesOwn e.attributes found ∧
      ((found.filterMap Sum.getLeft?).getLast?, found.filterMap Sum.getRight?) = own := by
  simp only [Lexical.ofAttributes_eq, map_eq_ok_iff, mapM_eq_ok_iff, ownAttribute_eq_ok_iff]

theorem ofAttributes_eq_error_iff :
    env.ofAttributes e = .error f ↔ e.attributes.mapM (Lexical.ofAttribute env e) = .error f := by
  rw [Lexical.ofAttributes_eq, map_eq_error_iff]

end Environment
end Catalog
