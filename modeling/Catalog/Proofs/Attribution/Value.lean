import Catalog.Proofs.Translation.Outcome
/-!
This module contains the values that an environment comes to resolve for an element. It finds the
fault of a value just if it comes to one that cannot be resolved.
-/

namespace Catalog

open Xml (Element Attribute)

structure WrittenValue where
  element : Element
  attributeName : Option String
  raw : String

def WrittenValue.Spoils (lookup : String → Option String) (v : WrittenValue) (f : Fault) : Prop :=
  ∃ err, resolve? lookup v.raw = .error err ∧ f = ⟨.badValue err, v.element, v.attributeName⟩

def Fault.IsBadValue (f : Fault) : Prop := ∃ err, f.problem = .badValue err

theorem WrittenValue.Spoils.isBadValue {lookup : String → Option String} {v : WrittenValue}
    {f : Fault} (h : v.Spoils lookup f) : f.IsBadValue := by
  obtain ⟨err, -, rfl⟩ := h
  exact ⟨err, rfl⟩

def Reaches {ε α β : Type} (f : α → Except ε β) (xs : List α) (x : α) : Prop :=
  ∃ before after, xs = before ++ x :: after ∧ ∀ x' ∈ before, ∃ y, f x' = .ok y

theorem mapM_eq_error_iff_reaches {ε α β : Type} {f : α → Except ε β} {xs : List α} {e : ε} :
    xs.mapM f = .error e ↔ ∃ x, Reaches f xs x ∧ f x = .error e := by
  rw [mapM_eq_error_iff]
  constructor
  · rintro ⟨before, x, after, hxs, hbefore, hx⟩
    exact ⟨x, ⟨before, after, hxs, hbefore⟩, hx⟩
  · rintro ⟨x, ⟨before, after, hxs, hbefore⟩, hx⟩
    exact ⟨before, x, after, hxs, hbefore, hx⟩

namespace Environment

variable (env : Environment)

def Takes (kind : CommandElement) (name : String) : Prop :=
  match kind with
  | .append => ∃ p, env.entity.findProperty? name = some p
  | .prepend => ∃ p, env.entity.findProperty? name = some p
  | .add => ∃ p, env.entity.findProperty? name = some p ∧ p.collection = true
  | .set => name = "tag" ∨ ∃ p, env.entity.findProperty? name = some p
  | .tag => name = "tag" ∨ ∃ p, env.entity.findProperty? name = some p

inductive CommandValue (e : Element) : WrittenValue → Prop where
  | given {kind : CommandElement} {names : List String} {a : Attribute}
    (hkind : CommandElement.ofName? e.name = some kind) (htag : kind ≠ .tag)
    (hnames : e.comparableNames = .ok names) (ha : Reaches (kind.translate env e) e.attributes a)
    (htakes : env.Takes kind a.name) : CommandValue e ⟨e, some a.name, a.value⟩
  | tag {names : List String} {raw : String}
    (hkind : CommandElement.ofName? e.name = some .tag) (hnames : e.comparableNames = .ok names)
    (hraw : e.attribute? "value" = .ok (some raw)) : CommandValue e ⟨e, some "value", raw⟩

inductive ChildValue (e : Element) : WrittenValue → Prop where
  | text {name : String} {p : Property} (h : e.attributes = []) (hname : e.comparableName = .ok name)
    (hp : env.entity.findProperty? name = some p) : ChildValue e ⟨e, none, e.content⟩
  | commands {v : WrittenValue} (h : e.attributes ≠ []) (hv : env.CommandValue e v) : ChildValue e v

def OwnValue (e : Element) (a : Attribute) (v : WrittenValue) : Prop :=
  Xml.comparable a.name = .ok a.name ∧
    (a.name = "id" ∨ a.name = "tag" ∨ ∃ p, env.entity.findProperty? a.name = some p) ∧
    v = ⟨e, some a.name, a.value⟩

variable {env} {kind : CommandElement} {e : Element} {a : Attribute} {f : Fault}

theorem takes_iff (htag : kind ≠ .tag) {name : String} :
    env.Takes kind name ↔ kind = .set ∧ name = "tag" ∨
      ∃ p, env.entity.findProperty? name = some p ∧ (kind = .add → p.collection = true) := by
  cases kind with
  | tag => contradiction
  | _ => simp [Takes]

theorem not_isBadValue_of_required {name : String} (h : required e name = .error f) :
    ¬ f.IsBadValue := by
  obtain ⟨n, -, rfl⟩ | ⟨-, rfl⟩ := required_eq_error_iff.mp h
  · simp [Fault.IsBadValue, Fault.ofName]
  · simp [Fault.IsBadValue]

section

variable (hsubstitute : env.substitute = true) (hf : f.IsBadValue)
include hsubstitute hf

theorem rejects_iff_spoils (htag : kind ≠ .tag) : env.Rejects kind e a f ↔
    env.Takes kind a.name ∧ WrittenValue.Spoils env.lookup ⟨e, some a.name, a.value⟩ f := by
  rw [takes_iff htag]
  constructor
  · intro h
    cases h with
    | undefinedProperty => simp [Fault.IsBadValue] at hf
    | notCollection => simp [Fault.IsBadValue] at hf
    | badValue hproperty _ hvalue => exact ⟨hproperty, _, hvalue, rfl⟩
  · rintro ⟨htakes, err, herr, rfl⟩
    exact .badValue htakes hsubstitute herr

theorem ofCommandElement_eq_error_iff_spoils : env.ofCommandElement e = .error f ↔
    ∃ v, env.CommandValue e v ∧ v.Spoils env.lookup f := by
  rw [ofCommandElement_eq_error_iff_rejectsAll]
  constructor
  · intro h
    cases h with
    | malformedName => simp [Fault.IsBadValue, Fault.ofName] at hf
    | undefinedCommand => simp [Fault.IsBadValue] at hf
    | first hnames hkind htag hattributes hbefore ha =>
      simp only [← translate_eq_ok_iff (e := e) htag] at hbefore
      obtain ⟨htakes, hspoils⟩ := (rejects_iff_spoils hsubstitute hf htag).mp ha
      exact ⟨_, .given hkind htag hnames ⟨_, _, hattributes, hbefore⟩ htakes, hspoils⟩
    | badTag hnames hkind hraw _ hvalue =>
      exact ⟨_, .tag hkind hnames hraw, _, hvalue, rfl⟩
  · rintro ⟨v, hv, hspoils⟩
    cases hv with
    | given hkind htag hnames ha htakes =>
      obtain ⟨before, after, hattributes, hbefore⟩ := ha
      simp only [translate_eq_ok_iff htag] at hbefore
      exact .first hnames hkind htag hattributes hbefore
        ((rejects_iff_spoils hsubstitute hf htag).mpr ⟨htakes, hspoils⟩)
    | tag hkind hnames hraw =>
      obtain ⟨err, herr, rfl⟩ := hspoils
      exact .badTag hnames hkind hraw hsubstitute herr

theorem ofChild_eq_error_iff_spoils : env.ofChild e = .error f ↔
    ∃ v, env.ChildValue e v ∧ v.Spoils env.lookup f := by
  by_cases hattributes : e.attributes = []
  · rw [ofChild_eq_error_iff hattributes]
    constructor
    · intro h
      cases h with
      | malformedName => simp [Fault.IsBadValue, Fault.ofName] at hf
      | undefinedProperty => simp [Fault.IsBadValue] at hf
      | badValue hname hp _ hvalue => exact ⟨_, .text hattributes hname hp, _, hvalue, rfl⟩
    · rintro ⟨v, hv, err, herr, rfl⟩
      cases hv with
      | text _ hname hp =>
        obtain rfl := Xml.eq_of_comparable hname
        exact .badValue hname hp hsubstitute herr
      | commands hsome => contradiction
  · rw [ofChild_of_attributes hattributes, ofCommandElement_eq_error_iff_spoils hsubstitute hf]
    constructor
    · rintro ⟨v, hv, hspoils⟩
      exact ⟨v, .commands hattributes hv, hspoils⟩
    · rintro ⟨v, hv, hspoils⟩
      cases hv with
      | text hnil => contradiction
      | commands _ hv => exact ⟨v, hv, hspoils⟩

theorem ofChildren_eq_error_iff_spoils : env.ofChildren e = .error f ↔
    ∃ child, Reaches env.ofChild e.elements child ∧
      ∃ v, env.ChildValue child v ∧ v.Spoils env.lookup f := by
  simp only [ofChildren_eq_error_iff, mapM_eq_error_iff_reaches,
    ofChild_eq_error_iff_spoils hsubstitute hf]

theorem rejectsOwn_iff_spoils : env.RejectsOwn e a f ↔
    ∃ v, env.OwnValue e a v ∧ v.Spoils env.lookup f := by
  constructor
  · intro h
    cases h with
    | malformedName => simp [Fault.IsBadValue, Fault.ofName] at hf
    | badId hname hid _ hvalue => exact ⟨_, ⟨hname, .inl hid, rfl⟩, _, hvalue, rfl⟩
    | command hname _ hrejects =>
      obtain ⟨htakes, hspoils⟩ := (rejects_iff_spoils hsubstitute hf (by simp)).mp hrejects
      exact ⟨_, ⟨hname, .inr htakes, rfl⟩, hspoils⟩
  · rintro ⟨v, ⟨hname, htakes, rfl⟩, hspoils⟩
    by_cases hid : a.name = "id"
    · obtain ⟨err, herr, rfl⟩ := hspoils
      exact .badId hname hid hsubstitute herr
    · exact .command hname hid ((rejects_iff_spoils hsubstitute hf (by simp)).mpr
        ⟨htakes.resolve_left hid, hspoils⟩)

theorem ofAttributes_eq_error_iff_spoils : env.ofAttributes e = .error f ↔
    ∃ a, Reaches (Lexical.ofAttribute env e) e.attributes a ∧
      ∃ v, env.OwnValue e a v ∧ v.Spoils env.lookup f := by
  simp only [ofAttributes_eq_error_iff, mapM_eq_error_iff_reaches, ownAttribute_eq_error_iff,
    rejectsOwn_iff_spoils hsubstitute hf]

theorem ofVariableElement_eq_error_iff_spoils : env.ofVariableElement e = .error f ↔
    ∃ name, e.attribute? "name" = .ok (some name) ∧
      ∃ raw, e.attribute? "value" = .ok (some raw) ∧
        WrittenValue.Spoils env.lookup ⟨e, some "value", raw⟩ f := by
  have hrequired (name : String) : required e name ≠ .error f :=
    fun h => not_isBadValue_of_required h hf
  unfold WrittenValue.Spoils
  simp only [ofVariableElement_eq_error_iff, hrequired, false_or, value_eq_error_iff, hsubstitute,
    true_and, eq_comm (a := f)]

end

end Environment
end Catalog
