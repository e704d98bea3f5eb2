import Catalog.Proofs.Entity.Visible
import Catalog.Proofs.Environment
/-!
This module contains what single attributes of elements with commands are translated to, and why
some cannot be translated. Of several reasons the first one counts: that nothing declares the
property, then that it is no collection, then that the value cannot be resolved.
-/

namespace Catalog

open Xml (Element Attribute)

def CommandElement.translate (kind : CommandElement) (env : Environment) (e : Element)
    (a : Attribute) : Except Fault Command :=
  match kind with
  | .append => env.ofCommandAttribute e .append a
  | .prepend => env.ofCommandAttribute e .prepend a
  | .add => env.ofAddAttribute e a
  | .set => env.ofAttribute e a.name a.value
  | .tag => env.ofAttribute e a.name a.value

namespace Environment

/--
What an attribute of an element with commands of the given kind is translated to.
-/
inductive Gives (env : Environment) (kind : CommandElement) (a : Attribute) : Command → Prop where
  | addTag {value : String} (hkind : kind = .set) (hname : a.name = "tag")
    (hvalue : env.Resolves a.value value) : Gives env kind a (.addTag value)
  | set {p : Property} {value : String} (hkind : kind = .set)
    (hproperty : env.entity.findProperty? a.name = some p) (hcollection : p.collection = false)
    (hvalue : env.Resolves a.value value) : Gives env kind a (.set a.name value)
  | addItem {p : Property} {value : String} (hkind : kind = .set ∨ kind = .add)
    (hproperty : env.entity.findProperty? a.name = some p) (hcollection : p.collection = true)
    (hvalue : env.Resolves a.value value) : Gives env kind a (.addItem a.name value)
  | append {p : Property} {value : String} (hkind : kind = .append)
    (hproperty : env.entity.findProperty? a.name = some p)
    (hvalue : env.Resolves a.value value) : Gives env kind a (.append a.name value)
  | prepend {p : Property} {value : String} (hkind : kind = .prepend)
    (hproperty : env.entity.findProperty? a.name = some p)
    (hvalue : env.Resolves a.value value) : Gives env kind a (.prepend a.name value)

/--
Why an attribute of an element with commands of the given kind is not translated. An attribute that
gives a tag needs no property.
-/
inductive Rejects (env : Environment) (kind : CommandElement) (e : Element) (a : Attribute) :
    Fault → Prop where
  | undefinedProperty (hname : kind = .set → a.name ≠ "tag")
    (hproperty : env.entity.findProperty? a.name = none) :
    Rejects env kind e a ⟨.undefinedProperty a.name, e, some a.name⟩
  | notCollection {p : Property} (hkind : kind = .add)
    (hproperty : env.entity.findProperty? a.name = some p) (hcollection : p.collection = false) :
    Rejects env kind e a ⟨.notCollection a.name, e, some a.name⟩
  | badValue {err : ValueError}
    (hproperty : kind = .set ∧ a.name = "tag" ∨
      ∃ p, env.entity.findProperty? a.name = some p ∧ (kind = .add → p.collection = true))
    (hsubstitute : env.substitute = true) (hvalue : resolve? env.lookup a.value = .error err) :
    Rejects env kind e a ⟨.badValue err, e, some a.name⟩

variable {env : Environment} {kind : CommandElement} {e : Element} {a : Attribute}

theorem rejects_iff {f : Fault} (hname : kind = .set → a.name ≠ "tag") (hadd : kind ≠ .add) :
    env.Rejects kind e a f ↔
      env.entity.findProperty? a.name = none ∧
          ⟨.undefinedProperty a.name, e, some a.name⟩ = f ∨
        ∃ p, env.entity.findProperty? a.name = some p ∧ env.substitute = true ∧
          ∃ err, resolve? env.lookup a.value = .error err ∧
            ⟨.badValue err, e, some a.name⟩ = f := by
  constructor
  · intro h
    cases h with
    | undefinedProperty _ hproperty => exact .inl ⟨hproperty, rfl⟩
    | notCollection hkind => contradiction
    | badValue hproperty hsubstitute hvalue =>
      obtain ⟨hkind, htag⟩ | ⟨p, hp, -⟩ := hproperty
      · exact absurd htag (hname hkind)
      · exact .inr ⟨p, hp, hsubstitute, _, hvalue, rfl⟩
  · rintro (⟨hproperty, rfl⟩ | ⟨p, hp, hsubstitute, err, hvalue, rfl⟩)
    · exact .undefinedProperty hname hproperty
    · exact .badValue (.inr ⟨p, hp, fun hkind => absurd hkind hadd⟩) hsubstitute hvalue

theorem ofAttribute_eq_error_iff {f : Fault} :
    env.ofAttribute e a.name a.value = .error f ↔ env.Rejects .set e a f := by
  unfold ofAttribute
  split
  · next htag =>
    constructor
    · intro h
      obtain ⟨hsubstitute, err, hvalue, rfl⟩ := value_eq_error_iff.mp (map_eq_error_iff.mp h)
      exact .badValue (.inl ⟨rfl, htag⟩) hsubstitute hvalue
    · intro h
      have hvalue : env.value e a.value (some a.name) = .error f := by
        cases h with
        | undefinedProperty hname => exact absurd htag (hname rfl)
        | notCollection hkind => contradiction
        | badValue _ hsubstitute hvalue =>
          exact value_eq_error_iff.mpr ⟨hsubstitute, _, hvalue, rfl⟩
      rw [hvalue]
      rfl
  · next htag =>
    rw [rejects_iff (fun _ => htag) (by decide)]
    simp only [bind_eq_error_iff, property_eq_error_iff, property_eq_ok_iff, value_eq_error_iff,
      return_ne_error, and_false, exists_false, or_false]

theorem ofCommandAttribute_eq_error_iff {make : String → String → Command} {f : Fault}
    (hset : kind ≠ .set) (hadd : kind ≠ .add) :
    env.ofCommandAttribute e make a = .error f ↔ env.Rejects kind e a f := by
  rw [rejects_iff (fun hkind => absurd hkind hset) hadd]
  unfold ofCommandAttribute
  simp only [bind_eq_error_iff, property_eq_error_iff, property_eq_ok_iff, value_eq_error_iff,
    return_ne_error, and_false, exists_false, or_false]

theorem ofAddAttribute_eq :
    env.ofAddAttribute e a = (env.property e a.name (some a.name) >>= fun p =>
      if p.collection then env.value e a.value (some a.name) >>= fun item =>
        pure (.addItem a.name item)
      else .error ⟨.notCollection a.name, e, some a.name⟩) := by
  unfold ofAddAttribute
  congr 1
  funext p
  cases p.collection with
  | false => rfl
  | true => rfl

theorem ofAddAttribute_eq_error_iff {f : Fault} :
    env.ofAddAttribute e a = .error f ↔ env.Rejects .add e a f := by
  rw [ofAddAttribute_eq]
  simp only [bind_eq_error_iff, property_eq_error_iff, property_eq_ok_iff]
  constructor
  · rintro (⟨hproperty, rfl⟩ | ⟨p, hp, h⟩)
    · exact .undefinedProperty (by simp) hproperty
    · split at h
      · next hcollection =>
        simp only [bind_eq_error_iff, value_eq_error_iff, return_ne_error, and_false, exists_false,
          or_false] at h
        obtain ⟨hsubstitute, err, hvalue, rfl⟩ := h
        exact .badValue (.inr ⟨p, hp, fun _ => hcollection⟩) hsubstitute hvalue
      · next hcollection =>
        obtain rfl := Except.error.inj h
        exact .notCollection rfl hp (by simpa using hcollection)
  · intro h
    cases h with
    | undefinedProperty _ hproperty => exact .inl ⟨hproperty, rfl⟩
    | notCollection _ hp hcollection =>
      refine .inr ⟨_, hp, ?_⟩
      rw [if_neg (by simp [hcollection])]
    | badValue hproperty hsubstitute hvalue =>
      obtain ⟨hkind, -⟩ | ⟨p, hp, hcollection⟩ := hproperty
      · contradiction
      · refine .inr ⟨p, hp, ?_⟩
        rw [if_pos (hcollection rfl), bind_eq_error_iff, value_eq_error_iff]
        exact .inl ⟨hsubstitute, _, hvalue, rfl⟩

theorem translate_eq_error_iff (htag : kind ≠ .tag) {f : Fault} :
    kind.translate env e a = .error f ↔ env.Rejects kind e a f := by
  cases kind with
  | set => exact ofAttribute_eq_error_iff
  | append => exact ofCommandAttribute_eq_error_iff (by simp) (by simp)
  | prepend => exact ofCommandAttribute_eq_error_iff (by simp) (by simp)
  | add => exact ofAddAttribute_eq_error_iff
  | tag => contradiction

theorem Gives.eq_addTag {c : Command} (h : env.Gives .set a c) (hname : a.name = "tag") :
    ∃ value, env.Resolves a.value value ∧ .addTag value = c := by
  have hreserved : env.entity.findProperty? a.name = none := by
    rw [hname]
    exact env.entity.findProperty?_tag
  cases h with
  | addTag _ _ hvalue => exact ⟨_, hvalue, rfl⟩
  | set _ hproperty => simp [hreserved] at hproperty
  | addItem _ hproperty => simp [hreserved] at hproperty
  | append hkind => contradiction
  | prepend hkind => contradiction

theorem ofAttribute_eq_ok_iff {name raw : String} {c : Command} (h : name ≠ "tag") :
    env.ofAttribute e name raw = .ok c ↔
      ∃ p, env.entity.findProperty? name = some p ∧
        ∃ value, env.Resolves raw value ∧ assign p name value = c := by
  unfold Environment.ofAttribute
  rw [if_neg h]
  simp only [bind_eq_ok_iff, property_eq_ok_iff, value_eq_ok_iff, pure, Except.pure,
    Except.ok.injEq]

theorem gives_set_iff (h : a.name ≠ "tag") {c : Command} :
    env.Gives .set a c ↔ ∃ p, env.entity.findProperty? a.name = some p ∧
      ∃ value, env.Resolves a.value value ∧ assign p a.name value = c := by
  unfold assign
  constructor
  · intro h
    cases h with
    | addTag _ hname => contradiction
    | set _ hp hcollection hvalue => exact ⟨_, hp, _, hvalue, if_neg (by simp [hcollection])⟩
    | addItem _ hp hcollection hvalue => exact ⟨_, hp, _, hvalue, if_pos hcollection⟩
    | append hkind => contradiction
    | prepend hkind => contradiction
  · rintro ⟨p, hp, value, hvalue, rfl⟩
    split
    · next hcollection => exact .addItem (.inl rfl) hp hcollection hvalue
    · next hcollection => exact .set rfl hp (by simpa using hcollection) hvalue

theorem ofAttribute_eq_ok_iff_gives {c : Command} :
    env.ofAttribute e a.name a.value = .ok c ↔ env.Gives .set a c := by
  by_cases htag : a.name = "tag"
  · unfold ofAttribute
    rw [if_pos htag]
    constructor
    · intro h
      obtain ⟨value, hvalue, rfl⟩ := map_eq_ok_iff.mp h
      exact .addTag rfl htag (value_eq_ok_iff.mp hvalue)
    · intro h
      obtain ⟨value, hvalue, rfl⟩ := h.eq_addTag htag
      rw [value_eq_ok_iff.mpr hvalue]
      rfl
  · rw [ofAttribute_eq_ok_iff htag, gives_set_iff htag]

theorem ofCommandAttribute_eq_ok_iff {make : String → String → Command} {c : Command} :
    env.ofCommandAttribute e make a = .ok c ↔ ∃ p, env.entity.findProperty? a.name = some p ∧
      ∃ value, env.Resolves a.value value ∧ make a.name value = c := by
  unfold ofCommandAttribute
  simp only [bind_eq_ok_iff, property_eq_ok_iff, value_eq_ok_iff, pure, Except.pure,
    Except.ok.injEq]

theorem ofAddAttribute_eq_ok_iff {c : Command} :
    env.ofAddAttribute e a = .ok c ↔ env.Gives .add a c := by
  rw [ofAddAttribute_eq]
  simp only [bind_eq_ok_iff, property_eq_ok_iff]
  constructor
  · rintro ⟨p, hp, h⟩
    split at h
    · next hcollection =>
      obtain ⟨item, hitem, h⟩ := bind_eq_ok_iff.mp h
      obtain rfl := Except.ok.inj h
      exact .addItem (.inr rfl) hp hcollection (value_eq_ok_iff.mp hitem)
    · simp at h
  · intro h
    cases h with
    | addTag hkind => contradiction
    | set hkind => contradiction
    | addItem _ hp hcollection hvalue =>
      refine ⟨_, hp, ?_⟩
      rw [if_pos hcollection, value_eq_ok_iff.mpr hvalue]
      rfl
    | append hkind => contradiction
    | prepend hkind => contradiction

theorem translate_eq_ok_iff (htag : kind ≠ .tag) {c : Command} :
    kind.translate env e a = .ok c ↔ env.Gives kind a c := by
  cases kind with
  | set => exact ofAttribute_eq_ok_iff_gives
  | append =>
    refine ofCommandAttribute_eq_ok_iff.trans ⟨?_, ?_⟩
    · rintro ⟨p, hp, value, hvalue, rfl⟩
      exact .append rfl hp hvalue
    · intro h
      cases h with
      | append _ hp hvalue => exact ⟨_, hp, _, hvalue, rfl⟩
      | addItem hkind => simp at hkind
      | _ hkind => contradiction
  | prepend =>
    refine ofCommandAttribute_eq_ok_iff.trans ⟨?_, ?_⟩
    · rintro ⟨p, hp, value, hvalue, rfl⟩
      exact .prepend rfl hp hvalue
    · intro h
      cases h with
      | prepend _ hp hvalue => exact ⟨_, hp, _, hvalue, rfl⟩
      | addItem hkind => simp at hkind
      | _ hkind => contradiction
  | add => exact ofAddAttribute_eq_ok_iff
  | tag => contradiction

end Environment
end Catalog
