import Catalog.Environment
import Catalog.Proofs.Attribute
/-!
This module contains how an environment finds properties and resolves values, and when it does not.
-/

namespace Catalog

open Xml (Element)

def Fault.with (e : Element) (f : Fault) : Fault := { f with element := e }

namespace Environment

def Resolves (env : Environment) (raw value : String) : Prop :=
  if env.substitute then resolve? env.lookup raw = .ok value else raw = value

variable {env : Environment} {e : Element} {name raw : String} {attributeName : Option String}
  {f : Fault}

theorem value_eq_ok_iff {value : String} :
    env.value e raw attributeName = .ok value ↔ env.Resolves raw value := by
  unfold Environment.value Resolves
  split
  · exact mapError_eq_ok_iff
  · exact Except.ok.injEq raw value ▸ Iff.rfl

theorem value_eq_error_iff :
    env.value e raw attributeName = .error f ↔ env.substitute = true ∧
      ∃ err, resolve? env.lookup raw = .error err ∧ ⟨.badValue err, e, attributeName⟩ = f := by
  unfold Environment.value
  split
  · next hsubstitute => simp [mapError_eq_error_iff, hsubstitute]
  · next hsubstitute => simp [hsubstitute]

theorem property_eq_ok_iff {p : Property} :
    env.property e name attributeName = .ok p ↔ env.entity.findProperty? name = some p := by
  unfold property
  cases env.entity.findProperty? name with
  | none => simp
  | some q => simp

theorem property_eq_error_iff :
    env.property e name attributeName = .error f ↔ env.entity.findProperty? name = none ∧
      ⟨.undefinedProperty name, e, attributeName⟩ = f := by
  unfold property
  cases env.entity.findProperty? name with
  | none => simp
  | some p => simp

theorem comparable_eq_ok_iff {found : String} :
    (Xml.comparable name).mapError (Fault.ofName e) = .ok found ↔
      Xml.comparable name = .ok name ∧ found = name := by
  constructor
  · intro h
    have hok := mapError_eq_ok_iff.mp h
    obtain rfl := Xml.eq_of_comparable hok
    exact ⟨hok, rfl⟩
  · rintro ⟨h, rfl⟩
    rw [h]
    rfl

theorem required_eq_ok_iff : required e name = .ok raw ↔ e.attribute? name = .ok (some raw) := by
  unfold required
  rw [bind_eq_ok_iff]
  constructor
  · rintro ⟨found, hfound, h⟩
    cases found with
    | none => exact absurd h (throw_ne_ok _ _)
    | some value =>
      obtain rfl : value = raw := Except.ok.inj h
      exact mapError_eq_ok_iff.mp hfound
  · intro h
    exact ⟨some raw, mapError_eq_ok_iff.mpr h, rfl⟩

theorem required_eq_error_iff :
    required e name = .error f ↔ (∃ n, e.attribute? name = .error n ∧ .ofName e n = f) ∨
      e.attribute? name = .ok none ∧ ⟨.missingAttribute name, e, none⟩ = f := by
  unfold required
  rw [bind_eq_error_iff, mapError_eq_error_iff]
  apply or_congr_right
  constructor
  · rintro ⟨found, hfound, h⟩
    cases found with
    | none => exact ⟨mapError_eq_ok_iff.mp hfound, Except.error.inj h⟩
    | some value => exact absurd h (return_ne_error _ _)
  · rintro ⟨hnone, rfl⟩
    exact ⟨none, mapError_eq_ok_iff.mpr hnone, rfl⟩

end Environment
end Catalog
