import Catalog.Proofs.Record.Frame
import Catalog.Proofs.Translation.Names
/-!
This module contains the three ways to give a property its value: by an attribute of a record's
element, by an element in it, and by an attribute of an element in it with the command `set`. They
succeed alike, and come to the same command.
-/

namespace Catalog

open Xml (Element Attribute)

def Xml.Attribute.IsProperty (a : Attribute) : Prop := a.name ≠ "id" ∧ a.name ≠ "tag"

instance : DecidablePred Attribute.IsProperty := fun _ => inferInstanceAs (Decidable (_ ∧ _))

namespace Environment

variable {env : Environment} {e : Element}

theorem lexical_ofAttribute_eq_ok_iff {a : Attribute} (h : a.IsProperty) {x : String ⊕ Command} :
    Lexical.ofAttribute env e a = .ok x ↔ ∃ c, env.Assigns a.name a.value c ∧ .inr c = x := by
  rw [ownAttribute_eq_ok_iff]
  constructor
  · intro hgives
    cases hgives with
    | id _ hid => exact absurd hid h.1
    | command hname _ hc => exact ⟨_, ⟨hname, (gives_set_iff h.2).mp hc⟩, rfl⟩
  · rintro ⟨c, hassigns, rfl⟩
    exact .command hassigns.comparable h.1 ((gives_set_iff h.2).mpr hassigns.command)

theorem ofChild_set_eq_ok_iff (hname : e.name = "set") (hsome : e.attributes ≠ [])
    (h : ∀ a ∈ e.attributes, a.IsProperty) {cs : List Command} :
    env.ofChild e = .ok cs ↔
      List.Forall₂ (fun a c => env.Assigns a.name a.value c) e.attributes cs := by
  have hkind : CommandElement.ofName? e.name = some .set := by
    rw [hname]
    decide
  rw [ofChild_of_attributes hsome, env.ofCommandElement_eq_translate hkind (by decide),
    bind_eq_ok_iff]
  simp only [mapM_eq_ok_iff, translate_eq_ok_iff (show CommandElement.set ≠ .tag by decide)]
  constructor
  · rintro ⟨names, hnames, hcs⟩
    have htold := exists_tell_eq_ok_iff.mp ⟨names, hnames⟩
    have hall := (List.forall₂_and_left _ _).mpr
      ⟨fun a ha => And.intro (htold a ha) (h a ha), hcs⟩
    apply hall.imp
    rintro a c ⟨⟨hcomparable, hproperty⟩, hc⟩
    exact ⟨hcomparable, (gives_set_iff hproperty.2).mp hc⟩
  · intro hassigns
    have htold := (List.forall₂_and_left _ _).mp (hassigns.imp fun _ _ ha => ⟨ha.comparable, ha⟩)
    obtain ⟨names, hnames⟩ := exists_tell_eq_ok_iff.mpr htold.1
    refine ⟨names, hnames, ?_⟩
    apply ((List.forall₂_and_left _ _).mpr ⟨h, hassigns⟩).imp
    rintro a c ⟨hproperty, hassigned⟩
    exact (gives_set_iff hproperty.2).mpr hassigned.command

end Environment
end Catalog
