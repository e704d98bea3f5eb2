import Catalog.Proofs.Translation.Same
import Catalog.Proofs.Walk
/-!
This module contains how an element with commands is translated in two rounds: the names of all its
attributes are told before the first attribute is translated, so that a malformed one comes before
any other fault.
-/

namespace Catalog

open Xml (Element Attribute Node)

namespace Environment

variable (env : Environment)

theorem element_of_mapM_translate {kind : CommandElement} (htag : kind ≠ .tag) {e : Element}
    {as : List Attribute} {f : Fault} (h : as.mapM (kind.translate env e) = .error f) :
    f.element = e := by
  obtain ⟨before, a, after, -, -, ha⟩ := mapM_eq_error_iff.mp h
  exact element_of_rejects ((translate_eq_error_iff htag).mp ha)

def tell (e : Element) (as : List Attribute) : Except Fault (List String) :=
  (as.mapM fun a => Xml.comparable a.name).mapError (Fault.ofName e)

theorem ofCommandElement_eq_translate {e : Element} {kind : CommandElement}
    (hkind : CommandElement.ofName? e.name = some kind) (htag : kind ≠ .tag) :
    env.ofCommandElement e =
      (tell e e.attributes >>= fun _ => e.attributes.mapM (kind.translate env e)) := by
  -- The name of the element itself is one that can be told.
  have hnames : e.comparableNames =
      (e.attributes.mapM fun a => Xml.comparable a.name).map (e.name :: ·) := by
    have hmap : (e.attributes.map (·.name)).mapM Xml.comparable =
        e.attributes.mapM fun a => Xml.comparable a.name := List.mapM_map
    unfold Element.comparableNames
    rw [List.mapM_cons, CommandElement.comparable_of_ofName? hkind, hmap]
    rfl
  unfold tell
  cases htold : e.attributes.mapM fun a => Xml.comparable a.name with
  | error n =>
    rw [htold] at hnames
    exact ofCommandElement_of_malformed hnames
  | ok names =>
    rw [htold] at hnames
    exact ofCommandElement_of_kind hnames hkind htag

theorem tell_eq_error_iff {e : Element} {as : List Attribute} {f : Fault} :
    tell e as = .error f ↔ ∃ before a after n, as = before ++ a :: after ∧
      (∀ b ∈ before, Xml.comparable b.name = .ok b.name) ∧
      Xml.comparable a.name = .error n ∧ f = .ofName e n := by
  have htell : tell e as = .error f ↔
      ∃ n, as.mapM (fun a => Xml.comparable a.name) = .error n ∧ f = .ofName e n := by
    unfold tell
    cases as.mapM fun a => Xml.comparable a.name with
    | error n => simp [Except.mapError, eq_comm]
    | ok names => simp [Except.mapError]
  rw [htell]
  constructor
  · rintro ⟨n, hn, rfl⟩
    obtain ⟨before, a, after, rfl, hbefore, ha⟩ := mapM_eq_error_iff.mp hn
    refine ⟨before, a, after, n, rfl, ?_, ha, rfl⟩
    intro b hb
    obtain ⟨name, hname⟩ := hbefore b hb
    obtain rfl := Xml.eq_of_comparable hname
    exact hname
  · rintro ⟨before, a, after, n, rfl, hbefore, ha, rfl⟩
    exact ⟨n, mapM_eq_error_iff.mpr ⟨before, a, after, rfl, fun b hb => ⟨_, hbefore b hb⟩, ha⟩, rfl⟩

theorem exists_of_tell_eq_error {e : Element} {as : List Attribute} {f : Fault}
    (h : tell e as = .error f) :
    ∃ a ∈ as, ∃ n, Xml.comparable a.name = .error n ∧ f = .ofName e n := by
  obtain ⟨before, a, after, n, rfl, -, ha, hf⟩ := tell_eq_error_iff.mp h
  exact ⟨a, by simp, n, ha, hf⟩

theorem exists_tell_eq_ok_iff {e : Element} {as : List Attribute} :
    (∃ names, tell e as = .ok names) ↔ ∀ a ∈ as, Xml.comparable a.name = .ok a.name := by
  have hcomparable (a : Attribute) : (∃ name, Xml.comparable a.name = .ok name) ↔
      Xml.comparable a.name = .ok a.name := by
    constructor
    · rintro ⟨name, hname⟩
      obtain rfl := Xml.eq_of_comparable hname
      exact hname
    · intro h
      exact ⟨a.name, h⟩
  unfold tell
  simp only [mapError_eq_ok_iff, exists_mapM_eq_ok_iff, hcomparable]

theorem tell_with (e e' : Element) (as : List Attribute) :
    (tell e as).mapError (Fault.with e') = tell e' as := by
  unfold tell
  rw [mapError_mapError]
  rfl

theorem tell_append (e : Element) (as bs : List Attribute) :
    tell e (as ++ bs) = (do
      let names ← tell e as
      let more ← tell e bs
      return names ++ more) := by
  unfold tell
  rw [List.mapM_append]
  generalize (as.mapM fun a => Xml.comparable a.name) = names
  generalize (bs.mapM fun a => Xml.comparable a.name) = more
  cases names with
  | error n => rfl
  | ok names =>
    cases more with
    | error n => rfl
    | ok more => rfl

theorem ofCommandElement_eq_with (e e' : Element) {kind : CommandElement}
    (hkind : CommandElement.ofName? e'.name = some kind) (htag : kind ≠ .tag) :
    env.ofCommandElement e' = ((tell e e'.attributes).mapError (Fault.with e') >>= fun _ =>
      (e'.attributes.mapM (kind.translate env e)).mapError (Fault.with e')) := by
  rw [env.ofCommandElement_eq_translate hkind htag, tell_with, mapM_mapError]
  simp only [env.translate_with htag]

end Environment
end Catalog
