import Catalog.Proofs.Report
import Catalog.Proofs.Translation.Names
/-!
This module contains how the commands of an element come from its attributes: what an element is
translated to whose only attribute is one of them, and what all of them make of that. All names are
told before the first attribute is translated, so that a malformed one comes before any other fault.
-/

namespace Catalog

open Xml (Element Attribute)

def Xml.Element.only (e : Element) (a : Attribute) : Element :=
  { e with tag := { e.tag with attributes := [a] } }

namespace Environment

/--
The fault of an element with commands whose attribute `a` is the first that is refused alone, with
the fault `f`: this one, unless the attribute has a name and one behind it has a malformed name.
-/
inductive Surfaces (e : Element) (a : Attribute) (after : List Attribute) (f : Fault) :
    Fault → Prop where
  | first (h : Xml.comparable a.name = .ok a.name →
      ∀ b ∈ after, Xml.comparable b.name = .ok b.name) :
    Surfaces e a after f (f.with e)
  | later {between rest : List Attribute} {b : Attribute} {n : Xml.MalformedName}
      (hname : Xml.comparable a.name = .ok a.name) (hafter : after = between ++ b :: rest)
      (hbetween : ∀ c ∈ between, Xml.comparable c.name = .ok c.name)
      (hb : Xml.comparable b.name = .error n) :
    Surfaces e a after f (.ofName e n)

structure TranslatesSingly (env : Environment) (kind : CommandElement) (e : Element) : Prop where
  alone_ok : ∀ a cs, env.ofCommandElement (e.only a) = .ok cs ↔
    Xml.comparable a.name = .ok a.name ∧ ∃ c, env.Gives kind a c ∧ cs = [c]
  alone_error : ∀ a f, env.ofCommandElement (e.only a) = .error f ↔
    (∃ n, Xml.comparable a.name = .error n ∧ f = .ofName (e.only a) n) ∨
      Xml.comparable a.name = .ok a.name ∧ env.Rejects kind (e.only a) a f
  succeeds : (∃ cs, env.ofCommandElement e = .ok cs) ↔
    ∀ a ∈ e.attributes, ∃ cs, env.ofCommandElement (e.only a) = .ok cs
  commands : ∀ cs, env.ofCommandElement e = .ok cs ↔
    List.Forall₂ (fun a c => env.ofCommandElement (e.only a) = .ok [c]) e.attributes cs
  fails : ∀ g, env.ofCommandElement e = .error g ↔ ∃ before a after f,
    e.attributes = before ++ a :: after ∧
      (∀ b ∈ before, ∃ cs, env.ofCommandElement (e.only b) = .ok cs) ∧
      env.ofCommandElement (e.only a) = .error f ∧ Surfaces e a after f g
  told : ∀ (sec : Section) a f, env.ofCommandElement (e.only a) = .error f →
    (sec.report (f.with e)).problem = (sec.report f).problem ∧
      (sec.report (f.with e)).place.map (·.attributeName) =
        (sec.report f).place.map (·.attributeName)

variable {env : Environment} {kind : CommandElement} {e : Element} {a : Attribute} {f : Fault}

theorem exists_surfaces (e : Element) (a : Attribute) (after : List Attribute) (f : Fault) :
    ∃ g, Surfaces e a after f g := by
  by_cases hname : Xml.comparable a.name = .ok a.name
  · cases htold : tell e after with
    | ok names => exact ⟨_, .first fun _ => exists_tell_eq_ok_iff.mp ⟨names, htold⟩⟩
    | error f' =>
      obtain ⟨between, b, rest, n, hafter, hbetween, hb, -⟩ := tell_eq_error_iff.mp htold
      exact ⟨_, .later hname hafter hbetween hb⟩
  · exact ⟨_, .first fun h => absurd h hname⟩

theorem report_only (h : env.ofCommandElement (e.only a) = .error f) (sec : Section) :
    (sec.report (f.with e)).problem = (sec.report f).problem ∧
      (sec.report (f.with e)).place.map (·.attributeName) =
        (sec.report f).place.map (·.attributeName) := by
  have helement : f.element = e.only a :=
    (ofCommandElement_eq_error_iff_rejectsAll.mp h).element_eq
  have hname : (f.with e).element.name = f.element.name := by
    rw [helement]
    rfl
  have hproblem : (f.with e).problem = f.problem := rfl
  obtain ⟨n, hreport, hreport'⟩ | ⟨name, hreport, hreport'⟩ :=
    sec.report_of_same sec hproblem hname
  · rw [hreport, hreport']
    exact ⟨rfl, rfl⟩
  · rw [hreport, hreport']
    exact ⟨rfl, rfl⟩

section

variable (hkind : CommandElement.ofName? e.name = some kind) (htag : kind ≠ .tag)

include hkind htag

theorem ofCommandElement_eq_ok_iff {cs : List Command} :
    env.ofCommandElement e = .ok cs ↔
      (∀ a ∈ e.attributes, Xml.comparable a.name = .ok a.name) ∧
        List.Forall₂ (fun a c => env.Gives kind a c) e.attributes cs := by
  rw [env.ofCommandElement_eq_translate hkind htag, bind_eq_ok_iff,
    ← exists_tell_eq_ok_iff (e := e), exists_and_right, mapM_eq_ok_iff]
  simp only [translate_eq_ok_iff htag]

theorem ofCommandElement_of_malformed_attribute {before after : List Attribute} {n : Xml.MalformedName}
    (hattributes : e.attributes = before ++ a :: after)
    (hbefore : ∀ b ∈ before, Xml.comparable b.name = .ok b.name)
    (ha : Xml.comparable a.name = .error n) :
    env.ofCommandElement e = .error (.ofName e n) := by
  rw [env.ofCommandElement_eq_translate hkind htag, bind_eq_error_iff]
  left
  exact tell_eq_error_iff.mpr ⟨before, a, after, n, hattributes, hbefore, ha, rfl⟩

theorem ofCommandElement_of_rejects {before after : List Attribute}
    (hattributes : e.attributes = before ++ a :: after)
    (htold : ∀ b ∈ e.attributes, Xml.comparable b.name = .ok b.name)
    (hbefore : ∀ b ∈ before, ∃ c, env.Gives kind b c) (ha : env.Rejects kind e a f) :
    env.ofCommandElement e = .error f := by
  obtain ⟨names, hnames⟩ := exists_tell_eq_ok_iff.mpr htold
  rw [env.ofCommandElement_eq_translate hkind htag, hnames]
  have htranslated : ∀ b ∈ before, ∃ c, kind.translate env e b = .ok c := by
    simpa only [translate_eq_ok_iff htag] using hbefore
  exact mapM_eq_error_iff.mpr
    ⟨before, a, after, hattributes, htranslated, (translate_eq_error_iff htag).mpr ha⟩

theorem ofCommandElement_only_eq_ok_iff {cs : List Command} :
    env.ofCommandElement (e.only a) = .ok cs ↔
      Xml.comparable a.name = .ok a.name ∧ ∃ c, env.Gives kind a c ∧ cs = [c] := by
  have honly : (e.only a).attributes = [a] := rfl
  have hname : CommandElement.ofName? (e.only a).name = some kind := hkind
  rw [ofCommandElement_eq_ok_iff hname htag, honly, List.forall_mem_singleton,
    List.forall₂_cons_left_iff]
  simp only [List.forall₂_nil_left_iff]
  simp

theorem ofCommandElement_only_eq_error_iff :
    env.ofCommandElement (e.only a) = .error f ↔
      (∃ n, Xml.comparable a.name = .error n ∧ f = .ofName (e.only a) n) ∨
        Xml.comparable a.name = .ok a.name ∧ env.Rejects kind (e.only a) a f := by
  have hattributes : (e.only a).attributes = [] ++ a :: [] := rfl
  have hname : CommandElement.ofName? (e.only a).name = some kind := hkind
  cases hcomparable : Xml.comparable a.name with
  | error n =>
    rw [ofCommandElement_of_malformed_attribute hname htag hattributes (by simp) hcomparable]
    simp [eq_comm]
  | ok name =>
    obtain rfl := Xml.eq_of_comparable hcomparable
    have htold : ∀ b ∈ (e.only a).attributes, Xml.comparable b.name = .ok b.name := by
      rw [hattributes, List.nil_append, List.forall_mem_singleton]
      exact hcomparable
    obtain ⟨names, hnames⟩ := exists_tell_eq_ok_iff.mpr htold
    have hlone : [a].mapM (kind.translate env (e.only a)) = .error f ↔
        kind.translate env (e.only a) a = .error f := by
      rw [List.mapM_cons, List.mapM_nil, bind_eq_error_iff]
      simp [return_ne_error]
    have htranslated : env.ofCommandElement (e.only a) = .error f ↔
        kind.translate env (e.only a) a = .error f := by
      rw [env.ofCommandElement_eq_translate hname htag, hnames]
      exact hlone
    rw [htranslated, translate_eq_error_iff htag]
    simp

theorem exists_ofCommandElement_eq_ok_iff :
    (∃ cs, env.ofCommandElement e = .ok cs) ↔
      ∀ a ∈ e.attributes, ∃ cs, env.ofCommandElement (e.only a) = .ok cs := by
  have hwhole : (∃ cs, env.ofCommandElement e = .ok cs) ↔
      (∀ a ∈ e.attributes, Xml.comparable a.name = .ok a.name) ∧
        ∀ a ∈ e.attributes, ∃ c, kind.translate env e a = .ok c := by
    rw [env.ofCommandElement_eq_translate hkind htag, ← exists_tell_eq_ok_iff (e := e),
      ← exists_mapM_eq_ok_iff]
    simp only [bind_eq_ok_iff]
    exact exists_comm.trans (by simp only [exists_and_left, exists_and_right])
  simp only [hwhole, ofCommandElement_only_eq_ok_iff hkind htag, translate_eq_ok_iff htag]
  constructor
  · rintro ⟨htold, hgives⟩ a ha
    obtain ⟨c, hc⟩ := hgives a ha
    exact ⟨[c], htold a ha, c, hc, rfl⟩
  · intro h
    constructor
    · intro a ha
      obtain ⟨cs, hcomparable, -⟩ := h a ha
      exact hcomparable
    · intro a ha
      obtain ⟨cs, -, c, hc, -⟩ := h a ha
      exact ⟨c, hc⟩

theorem ofCommandElement_eq_ok_iff_only {cs : List Command} :
    env.ofCommandElement e = .ok cs ↔
      List.Forall₂ (fun a c => env.ofCommandElement (e.only a) = .ok [c]) e.attributes cs := by
  have honly (a : Attribute) (c : Command) : env.ofCommandElement (e.only a) = .ok [c] ↔
      Xml.comparable a.name = .ok a.name ∧ env.Gives kind a c := by
    rw [ofCommandElement_only_eq_ok_iff hkind htag]
    simp
  simp only [ofCommandElement_eq_ok_iff hkind htag, honly]
  exact (List.forall₂_and_left _ _).symm

theorem ofCommandElement_of_surfaces {before after : List Attribute} {g : Fault}
    (hattributes : e.attributes = before ++ a :: after)
    (hbefore : ∀ b ∈ before, ∃ cs, env.ofCommandElement (e.only b) = .ok cs)
    (ha : env.ofCommandElement (e.only a) = .error f) (hg : Surfaces e a after f g) :
    env.ofCommandElement e = .error g := by
  simp only [ofCommandElement_only_eq_ok_iff hkind htag] at hbefore
  have htold : ∀ b ∈ before, Xml.comparable b.name = .ok b.name := by
    intro b hb
    obtain ⟨cs, hb, -⟩ := hbefore b hb
    exact hb
  cases hg with
  | first h =>
    obtain ⟨n, hn, rfl⟩ | ⟨hcomparable, hrejects⟩ :=
      (ofCommandElement_only_eq_error_iff hkind htag).mp ha
    · exact ofCommandElement_of_malformed_attribute hkind htag hattributes htold hn
    · apply ofCommandElement_of_rejects hkind htag hattributes
      · rw [hattributes, List.forall_mem_append, List.forall_mem_cons]
        exact ⟨htold, hcomparable, h hcomparable⟩
      · intro b hb
        obtain ⟨cs, -, c, hc, -⟩ := hbefore b hb
        exact ⟨c, hc⟩
      · exact hrejects.transfer (transfersFaults_refl env) (.refl a)
  | @later between rest b n hname hafter hbetween hb =>
    have hsplit : e.attributes = (before ++ a :: between) ++ b :: rest := by
      rw [hattributes, hafter]
      simp
    apply ofCommandElement_of_malformed_attribute hkind htag hsplit _ hb
    rw [List.forall_mem_append, List.forall_mem_cons]
    exact ⟨htold, hname, hbetween⟩

theorem ofCommandElement_eq_error_iff_only {g : Fault} :
    env.ofCommandElement e = .error g ↔ ∃ before a after f,
      e.attributes = before ++ a :: after ∧
        (∀ b ∈ before, ∃ cs, env.ofCommandElement (e.only b) = .ok cs) ∧
        env.ofCommandElement (e.only a) = .error f ∧ Surfaces e a after f g := by
  constructor
  · intro h
    cases halone : e.attributes.mapM fun a => env.ofCommandElement (e.only a) with
    | ok css =>
      obtain ⟨cs, hcs⟩ := (exists_ofCommandElement_eq_ok_iff hkind htag).mpr
        (exists_mapM_eq_ok_iff.mp ⟨css, halone⟩)
      simp [h] at hcs
    | error f =>
      obtain ⟨before, a, after, hattributes, hbefore, ha⟩ := mapM_eq_error_iff.mp halone
      obtain ⟨g', hg'⟩ := exists_surfaces e a after f
      have hwhole := ofCommandElement_of_surfaces hkind htag hattributes hbefore ha hg'
      obtain rfl : g' = g := Except.error.inj (hwhole.symm.trans h)
      exact ⟨before, a, after, f, hattributes, hbefore, ha, hg'⟩
  · rintro ⟨before, a, after, f, hattributes, hbefore, ha, hg⟩
    exact ofCommandElement_of_surfaces hkind htag hattributes hbefore ha hg

theorem translatesSingly : env.TranslatesSingly kind e where
  alone_ok _ _ := ofCommandElement_only_eq_ok_iff hkind htag
  alone_error _ _ := ofCommandElement_only_eq_error_iff hkind htag
  succeeds := exists_ofCommandElement_eq_ok_iff hkind htag
  commands _ := ofCommandElement_eq_ok_iff_only hkind htag
  fails _ := ofCommandElement_eq_error_iff_only hkind htag
  told sec _ _ h := report_only h sec

end

end Environment
end Catalog
