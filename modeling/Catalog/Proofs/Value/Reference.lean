import Catalog.Proofs.Value.Pieces
/-!
This module contains what comes of a single reference in a raw value that can be cut into tokens as
far as this reference. There is only one way to cut a raw value into tokens.
-/

namespace Catalog.Value

def IsWellFormedName (name : List Char) : Prop :=
  ∃ (first : Char) (others : List Char), name = first :: others ∧
    (first.isAlpha ∨ first = '_') ∧
    ∀ c ∈ others, c.isAlphanum ∨ c = '_' ∨ c = '.' ∨ c = '-'

theorem isWellFormedName_cons_iff {first : Char} {others : List Char} :
    IsWellFormedName (first :: others) ↔
      (first.isAlpha ∨ first = '_') ∧
        ∀ c ∈ others, c.isAlphanum ∨ c = '_' ∨ c = '.' ∨ c = '-' := by
  constructor
  · rintro ⟨_, _, hname, hfirst, hothers⟩
    obtain ⟨rfl, rfl⟩ := List.cons.inj hname
    exact ⟨hfirst, hothers⟩
  · rintro ⟨hfirst, hothers⟩
    exact ⟨first, others, rfl, hfirst, hothers⟩

instance : DecidablePred IsWellFormedName
  | [] => isFalse nofun
  | _ :: _ =>
    -- Only the characters of the name are tried, not all that there are.
    @decidable_of_iff' _ _ isWellFormedName_cons_iff
      (@instDecidableAnd _ _ inferInstance (List.decidableBAll _ _))

theorem isVariableName_iff {name : List Char} :
    IsVariableName name ↔
      IsWellFormedName name ∨ ∃ formed, IsWellFormedName formed ∧ name = formed ++ ['\n'] := by
  constructor
  · rintro ⟨first, others, ending, rfl, hfirst, hothers, rfl | rfl⟩
    · left
      exact ⟨first, others, by simp, hfirst, hothers⟩
    · right
      exact ⟨first :: others, ⟨first, others, rfl, hfirst, hothers⟩, rfl⟩
  · rintro (⟨first, others, rfl, hfirst, hothers⟩ | ⟨-, ⟨first, others, rfl, hfirst, hothers⟩, rfl⟩)
    · exact ⟨first, others, [], by simp, hfirst, hothers, .inl rfl⟩
    · exact ⟨first, others, ['\n'], rfl, hfirst, hothers, .inr rfl⟩

namespace Token

def IsWhole : Token → Prop
  | .char _ => True
  | .reference name => ')' ∉ name

theorem IsProper.isWhole {t : Token} (h : t.IsProper) : t.IsWhole := by
  cases t with
  | char c => trivial
  | reference name => exact not_mem_of_isName h

theorem render_append_inj {t u : Token} (ht : t.IsWhole) (hu : u.IsWhole) {cs ds : List Char}
    (h : t.render ++ cs = u.render ++ ds) : t = u ∧ cs = ds := by
  cases t with
  | char c =>
    cases u with
    | char d =>
      by_cases hc : c = '$' <;> by_cases hd : d = '$' <;> grind [render]
    | reference name =>
      by_cases hc : c = '$' <;> grind [render]
  | reference name =>
    cases u with
    | char d =>
      by_cases hd : d = '$' <;> grind [render]
    | reference name' =>
      have hbehind : name ++ ')' :: cs = name' ++ ')' :: ds := by
        simpa [render] using h
      have hsplit := splitName_append ht cs
      rw [hbehind, splitName_append hu ds] at hsplit
      obtain ⟨rfl, rfl⟩ := Prod.mk.inj (Option.some.inj hsplit)
      exact ⟨rfl, rfl⟩

theorem exists_of_renderAll_append {ts us : List Token} (hts : ∀ t ∈ ts, t.IsWhole)
    (hus : ∀ u ∈ us, u.IsWhole) {cs : List Char} (h : renderAll ts ++ cs = renderAll us) :
    ∃ vs, us = ts ++ vs ∧ cs = renderAll vs := by
  induction ts generalizing us with
  | nil => exact ⟨us, rfl, h⟩
  | cons t ts ih =>
    rw [List.forall_mem_cons] at hts
    rw [renderAll_cons, List.append_assoc] at h
    cases us with
    | nil =>
      have hnil := List.append_eq_nil_iff.mp h
      exact absurd hnil.1 t.render_ne_nil
    | cons u us =>
      rw [List.forall_mem_cons] at hus
      obtain ⟨rfl, hrest⟩ := render_append_inj hts.1 hus.1 h
      obtain ⟨vs, rfl, hcs⟩ := ih hts.2 hus.2 hrest
      exact ⟨vs, rfl, hcs⟩

end Token

variable {lookup : String → Option String}

theorem exists_resolve_eq_ok_iff {raw : List Char} :
    (∃ text, (resolve lookup raw).result = .ok text) ↔
      ∃ ts, raw = Token.renderAll ts ∧ ∀ t ∈ ts, t.IsProper ∧ t.IsDefined lookup := by
  constructor
  · rintro ⟨text, htext⟩
    obtain ⟨ts, hproper, hraw, hmeaning⟩ := resolve_eq_ok_iff.mp htext
    have hdefined := Token.exists_meaning?_iff.mp ⟨text, hmeaning⟩
    exact ⟨ts, hraw, fun t ht => ⟨hproper t ht, hdefined t ht⟩⟩
  · rintro ⟨ts, hraw, hts⟩
    obtain ⟨text, hmeaning⟩ := Token.exists_meaning?_iff.mpr fun t ht => (hts t ht).2
    exact ⟨text, resolve_eq_ok_iff.mpr ⟨ts, fun t ht => (hts t ht).1, hraw, hmeaning⟩⟩

theorem resolve_reference_iff {ts : List Token} (hts : ∀ t ∈ ts, t.IsWhole) {name : List Char}
    (hname : ')' ∉ name) (after : List Char) :
    (∃ text, (resolve lookup (Token.renderAll ts ++ ((Token.reference name).render ++ after))).result
        = .ok text) ↔
      (IsVariableName name ∧ ∃ value, lookup (String.ofList name) = some value) ∧
      (∃ text, (resolve lookup (Token.renderAll ts)).result = .ok text) ∧
      ∃ text, (resolve lookup after).result = .ok text := by
  simp only [exists_resolve_eq_ok_iff]
  constructor
  · rintro ⟨us, hus, hresolved⟩
    -- There is one way to cut the value, so the reference is among its tokens.
    have hwhole : ∀ u ∈ us, u.IsWhole := fun u hu => (hresolved u hu).1.isWhole
    obtain ⟨vs, rfl, hvs⟩ := Token.exists_of_renderAll_append hts hwhole hus
    rw [List.forall_mem_append] at hresolved hwhole
    cases vs with
    | nil =>
      have hnil := List.append_eq_nil_iff.mp hvs
      exact absurd hnil.1 (Token.render_ne_nil _)
    | cons v vs =>
      rw [List.forall_mem_cons] at hresolved hwhole
      rw [Token.renderAll_cons] at hvs
      obtain ⟨rfl, rfl⟩ := Token.render_append_inj (t := .reference name) hname hwhole.2.1 hvs
      obtain ⟨hts, ⟨hproper, hdefined⟩, hvs⟩ := hresolved
      exact ⟨⟨isName_iff.mp hproper, hdefined⟩, ⟨ts, rfl, hts⟩, vs, rfl, hvs⟩
  · rintro ⟨⟨hproper, hdefined⟩, ⟨us, hus, hresolved⟩, vs, rfl, hvs⟩
    refine ⟨us ++ .reference name :: vs, ?_, ?_⟩
    · rw [Token.renderAll_append, Token.renderAll_cons, hus]
    · rw [List.forall_mem_append, List.forall_mem_cons]
      exact ⟨hresolved, ⟨isName_iff.mpr hproper, hdefined⟩, hvs⟩

end Catalog.Value
