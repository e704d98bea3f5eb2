import Catalog.Proofs.Record.Edit
/-!
This module contains the laws of texts that are put behind and in front of what a property holds,
whatever this is. Texts at one end join, those at different ends do not get in each other's way, and
a list keeps its items at their places.
-/

namespace Catalog

namespace Content

theorem mapText_mapText (f g : String → String) (c : Option Content) :
    mapText g (some (mapText f c)) = mapText (g ∘ f) c := by
  cases c with
  | none => rfl
  | some content =>
    cases content with
    | text s => rfl
    | items xs => rw [mapText, mapText, mapText, List.map_map]

theorem mapText_addItem (f : String → String) (item : String) (c : Content) :
    mapText f (some (addItem item (some c))) = addItem (f item) (some (mapText f (some c))) := by
  cases c with
  | text s => rfl
  | items xs => rw [addItem, mapText, mapText, addItem, List.map_append, List.map_singleton]

theorem mapText_eq_self {f : String → String} (h : ∀ s, f s = s) (c : Content) :
    mapText f (some c) = c := by
  obtain rfl : f = id := funext h
  cases c with
  | text s => rfl
  | items xs => rw [mapText, List.map_id]

end Content

namespace Record

theorem alter.go_go (name : String) (f g : Option Content → Content)
    (ps : List (String × Content)) :
    go name g (go name f ps) = go name (fun c => g (some (f c))) ps := by
  induction ps with
  | nil => exact if_pos rfl
  | cons p ps ih =>
    obtain ⟨n, c⟩ := p
    by_cases h : n = name
    · simp only [go, if_pos h]
    · simp only [go, if_neg h, ih]

theorem alter_alter (r : Record) (name : String) (f g : Option Content → Content) :
    (r.alter name f).alter name g = r.alter name fun c => g (some (f c)) := by
  unfold alter
  rw [alter.go_go]

theorem alter.go_congr {name : String} {f g : Option Content → Content}
    {ps : List (String × Content)} (h : f (ps.lookup name) = g (ps.lookup name)) :
    go name f ps = go name g ps := by
  induction ps with
  | nil =>
    rw [List.lookup_nil] at h
    rw [go, go, h]
  | cons p ps ih =>
    obtain ⟨n, c⟩ := p
    by_cases hn : n = name
    · rw [hn, List.lookup_cons_self] at h
      rw [go, go, if_pos hn, if_pos hn, h]
    · rw [List.lookup_cons, beq_eq_false_iff_ne.mpr (Ne.symm hn)] at h
      rw [go, go, if_neg hn, if_neg hn, ih h]

theorem alter_congr {r : Record} {name : String} {f g : Option Content → Content}
    (h : f (r.get? name) = g (r.get? name)) : r.alter name f = r.alter name g := by
  unfold alter
  rw [alter.go_congr h]

theorem alter.go_eq_self {name : String} {f : Option Content → Content}
    {ps : List (String × Content)} {c : Content} (hc : ps.lookup name = some c)
    (h : f (some c) = c) : go name f ps = ps := by
  induction ps with
  | nil => simp at hc
  | cons p ps ih =>
    obtain ⟨n, c'⟩ := p
    by_cases hn : n = name
    · rw [hn, List.lookup_cons_self, Option.some.injEq] at hc
      rw [go, if_pos hn, hc, h]
    · rw [List.lookup_cons, beq_eq_false_iff_ne.mpr (Ne.symm hn)] at hc
      rw [go, if_neg hn, ih hc]

theorem alter_eq_self {r : Record} {name : String} {f : Option Content → Content} {c : Content}
    (hc : r.get? name = some c) (h : f (some c) = c) : r.alter name f = r := by
  unfold alter
  rw [alter.go_eq_self hc h]

theorem get?_eq_none_iff {r : Record} {name : String} : r.get? name = none ↔ name ∉ r.names := by
  rw [names, ← contains_iff, contains, Bool.not_eq_true, Option.isSome_eq_false_iff,
    Option.isNone_iff_eq_none]

variable (r : Record) (name : String)

theorem append_append (first second : String) :
    (r.append name first).append name second = r.append name (first ++ second) := by
  unfold append
  rw [alter_alter]
  congr 1
  funext c
  rw [Content.mapText_mapText]
  congr 1
  funext s
  exact String.append_assoc

theorem prepend_prepend (first second : String) :
    (r.prepend name first).prepend name second = r.prepend name (second ++ first) := by
  unfold prepend
  rw [alter_alter]
  congr 1
  funext c
  rw [Content.mapText_mapText]
  congr 1
  funext s
  exact String.append_assoc.symm

theorem prepend_append (behind before : String) :
    (r.append name behind).prepend name before = (r.prepend name before).append name behind := by
  unfold append prepend
  rw [alter_alter, alter_alter]
  congr 1
  funext c
  rw [Content.mapText_mapText, Content.mapText_mapText]
  congr 1
  funext s
  exact String.append_assoc.symm

theorem addItem_append {r : Record} {name : String} (h : r.contains name = true)
    (item text : String) :
    (r.addItem name item).append name text = (r.append name text).addItem name (item ++ text) := by
  obtain ⟨c, hc⟩ := Option.isSome_iff_exists.mp h
  unfold addItem append
  rw [alter_alter, alter_alter]
  apply alter_congr
  rw [hc]
  exact Content.mapText_addItem (· ++ text) item c

structure Retexted (name : String) (f : String → String) (r r' : Record) : Prop where
  id : r'.id = r.id
  tags : r'.tags = r.tags
  others : ∀ other, other ≠ name → r'.get? other = r.get? other
  names : r'.names = if name ∈ r.names then r.names else r.names ++ [name]
  absent : name ∉ r.names → r'.get? name = some (.text (f ""))
  text : ∀ s, r.get? name = some (.text s) → r'.get? name = some (.text (f s))
  items : ∀ xs, r.get? name = some (.items xs) → ∃ ys, r'.get? name = some (.items ys) ∧
    ys.length = xs.length ∧ ∀ i : Nat, ys[i]? = xs[i]?.map f

theorem retexted (f : String → String) :
    Retexted name f r (r.alter name (Content.mapText f)) := by
  have hget : (r.alter name (Content.mapText f)).get? name =
      some (Content.mapText f (r.get? name)) := by
    rw [get?_alter, if_pos rfl]
  constructor
  · rfl
  · rfl
  · intro other hother
    rw [get?_alter, if_neg hother]
  · exact r.names_alter name (Content.mapText f)
  · intro habsent
    rw [hget, get?_eq_none_iff.mpr habsent]
    rfl
  · intro s hs
    rw [hget, hs]
    rfl
  · intro xs hxs
    refine ⟨xs.map f, ?_, List.length_map f, ?_⟩
    · rw [hget, hxs]
      rfl
    · intro i
      exact List.getElem?_map

/--
Texts that are put behind what a property holds act on it one after the other, and so do those in
front; the two do not get in each other's way. The empty text does nothing to a property that is
there, and items that are added to one can get the texts before they are added.
-/
theorem append_and_prepend (behind before : String) :
    (∀ more, (r.append name behind).append name more = r.append name (behind ++ more)) ∧
      (∀ more, (r.prepend name before).prepend name more = r.prepend name (more ++ before)) ∧
      (r.append name behind).prepend name before = (r.prepend name before).append name behind ∧
      (r.contains name = true → r.append name "" = r ∧ r.prepend name "" = r ∧
        ∀ item, (r.addItem name item).append name behind =
          (r.append name behind).addItem name (item ++ behind)) ∧
      Retexted name (· ++ behind) r (r.append name behind) ∧
      Retexted name (before ++ ·) r (r.prepend name before) := by
  refine ⟨r.append_append name behind, r.prepend_prepend name before,
    r.prepend_append name behind before, ?_, r.retexted name _, r.retexted name _⟩
  intro h
  obtain ⟨c, hc⟩ := Option.isSome_iff_exists.mp h
  refine ⟨?_, ?_, fun item => addItem_append h item behind⟩
  · apply alter_eq_self hc
    exact Content.mapText_eq_self (fun _ => String.append_empty) c
  · apply alter_eq_self hc
    exact Content.mapText_eq_self (fun _ => String.empty_append) c

theorem append_and_prepend_listed :
    let r : Record := { properties := [("Authors", .items ["a", "b"]), ("Title", .text "t")] }
    r.contains "Authors" = true ∧
      (r.addItem "Authors" "c").append "Authors" "!" =
        { properties := [("Authors", .items ["a!", "b!", "c!"]), ("Title", .text "t")] } ∧
      (r.append "Authors" "!").addItem "Authors" "c!" =
        { properties := [("Authors", .items ["a!", "b!", "c!"]), ("Title", .text "t")] } := by
  intro r
  have hcontains : r.contains "Authors" = true := by decide
  have hadded : (r.addItem "Authors" "c").append "Authors" "!" =
      { properties := [("Authors", .items ["a!", "b!", "c!"]), ("Title", .text "t")] } := by
    decide
  obtain ⟨-, -, -, hpresent, -, -⟩ := r.append_and_prepend "Authors" "!" ""
  refine ⟨hcontains, hadded, ?_⟩
  rw [← hadded]
  exact ((hpresent hcontains).2.2 "c").symm

end Record
end Catalog
