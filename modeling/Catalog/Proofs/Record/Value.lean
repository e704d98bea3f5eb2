import Catalog.Proofs.Record.Edit
/-!
This module contains the values that edits come to in closed form. A text is what was set last with
the texts around it that came later. In a list each item has the texts around it that came after the
item itself.
-/

namespace Catalog
namespace Edit

def isAddItem : Edit → Bool
  | .addItem _ => true
  | _ => false

def appended? : Edit → Option String
  | .append text => some text
  | _ => none

def prepended? : Edit → Option String
  | .prepend text => some text
  | _ => none

/--
A text with what edits put around it: behind it what is appended, in order, and in front of it what
is prepended, the last one first.
-/
def surround (edits : List Edit) (text : String) : String :=
  String.join (edits.filterMap prepended?).reverse ++ text ++
    String.join (edits.filterMap appended?)

def added : List Edit → List String
  | [] => []
  | .addItem item :: edits => surround edits item :: added edits
  | _ :: edits => added edits

section

variable (edits : List Edit) (text : String)

theorem surround_nil : surround [] text = text := by
  simp [surround, String.join]

theorem surround_cons_addItem (item : String) :
    surround (.addItem item :: edits) text = surround edits text := by
  rfl

theorem surround_cons_append (more : String) :
    surround (.append more :: edits) text = surround edits (text ++ more) := by
  simp [surround, List.filterMap_cons, appended?, prepended?, String.append_assoc]

theorem surround_cons_prepend (more : String) :
    surround (.prepend more :: edits) text = surround edits (more ++ text) := by
  simp [surround, List.filterMap_cons, appended?, prepended?, String.append_assoc]

end

theorem length_added (edits : List Edit) : (added edits).length = edits.countP isAddItem := by
  induction edits with
  | nil => rfl
  | cons edit edits ih =>
    cases edit with
    | set => simpa [added, isAddItem] using ih
    | addItem => simpa [added, isAddItem, List.countP_cons] using ih
    | append => simpa [added, isAddItem] using ih
    | prepend => simpa [added, isAddItem] using ih

theorem added_getElem? (before after : List Edit) (item : String) :
    (added (before ++ .addItem item :: after))[before.countP isAddItem]? =
      some (surround after item) := by
  induction before with
  | nil => rfl
  | cons edit before ih =>
    cases edit with
    | set => simpa [added, isAddItem] using ih
    | addItem => simpa [added, isAddItem, List.countP_cons] using ih
    | append => simpa [added, isAddItem] using ih
    | prepend => simpa [added, isAddItem] using ih

section

variable {edits : List Edit}

theorem applyAll_items (h : ∀ value, .set value ∉ edits) (xs : List String) :
    applyAll edits (some (.items xs)) = some (.items (xs.map (surround edits) ++ added edits)) := by
  induction edits generalizing xs with
  | nil =>
    have hnil : surround [] = id := funext surround_nil
    rw [hnil, List.map_id, added, List.append_nil, applyAll]
  | cons edit edits ih =>
    have hrest := fun value => List.not_mem_of_not_mem_cons (h value)
    cases edit with
    | set value => exact absurd List.mem_cons_self (h value)
    | addItem item =>
      simp [applyAll, apply, Content.addItem, ih hrest, added, surround_cons_addItem]
    | append text =>
      simp [applyAll, apply, Content.mapText, ih hrest, added, surround_cons_append]
    | prepend text =>
      simp [applyAll, apply, Content.mapText, ih hrest, added, surround_cons_prepend]

theorem applyAll_text (hset : ∀ value, .set value ∉ edits) (hadd : ∀ item, .addItem item ∉ edits)
    (text : String) :
    applyAll edits (some (.text text)) = some (.text (surround edits text)) := by
  induction edits generalizing text with
  | nil => rw [applyAll, surround_nil]
  | cons edit edits ih =>
    have hset' := fun value => List.not_mem_of_not_mem_cons (hset value)
    have hadd' := fun item => List.not_mem_of_not_mem_cons (hadd item)
    cases edit with
    | set value => exact absurd List.mem_cons_self (hset value)
    | addItem item => exact absurd List.mem_cons_self (hadd item)
    | append more =>
      rw [surround_cons_append]
      exact ih hset' hadd' (text ++ more)
    | prepend more =>
      rw [surround_cons_prepend]
      exact ih hset' hadd' (more ++ text)

theorem applyAll_none (hadd : ∀ item, .addItem item ∉ edits) (hne : edits ≠ []) :
    applyAll edits none = applyAll edits (some (.text "")) := by
  cases edits with
  | nil => contradiction
  | cons edit edits =>
    cases edit with
    | set value => rfl
    | addItem item => exact absurd List.mem_cons_self (hadd item)
    | append text => rfl
    | prepend text => rfl

theorem exists_items_of_addItem (hset : ∀ value, .set value ∉ edits) {item : String}
    (hadd : .addItem item ∈ edits) (c : Option Content) :
    ∃ xs, applyAll edits c = some (.items xs) := by
  obtain ⟨before, after, rfl⟩ := List.append_of_mem hadd
  have hafter : ∀ value, .set value ∉ after := fun value hmem =>
    hset value (List.mem_append_right before (List.mem_cons_of_mem _ hmem))
  obtain ⟨xs, hxs⟩ : ∃ xs, Content.addItem item (applyAll before c) = .items xs := by
    cases applyAll before c with
    | none => exact ⟨_, rfl⟩
    | some content =>
      cases content with
      | text s => exact ⟨_, rfl⟩
      | items xs => exact ⟨_, rfl⟩
  refine ⟨xs.map (surround after) ++ added after, ?_⟩
  rw [applyAll_append, applyAll, apply, hxs, applyAll_items hafter]

theorem mapText_ne_items {c : Option Content} (hc : ∀ xs, c ≠ some (.items xs))
    (f : String → String) (xs : List String) : Content.mapText f c ≠ .items xs := by
  cases c with
  | none => simp [Content.mapText]
  | some content =>
    cases content with
    | text s => simp [Content.mapText]
    | items ys => exact absurd rfl (hc ys)

theorem applyAll_ne_items (hadd : ∀ item, .addItem item ∉ edits) {c : Option Content}
    (hc : ∀ xs, c ≠ some (.items xs)) (xs : List String) :
    applyAll edits c ≠ some (.items xs) := by
  induction edits generalizing c with
  | nil => exact hc xs
  | cons edit edits ih =>
    rw [applyAll]
    apply ih
    · intro item
      exact List.not_mem_of_not_mem_cons (hadd item)
    · intro ys
      rw [Ne, Option.some.injEq]
      cases edit with
      | set value => simp [apply]
      | addItem item => exact absurd List.mem_cons_self (hadd item)
      | append text => exact mapText_ne_items hc (· ++ text) ys
      | prepend text => exact mapText_ne_items hc (text ++ ·) ys

structure HoldsText (edits : List Edit) (default : Option String) (content : Option Content) :
    Prop where
  untouched : edits = [] → content = default.map .text
  unset : edits ≠ [] → (∀ value, .set value ∉ edits) →
    content = some (.text (surround edits ""))
  set : ∀ before value after, edits = before ++ .set value :: after →
    (∀ other, .set other ∉ after) → content = some (.text (surround after value))

structure HoldsItems (edits : List Edit) (default : String) (xs : List String) : Prop where
  length : xs.length = 1 + edits.countP isAddItem
  default : xs[0]? = some (surround edits default)
  item : ∀ before item after, edits = before ++ .addItem item :: after →
    xs[1 + before.countP isAddItem]? = some (surround after item)

theorem holdsText (hadd : ∀ item, .addItem item ∉ edits) (default : Option String) :
    HoldsText edits default ((applyAll edits none).or (default.map .text)) := by
  constructor
  · rintro rfl
    rfl
  · intro hne hset
    rw [applyAll_none hadd hne, applyAll_text hset hadd]
    rfl
  · rintro before value after rfl hset
    have hafter : ∀ item, .addItem item ∉ after := fun item hmem =>
      hadd item (List.mem_append_right before (List.mem_cons_of_mem _ hmem))
    rw [applyAll_append, applyAll, apply, applyAll_text hset hafter]
    rfl

theorem holdsItems (hset : ∀ value, .set value ∉ edits) (default : String) :
    ∃ xs, applyAll edits (some (.items [default])) = some (.items xs) ∧
      HoldsItems edits default xs := by
  refine ⟨surround edits default :: added edits, applyAll_items hset [default], ?_, rfl, ?_⟩
  · rw [List.length_cons, length_added, Nat.add_comm]
  · rintro before item after rfl
    rw [Nat.add_comm, List.getElem?_cons_succ, added_getElem?]

end

end Edit
end Catalog
