import Catalog.Proofs.Result
import Catalog.Xml.Tree
/-!
This module contains what an element is told when it is asked for an attribute. Names have to be
told before, and some of them cannot be.
-/

namespace Catalog.Xml

theorem eq_of_comparable {written name : String} (h : comparable written = .ok name) :
    written = name := by
  unfold comparable at h
  split at h
  · exact Except.ok.inj h
  · simp at h

namespace Element

def value? (e : Element) (name : String) : Option String :=
  (e.attributes.find? (·.name == name)).map (·.value)

def Tells (e : Element) (name : String) : Prop :=
  ∀ a ∈ e.attributes.takeWhile (·.name != name), ∃ told, comparable a.name = .ok told

variable {e : Element} {name : String} {n : MalformedName}

theorem tells_and_value?_of_attribute? {value : Option String}
    (h : e.attribute? name = .ok value) : e.Tells name ∧ e.value? name = value := by
  unfold attribute? at h
  unfold Tells value?
  generalize e.attributes = as at h ⊢
  induction as with
  | nil =>
    obtain rfl : none = value := Except.ok.inj h
    simp
  | cons a as ih =>
    rw [attribute?.go] at h
    obtain ⟨found, hfound, h⟩ := bind_eq_ok_iff.mp h
    obtain rfl := eq_of_comparable hfound
    split at h
    · next heq =>
      obtain rfl : some a.value = value := Except.ok.inj h
      simp [heq]
    · next hne =>
      obtain ⟨htells, hvalue⟩ := ih h
      rw [List.takeWhile_cons_of_pos (by simpa using hne),
        List.find?_cons_of_neg (by simpa using hne)]
      exact ⟨List.forall_mem_cons.mpr ⟨⟨a.name, hfound⟩, htells⟩, hvalue⟩

theorem exists_attribute?_of_tells (hname : comparable name = .ok name) (h : e.Tells name) :
    ∃ value, e.attribute? name = .ok value := by
  unfold Tells at h
  unfold attribute?
  generalize e.attributes = as at h ⊢
  induction as with
  | nil => exact ⟨none, rfl⟩
  | cons a as ih =>
    rw [attribute?.go]
    by_cases heq : a.name = name
    · refine ⟨some a.value, ?_⟩
      rw [heq, hname]
      exact if_pos rfl
    · rw [List.takeWhile_cons_of_pos (by simpa using heq), List.forall_mem_cons] at h
      obtain ⟨⟨told, htold⟩, hrest⟩ := h
      obtain ⟨value, hvalue⟩ := ih hrest
      obtain rfl := eq_of_comparable htold
      refine ⟨value, ?_⟩
      rw [htold]
      exact (if_neg heq).trans hvalue

theorem exists_of_attribute?_eq_some {raw : String} (h : e.attribute? name = .ok (some raw)) :
    ∃ a ∈ e.attributes, a.name = name ∧ a.value = raw := by
  obtain ⟨a, ha, hvalue⟩ := Option.map_eq_some_iff.mp (tells_and_value?_of_attribute? h).2
  have hname := List.find?_some ha
  exact ⟨a, List.mem_of_find?_eq_some ha, by simpa using hname, hvalue⟩

theorem not_mem_of_attribute?_eq_none (h : e.attribute? name = .ok none) :
    name ∉ e.attributes.map (·.name) := by
  have hnone := Option.map_eq_none_iff.mp (tells_and_value?_of_attribute? h).2
  rw [List.find?_eq_none] at hnone
  simpa using hnone

theorem attribute?_of_map {e' : Element} {g : Attribute → Attribute} {v : String → String}
    (hname : ∀ a, (g a).name = a.name) (hvalue : ∀ a, (g a).value = v a.value)
    (h : e'.attributes = e.attributes.map g) (name : String) :
    e'.attribute? name = (e.attribute? name).map (Option.map v) := by
  unfold attribute?
  rw [h]
  induction e.attributes with
  | nil => rfl
  | cons a as ih =>
    rw [List.map_cons, attribute?.go, attribute?.go, hname]
    cases comparable a.name with
    | error n => rfl
    | ok found =>
      simp only [bind, Except.bind]
      split
      · rw [hvalue]
        rfl
      · exact ih

theorem exists_of_attribute?_eq_error (h : e.attribute? name = .error n) :
    ∃ a ∈ e.attributes, comparable a.name = .error n := by
  unfold attribute? at h
  generalize e.attributes = as at h ⊢
  induction as with
  | nil => simp [attribute?.go] at h
  | cons a as ih =>
    rw [attribute?.go] at h
    obtain ha | ⟨found, -, h⟩ := bind_eq_error_iff.mp h
    · exact ⟨a, List.mem_cons_self, ha⟩
    · split at h
      · simp [pure, Except.pure] at h
      · obtain ⟨a', ha', hn⟩ := ih h
        exact ⟨a', List.mem_cons_of_mem a ha', hn⟩

theorem exists_of_comparableNames_eq_error (h : e.comparableNames = .error n) :
    ∃ name ∈ e.name :: e.attributes.map (·.name), comparable name = .error n := by
  obtain ⟨before, name, after, hnames, -, hname⟩ := mapM_eq_error_iff.mp h
  refine ⟨name, ?_, hname⟩
  rw [hnames]
  simp

theorem attribute?_ne_error {names : List String} (h : e.comparableNames = .ok names) :
    e.attribute? name ≠ .error n := by
  intro herror
  obtain ⟨a, ha, hn⟩ := exists_of_attribute?_eq_error herror
  have hmem : a.name ∈ e.name :: e.attributes.map (·.name) :=
    List.mem_cons_of_mem e.name (List.mem_map_of_mem ha)
  obtain ⟨told, htold⟩ := exists_mapM_eq_ok_iff.mp ⟨names, h⟩ a.name hmem
  simp [hn] at htold

end Element
end Catalog.Xml
