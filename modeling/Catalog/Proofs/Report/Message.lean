import Catalog.Error
import Mathlib.Data.String.Basic
/-!
This module contains the lines of an error message. The first one states the problem, the next one
names the element and the attribute, and only those behind it tell where these are in a document.
-/

namespace Catalog

def following (lines : List String) : String := String.join (lines.map ("\n" ++ ·))

theorem following_cons (line : String) (lines : List String) :
    following (line :: lines) = "\n" ++ line ++ following lines := by
  exact String.join_cons

theorem following_append (lines lines' : List String) :
    following (lines ++ lines') = following lines ++ following lines' := by
  unfold following
  rw [List.map_append, String.join_append]

theorem intercalate_cons_eq_following (line : String) (lines : List String) :
    "\n".intercalate (line :: lines) = line ++ following lines := by
  induction lines generalizing line with
  | nil => simp [following]
  | cons next lines ih =>
    rw [String.intercalate_cons_cons, ih, following_cons, String.append_assoc, String.append_assoc]

namespace Place

def locationLines (p : Place) : List String := p.documentLine.toList ++ p.snippetLine.toList

theorem lines_developer (p : Place) :
    p.lines .developer = p.elementLine.toList ++ p.locationLines := by
  exact List.append_assoc _ _ _

theorem append_ne_empty {s : String} (h : s ≠ "") (t : String) : s ++ t ≠ "" := by
  intro hempty
  exact h (String.append_eq_empty_iff.mp hempty).1

theorem elementLine_ne_empty (p : Place) : ∀ line ∈ p.elementLine, line ≠ "" := by
  intro line hline
  obtain ⟨name, -, rfl⟩ := Option.map_eq_some_iff.mp hline
  split
  · simp only [String.append_assoc]
    exact append_ne_empty (by decide) _
  · simp only [String.append_assoc]
    exact append_ne_empty (by decide) _

theorem documentLine_ne_empty (p : Place) : ∀ line ∈ p.documentLine, line ≠ "" := by
  intro line hline
  obtain ⟨number, -, rfl⟩ := Option.map_eq_some_iff.mp hline
  split
  · simp only [String.append_assoc]
    exact append_ne_empty (by decide) _
  · exact append_ne_empty (by decide) _

theorem snippetLine_ne_empty (p : Place) : ∀ line ∈ p.snippetLine, line ≠ "" := by
  intro line hline
  obtain ⟨snippet, -, rfl⟩ := Option.map_eq_some_iff.mp hline
  exact append_ne_empty (by decide) snippet

theorem ne_empty_of_mem_lines {p : Place} {level : DetailLevel} {line : String}
    (h : line ∈ p.lines level) : line ≠ "" := by
  cases level with
  | user => exact p.elementLine_ne_empty line (Option.mem_toList.mp h)
  | developer =>
    rw [lines_developer, locationLines, List.mem_append, List.mem_append] at h
    obtain h | h | h := h
    · exact p.elementLine_ne_empty line (Option.mem_toList.mp h)
    · exact p.documentLine_ne_empty line (Option.mem_toList.mp h)
    · exact p.snippetLine_ne_empty line (Option.mem_toList.mp h)

theorem describe_eq_empty_iff {p : Place} {level : DetailLevel} :
    p.describe level = "" ↔ p.lines level = [] := by
  unfold describe
  cases hlines : p.lines level with
  | nil => simp
  | cons line lines =>
    have hline : line ∈ p.lines level := by
      rw [hlines]
      exact List.mem_cons_self
    rw [intercalate_cons_eq_following]
    simp [append_ne_empty (ne_empty_of_mem_lines hline)]

end Place

namespace StructureError

def lines (e : StructureError) : List String :=
  match e.place with
  | none => []
  | some p => p.lines e.level

theorem message_eq (e : StructureError) : e.message = e.problem.message ++ following e.lines := by
  obtain ⟨problem, place, level⟩ := e
  unfold message lines
  cases place with
  | none => simp [following]
  | some p =>
    simp only [Place.describe_eq_empty_iff]
    split
    · next h => simp [h, following]
    · next h =>
      obtain ⟨line, lines, hlines⟩ := List.exists_cons_of_ne_nil h
      rw [Place.describe, hlines, intercalate_cons_eq_following, following_cons,
        String.append_assoc, String.append_assoc]

def locationLines (e : StructureError) : List String := (e.place.map Place.locationLines).getD []

def withoutLocation (e : StructureError) : StructureError where
  problem := e.problem
  place := e.place.map fun p => { elementName := p.elementName, attributeName := p.attributeName }
  level := .user

theorem message_of_user {e : StructureError} (h : e.level = .user) :
    e.message = e.withoutLocation.message := by
  obtain ⟨problem, place, level⟩ := e
  obtain rfl : level = .user := h
  cases place with
  | none => rfl
  | some p => rfl

theorem message_of_developer {e : StructureError} (h : e.level = .developer) :
    e.message = e.withoutLocation.message ++ following e.locationLines := by
  obtain ⟨problem, place, level⟩ := e
  obtain rfl : level = .developer := h
  rw [message_eq, message_eq, String.append_assoc, ← following_append]
  cases place with
  | none => rfl
  | some p =>
    exact congrArg (fun lines => problem.message ++ following lines) p.lines_developer

end StructureError
end Catalog
