import Catalog.Proofs.Traversal.Takes
import Mathlib.Data.List.Permutation
/-!
This module contains sections in which each record is inside of an element of its own that gives it
a title. A traversal of one always rests inside of such an element, so it shows at once when scopes
of two traversals come together.
-/

namespace Catalog

open Xml (Element Tag Node)

variable {σ : Type}

namespace Titles

def recordElement : Element := ⟨{ written := ⟨none, "new"⟩ }, []⟩

def titleElement : Element where
  tag := {
    written := ⟨none, "append"⟩
    attributes := [{ written := ⟨none, "Title"⟩, value := "x" }]
  }
  children := [.element recordElement.tag recordElement.children]

def title : Command := .append "Title" "x"

def entity : Entity where
  own := { properties := [{ name := "Title" }], vars := [], vars_nodup := List.nodup_nil }

def ofLength (n : Nat) : Section where
  element := ⟨{ written := ⟨none, "records"⟩ },
    List.replicate n (.element titleElement.tag titleElement.children)⟩
  entity
  settings := default

def stops : Nat → List Stop
  | 0 => []
  | n + 1 =>
    .enter .command titleElement :: .reach recordElement 2 :: .record recordElement :: .leave ::
      stops n

theorem stops_ofLength (n : Nat) : (ofLength n).stops = stops n := by
  unfold Section.stops Stop.ofSection ofLength
  induction n with
  | zero => rfl
  | succ n ih =>
    rw [List.replicate_succ, Stop.ofNodes, ih]
    rfl

def recordIn (n : Nat) : Record := entity.make none (List.replicate n title)

theorem recordIn_one_ne_two : recordIn 1 ≠ recordIn 2 := by
  decide

end Titles

def Keeper.TakesNameless (k : Keeper σ) : Prop :=
  ∀ r kept, r.id = none → ∃ kept', k.add r (k.create none kept) = .ok kept'

theorem Keeper.shelf_takesNameless : Keeper.shelf.TakesNameless := by
  intro r kept hid
  refine ⟨{ kept with records := kept.records ++ [r] }, ?_⟩
  simp only [Keeper.shelf, Shelf.add, hid]

theorem Keeper.journal_takesNameless : Keeper.journal.TakesNameless := by
  intro r kept _
  exact ⟨_, rfl⟩

namespace Collector

open Titles

section

variable {k : Keeper σ} {n m : Nat} {c : Collector σ}

theorem step_enter_title (opened : List (Option OpenScope)) :
    c.step (ofLength n) k opened (.enter .command titleElement) =
      .moved (c.enterCommand title) (some ⟨c.generation, .command⟩ :: opened) := by
  have hentry : ((ofLength n).environment c.present.vars).scopeEntry titleElement =
      .ok (some title) := by
    cbv
  simp only [step, hentry]

theorem step_reach_record (opened : List (Option OpenScope)) :
    c.step (ofLength n) k opened (.reach recordElement 2) = .moved c opened := by
  rfl

theorem step_record (hk : k.TakesNameless) (h : c.present.commands.entries = List.replicate m title)
    (opened : List (Option OpenScope)) :
    ∃ kept, c.step (ofLength n) k opened (.record recordElement) =
      .yielded (recordIn m) { c with kept, current := some recordElement } := by
  have hattributes : ((ofLength n).environment c.present.vars).ofAttributes recordElement =
      .ok (none, []) := by
    rfl
  have hchildren : ((ofLength n).environment c.present.vars).ofChildren recordElement =
      .ok [] := by
    rfl
  have hcommands : c.present.commands.outermostFirst = List.replicate m title := by
    unfold Scope.Stack.outermostFirst
    rw [h, List.reverse_replicate]
  obtain ⟨kept, hadd⟩ := hk (recordIn m) c.kept (Entity.make_id entity none _)
  refine ⟨kept, ?_⟩
  have hmake : (ofLength n).entity.make none ([] ++ [] ++ c.present.commands.outermostFirst) =
      recordIn m := by
    rw [hcommands]
    rfl
  simp only [step, build, hattributes, hchildren, hmake, hadd]

theorem advance_titles (hk : k.TakesNameless) (len : Nat)
    (h : c.present.commands.entries = List.replicate m title) (opened : List (Option OpenScope)) :
    ∃ c', advance (ofLength len) k (Titles.stops (n + 1)) opened c =
        (.record (recordIn (m + 1)),
          .paused (.leave :: Titles.stops n) (some ⟨c.generation, .command⟩ :: opened), c') ∧
      c'.generation = c.generation ∧
      c'.present.commands.entries = List.replicate (m + 1) title := by
  have hentries : (c.enterCommand title).present.commands.entries =
      List.replicate (m + 1) title := by
    simp [enterCommand, Scope.Stack.push, h, List.replicate_succ]
  obtain ⟨kept, hrecord⟩ := step_record (n := len) hk hentries
    (some ⟨c.generation, .command⟩ :: opened)
  refine ⟨{ c.enterCommand title with kept, current := some recordElement }, ?_, rfl, hentries⟩
  simp only [Titles.stops, advance, step_enter_title, step_reach_record, hrecord]

theorem entries_leave_title {g : Nat} (hg : c.generation = g)
    (h : c.present.commands.entries = [title]) :
    (c.leave ⟨g, .command⟩).present.commands.entries = [] := by
  rw [leave_of_generation_eq hg]
  exact Scope.Stack.entries_leave h

theorem next_titles (hk : k.TakesNameless) (len : Nat)
    (h : c.present.commands.entries = [title]) :
    ∃ c', c.next (ofLength len) k
        (.paused (.leave :: Titles.stops (n + 1)) [some ⟨c.generation, .command⟩]) =
        (.record (recordIn 1),
          .paused (.leave :: Titles.stops n) [some ⟨c.generation, .command⟩], c') ∧
      c'.generation = c.generation ∧ c'.present.commands.entries = [title] := by
  have hentries : (c.leave ⟨c.generation, .command⟩).present.commands.entries =
      List.replicate 0 title := entries_leave_title rfl h
  have hgeneration := generation_leave c ⟨c.generation, .command⟩
  obtain ⟨c', hadvance, hc', hentries'⟩ := advance_titles (n := n) hk len hentries []
  rw [hgeneration] at hadvance hc'
  exact ⟨c', hadvance, hc', hentries'⟩

theorem next_titles_of_ne (hk : k.TakesNameless) (len : Nat) {g : Nat}
    (h : c.present.commands.entries = [title]) (hg : g ≠ c.generation) :
    (c.next (ofLength len) k
      (.paused (.leave :: Titles.stops (n + 1)) [some ⟨g, .command⟩])).1 =
        .record (recordIn 2) := by
  -- The scope that is left is an earlier one, so the one in which the other traversal rests stays.
  have hentries : (c.leave ⟨g, .command⟩).present.commands.entries = List.replicate 1 title := by
    simp only [leave, if_neg hg, h]
    rfl
  obtain ⟨c', hadvance, -⟩ := advance_titles (n := n) hk len hentries []
  exact congrArg Prod.fst hadvance

theorem takeMany_resting_titles (hk : k.TakesNameless) (len rest : Nat)
    (h : c.present.commands.entries = [title]) :
    ∃ c', takeMany (ofLength len) k n
        (.paused (.leave :: Titles.stops (n + rest)) [some ⟨c.generation, .command⟩]) c =
        (List.replicate n (.record (recordIn 1)),
          .paused (.leave :: Titles.stops rest) [some ⟨c.generation, .command⟩], c') ∧
      c'.generation = c.generation ∧ c'.present.commands.entries = [title] := by
  induction n generalizing c with
  | zero =>
    rw [Nat.zero_add]
    exact ⟨c, rfl, rfl, h⟩
  | succ n ih =>
    obtain ⟨c', hnext, hgeneration, hentries⟩ := next_titles (n := n + rest) hk len h
    obtain ⟨c'', htake, hgeneration', hentries'⟩ := ih hentries
    rw [hgeneration] at htake hgeneration'
    refine ⟨c'', ?_, hgeneration', hentries'⟩
    rw [Nat.add_right_comm, takeMany]
    simp only [hnext, htake, List.replicate_succ]

theorem takeMany_titles (hk : k.TakesNameless) {len rest : Nat} (hlen : len = n + rest + 1)
    (c : Collector σ) :
    ∃ c', takeMany (ofLength len) k (n + 1) .fresh c =
        (List.replicate (n + 1) (.record (recordIn 1)),
          .paused (.leave :: Titles.stops rest) [some ⟨c.generation + 1, .command⟩], c') ∧
      c'.generation = c.generation + 1 ∧ c'.present.commands.entries = [title] := by
  have hreset : (c.reset k).generation = c.generation + 1 := by
    simp [generation, reset]
  have hentries : (c.reset k).present.commands.entries = List.replicate 0 title := by
    rfl
  obtain ⟨c', hadvance, hgeneration, hentries'⟩ :=
    advance_titles (n := n + rest) hk len hentries []
  obtain ⟨c'', htake, hgeneration', hentries''⟩ :=
    takeMany_resting_titles (n := n) hk len rest hentries'
  rw [hreset] at hadvance hgeneration
  rw [hgeneration] at htake hgeneration'
  have hstops : (ofLength len).stops = Titles.stops (n + rest + 1) := by
    rw [stops_ofLength, hlen]
  refine ⟨c'', ?_, hgeneration', hentries''⟩
  simp only [takeMany, next, hstops, hadvance, htake, List.replicate_succ]

theorem recordIn_two_not_mem (hk : k.TakesNameless) {len : Nat} (h : n ≤ len) (c : Collector σ) :
    .record (recordIn 2) ∉ (takeMany (ofLength len) k n .fresh c).1 := by
  cases n with
  | zero => exact List.not_mem_nil
  | succ n =>
    have hlen : len = n + (len - (n + 1)) + 1 := by omega
    obtain ⟨c', htake, -⟩ := takeMany_titles hk hlen c
    rw [htake]
    intro hmem
    have heq := List.eq_of_mem_replicate hmem
    exact recordIn_one_ne_two (Take.record.inj heq).symm

theorem exhaust_titles (hk : k.TakesNameless) {len : Nat} (h : c.present.commands.entries = []) :
    (exhaust (ofLength len) k (Titles.stops n) [] c).2.1 = none := by
  induction n generalizing c with
  | zero => rfl
  | succ n ih =>
    have hentries : (c.enterCommand title).present.commands.entries = List.replicate 1 title := by
      simp [enterCommand, Scope.Stack.push, h]
    obtain ⟨kept, hrecord⟩ := step_record (n := len) hk hentries [some ⟨c.generation, .command⟩]
    simp only [Titles.stops, exhaust, step_enter_title, step_reach_record, hrecord]
    apply ih
    apply entries_leave_title
    · rfl
    · exact hentries

theorem drain_titles (hk : k.TakesNameless) (n : Nat) (c : Collector σ) :
    (c.drain (ofLength n) k .fresh).2.1 = none := by
  rw [drain, stops_ofLength]
  exact exhaust_titles hk rfl

end

end Collector
end Catalog
