import Catalog.Proofs.Entity.Admission
import Catalog.Proofs.Traversal.Repeats
/-!
This module contains where the records of a session come from: whatever traversals do with the
scopes of one collector, each record is made of a record element of the section by commands that
the entity admits.
-/

namespace Catalog

open Xml (Element)

variable {σ : Type}

def Traversal.Within (sec : Section) : Traversal → Prop
  | .paused stops _ => stops ⊆ sec.stops
  | _ => True

namespace Collector

def Made (sec : Section) (c : Collector σ) (commands : List Command) (r : Record) : Prop :=
  ∃ e, .record e ∈ sec.stops ∧ c.current = some e ∧
    (sec.environment c.present.vars).Makes e c.present.commands.outermostFirst commands r

theorem Made.record_eq {sec : Section} {c : Collector σ} {commands : List Command} {r : Record}
    (h : Made sec c commands r) : r = sec.entity.make r.id commands := by
  obtain ⟨e, -, -, hmakes⟩ := h
  exact hmakes.record

def Sound (sec : Section) (c : Collector σ) : Prop :=
  sec.entity.Admits c.present.commands.entries

structure SoundTake (sec : Section) (x : Take StructureError × Traversal × Collector σ) : Prop where
  within : x.2.1.Within sec
  collector : x.2.2.Sound sec
  made : ∀ r, x.1 = .record r → ∃ commands, Made sec x.2.2 commands r

namespace Sound

variable {sec : Section} {k : Keeper σ} {c c' : Collector σ}

theorem made_admits (h : c.Sound sec) {commands : List Command} {r : Record}
    (hmade : Made sec c commands r) : sec.entity.Admits commands := by
  obtain ⟨e, -, -, hmakes⟩ := hmade
  obtain ⟨own, children, hown, hchildren, rfl⟩ := hmakes.sources
  rw [Entity.admits_append, Entity.admits_append]
  refine ⟨⟨?_, ?_⟩, ?_⟩
  · exact Environment.ofAttributes_admitted hown
  · exact Environment.ofChildren_admitted hchildren
  · exact Entity.admits_reverse.mpr h

theorem reset (k : Keeper σ) (c : Collector σ) : (c.reset k).Sound sec := by
  exact Entity.admits_nil sec.entity

theorem leave (h : c.Sound sec) (o : OpenScope) : (c.leave o).Sound sec := by
  unfold Sound Collector.leave at *
  split
  · -- Only a scope of the present generation with a command takes anything away.
    match o.kind with
    | .variable => exact h
    | .command =>
      cases hentries : c.present.commands.entries with
      | nil => simpa [leaveIn, Scope.Stack.leave, Scope.Stack.pop?, hentries] using h
      | cons entry entries =>
        rw [hentries, ← List.singleton_append, Entity.admits_append] at h
        simp only [leaveIn, Scope.Stack.entries_leave hentries]
        exact h.2
  · exact h

theorem finish (h : c.Sound sec) (opened : List (Option OpenScope)) :
    (c.finish opened).Sound sec := by
  have hfold : (opened.reduceOption.foldl Collector.leave c).Sound sec := by
    induction opened.reduceOption generalizing c with
    | nil => exact h
    | cons o os ih => exact ih (h.leave o)
  exact hfold

theorem close (h : c.Sound sec) (t : Traversal) : (c.close t).Sound sec := by
  match t with
  | .fresh => exact h
  | .paused stops opened => exact h.finish opened
  | .over => exact h

variable {stop : Stop} {opened opened' : List (Option OpenScope)}

theorem moved (h : c.Sound sec) (hstep : c.step sec k opened stop = .moved c' opened') :
    c'.Sound sec := by
  obtain ⟨e, entry, hentry, rfl, -⟩ | ⟨v, rfl, -⟩ | ⟨rfl, -⟩ | ⟨rfl, -⟩ | ⟨rfl, -⟩ | ⟨o, rfl, -⟩ :=
    step_moved hstep
  · have hadmits := Environment.scopeEntry_admitted hentry
    unfold Sound
    rw [enterCommand, Scope.Stack.push, ← List.singleton_append, Entity.admits_append]
    exact ⟨hadmits, h⟩
  · exact h
  · exact h
  · exact h
  · exact h
  · exact h.leave o

theorem yielded (h : c.Sound sec) {r : Record} (hstop : stop ∈ sec.stops)
    (hstep : c.step sec k opened stop = .yielded r c') :
    c'.Sound sec ∧ ∃ commands, Made sec c' commands r := by
  obtain ⟨e, -, rfl, -, -⟩ := step_yielded hstep
  obtain ⟨commands, kept, hmakes, -, rfl⟩ := build_of_ok (build_of_yielded hstep)
  exact ⟨h, commands, e, hstop, rfl, hmakes⟩

theorem failed (h : c.Sound sec) {f : Fault} (hstep : c.step sec k opened stop = .failed f c') :
    c'.Sound sec := by
  obtain rfl | ⟨id, rfl⟩ := step_failed hstep
  · exact h
  · exact h

variable {stops : List Stop}

theorem trace (h : c.Sound sec) (k : Keeper σ) (hstops : stops ⊆ sec.stops)
    (opened : List (Option OpenScope)) :
    (∀ rest ∈ (Collector.trace sec k stops opened c).rests, rest.stops ⊆ sec.stops ∧
      rest.collector.Sound sec ∧ ∃ commands, Made sec rest.collector commands rest.record) ∧
    (Collector.trace sec k stops opened c).final.Sound sec := by
  induction stops generalizing opened c with
  | nil => exact ⟨by simp [Collector.trace], h.finish opened⟩
  | cons stop stops ih =>
    obtain ⟨hstop, hstops⟩ := List.cons_subset.mp hstops
    cases hstep : c.step sec k opened stop with
    | moved c' opened' =>
      rw [trace_of_moved hstep]
      exact ih (h.moved hstep) hstops opened'
    | yielded r c' =>
      obtain ⟨hsound, hmade⟩ := h.yielded hstop hstep
      obtain ⟨hrests, hfinal⟩ := ih hsound hstops opened
      rw [trace_of_yielded hstep]
      exact ⟨List.forall_mem_cons.mpr ⟨⟨hstops, hsound, hmade⟩, hrests⟩, hfinal⟩
    | failed f c' =>
      rw [trace_of_failed hstep]
      exact ⟨by simp, (h.failed hstep).finish opened⟩

theorem advance (h : c.Sound sec) (k : Keeper σ) (hstops : stops ⊆ sec.stops)
    (opened : List (Option OpenScope)) :
    SoundTake sec (Collector.advance sec k stops opened c) := by
  obtain ⟨hrests, hfinal⟩ := h.trace k hstops opened
  rw [advance_eq_trace]
  split
  · split
    · exact ⟨trivial, hfinal, by simp⟩
    · exact ⟨trivial, hfinal, by simp⟩
  · next rest rests heq =>
    obtain ⟨hwithin, hsound, hmade⟩ := hrests rest (by simp [heq])
    refine ⟨hwithin, hsound, ?_⟩
    rintro r ⟨⟩
    exact hmade

theorem next (h : c.Sound sec) (k : Keeper σ) {t : Traversal} (ht : t.Within sec) :
    SoundTake sec (c.next sec k t) := by
  match t, ht with
  | .fresh, _ => exact advance (.reset k c) k (List.Subset.refl _) []
  | .paused stops opened, hstops => exact h.advance k hstops opened
  | .over, _ => exact ⟨trivial, h, by simp [Collector.next]⟩

end Sound

theorem records_readRecords (reader : Collector Shelf) (sec : Section) :
    (reader.readRecords sec).2.kept.records = (course sec .shelf reader).records := by
  rw [course_records]
  cases hharvest : harvest sec .shelf reader with
  | mk visits fault kept => exact (readRecords_of_harvest hharvest).1

end Collector

namespace Session

structure Sound (sec : Section) (s : Session σ) : Prop where
  collector : s.collector.Sound sec
  within : ∀ t ∈ s.traversals, t.Within sec

variable {sec : Section} {k : Keeper σ} {s : Session σ}

theorem fresh_sound (sec : Section) (kept : σ) : (fresh kept).Sound sec := by
  constructor
  · exact Entity.admits_nil sec.entity
  · simp [fresh]

theorem Sound.traversal (h : s.Sound sec) (i : Nat) : (s.traversal i).Within sec := by
  unfold Session.traversal
  cases ht : s.traversals[i]? with
  | none => trivial
  | some t => exact h.within t (List.mem_of_getElem? ht)

theorem Sound.set (h : s.Sound sec) {c : Collector σ} (hc : c.Sound sec) (i : Nat) {t : Traversal}
    (ht : t.Within sec) : Sound sec ⟨c, s.traversals.set i t⟩ := by
  refine ⟨hc, ?_⟩
  intro t' ht'
  obtain hmem | rfl := List.mem_or_eq_of_mem_set ht'
  · exact h.within t' hmem
  · exact ht

theorem Sound.move (h : s.Sound sec) (k : Keeper σ) (m : Move) : (s.move sec k m).Sound sec := by
  cases m with
  | start =>
    refine ⟨h.collector, ?_⟩
    intro t ht
    obtain hmem | rfl := List.mem_append.mp ht |>.imp_right List.mem_singleton.mp
    · exact h.within t hmem
    · trivial
  | take i =>
    have htake := h.collector.next k (h.traversal i)
    exact h.set htake.collector i htake.within
  | close i => exact h.set (h.collector.close _) i trivial
  | read =>
    refine ⟨?_, h.within⟩
    simp only [Session.move, Collector.drain_fresh]
    exact (Collector.Sound.trace (.reset k _) k (List.Subset.refl _) []).2
  | reset => exact ⟨.reset k _, h.within⟩
  | add r =>
    simp only [Session.move]
    split
    · exact h
    · exact ⟨h.collector, h.within⟩

theorem Sound.run (h : s.Sound sec) (k : Keeper σ) (moves : List Move) :
    (s.run sec k moves).Sound sec := by
  induction moves generalizing s with
  | nil => exact h
  | cons m moves ih => exact ih (h.move k m)

/--
A record that is made in a session, with the collector as it is then. It is made by a traversal that
others may interrupt, or while all records are read at once.
-/
inductive Produces (sec : Section) (k : Keeper σ) : Collector σ → Record → Prop where
  | taken (kept : σ) (moves : List Move) (i : Nat) {r : Record}
    (h : (((fresh kept).run sec k moves).taken sec k i).1 = .record r) :
    Produces sec k (((fresh kept).run sec k moves).taken sec k i).2.collector r
  | read (kept : σ) (moves : List Move) {rest : Rest σ}
    (h : rest ∈ (Collector.course sec k ((fresh kept).run sec k moves).collector).rests) :
    Produces sec k rest.collector rest.record

namespace Produces

variable {c : Collector σ} {r : Record}

theorem made (h : Produces sec k c r) :
    ∃ commands, Collector.Made sec c commands r ∧ sec.entity.Admits commands := by
  cases h with
  | taken kept moves i h =>
    have hsound := (fresh_sound sec kept).run k moves
    have htake := hsound.collector.next k (hsound.traversal i)
    obtain ⟨commands, hmade⟩ := htake.made r h
    exact ⟨commands, hmade, htake.collector.made_admits hmade⟩
  | read kept moves h =>
    obtain ⟨-, hcollector, commands, hmade⟩ :=
      (Collector.Sound.trace (.reset k _) k (List.Subset.refl _) []).1 _ h
    exact ⟨commands, hmade, hcollector.made_admits hmade⟩

theorem of_mem_readRecords {moves : List Move}
    (h : r ∈ (((fresh {}).run sec .shelf moves).collector.readRecords sec).2.kept.records) :
    ∃ c, Produces sec .shelf c r := by
  rw [Collector.records_readRecords] at h
  obtain ⟨rest, hrest, rfl⟩ := List.mem_map.mp h
  exact ⟨rest.collector, .read {} moves hrest⟩

end Produces

end Session

def Section.authors : Section where
  element := ⟨{ written := ⟨none, "records"⟩ }, [
    .element {
      written := ⟨none, "append"⟩
      attributes := [{ written := ⟨none, "Authors"⟩, value := "!" }]
    } [
      .element {
        written := ⟨none, "new"⟩
        attributes := [
          { written := ⟨none, "id"⟩, value := "first" },
          { written := ⟨none, "Authors"⟩, value := "b" }]
      } [
        .element {
          written := ⟨none, "append"⟩
          attributes := [{ written := ⟨none, "Authors"⟩, value := "x" }]
        } [],
        .element {
          written := ⟨none, "add"⟩
          attributes := [{ written := ⟨none, "Authors"⟩, value := "c" }]
        } []]]]⟩
  entity := {
    own := {
      properties := [
        { name := "Format", default := some "t" },
        { name := "Authors", default := some "a", collection := true }]
      vars := []
      vars_nodup := List.nodup_nil
    }
  }
  settings := default

def Section.authorsRecord : Record where
  id := some "first"
  properties := [("Authors", .items ["ax!", "bx!", "c!"]), ("Format", .text "t")]

theorem Session.exists_produces_authors :
    ∃ c : Collector Shelf, Produces .authors .shelf c Section.authorsRecord := by
  have hread : (((fresh {}).run .authors .shelf []).collector.readRecords .authors).2.kept.records =
      [Section.authorsRecord] := by
    with_unfolding_all rfl
  exact Produces.of_mem_readRecords (hread ▸ List.mem_singleton_self _)

end Catalog
