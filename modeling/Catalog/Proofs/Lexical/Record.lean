import Catalog.Proofs.Lexical.Basic
import Catalog.Proofs.Result
/-!
This module contains the proof that a collector whose scopes hold what the surroundings of an
element say makes the record that lexical reading makes of the element.
-/

namespace Catalog

open Xml (Element Attribute)

namespace Lexical

def gather (found : Option String × List Command) : String ⊕ Command → Option String × List Command
  | .inl id => (some id, found.2)
  | .inr c => (found.1, found.2 ++ [c])

theorem foldl_gather (own : List (String ⊕ Command)) (id : Option String)
    (commands : List Command) :
    own.foldl gather (id, commands) =
      ((own.filterMap Sum.getLeft?).getLast?.or id,
        commands ++ own.filterMap Sum.getRight?) := by
  induction own generalizing id commands with
  | nil => simp
  | cons x own ih =>
    rw [List.foldl_cons]
    cases x with
    | inl text =>
      rw [show gather (id, commands) (.inl text) = (some text, commands) from rfl, ih]
      simp [List.filterMap_cons, List.getLast?_cons]
    | inr c =>
      rw [show gather (id, commands) (.inr c) = (id, commands ++ [c]) from rfl, ih]
      simp

theorem gather_ofAttribute (env : Environment) (e : Element) (found : Option String × List Command)
    (a : Attribute) :
    (ofAttribute env e a).map (gather found) = (do
      let name ← (Xml.comparable a.name).mapError (Fault.ofName e)
      if name = "id" then
        let id ← env.value e a.value (some name)
        return (some id, found.2)
      else
        let c ← env.ofAttribute e name a.value
        return (found.1, found.2 ++ [c])) := by
  unfold ofAttribute
  cases (Xml.comparable a.name).mapError (Fault.ofName e) with
  | error f => rfl
  | ok name =>
    simp only [bind, Except.bind, pure, Except.pure]
    split
    · cases env.value e a.value (some name) with
      | error f => rfl
      | ok id => rfl
    · cases env.ofAttribute e name a.value with
      | error f => rfl
      | ok c => rfl

theorem ofAttributes_eq (env : Environment) (e : Element) :
    env.ofAttributes e = (e.attributes.mapM (ofAttribute env e)).map fun own =>
      ((own.filterMap Sum.getLeft?).getLast?, own.filterMap Sum.getRight?) := by
  have hstep : env.ofAttributes e =
      e.attributes.foldlM (fun found a => (ofAttribute env e a).map (gather found)) (none, []) := by
    unfold Environment.ofAttributes
    congr 1
    funext found a
    rw [gather_ofAttribute]
  rw [hstep, foldlM_map]
  congr 1
  funext own
  rw [foldl_gather]
  simp

theorem record_eq (sec : Section) (around : Surroundings) (e : Element) :
    record sec around e = (do
      let (id, own) ← (around.environment sec).ofAttributes e
      let children ← (around.environment sec).ofChildren e
      return sec.entity.make id (own ++ children ++ around.commands.flatten)) := by
  simp only [record, ofAttributes_eq]
  cases e.attributes.mapM (ofAttribute (around.environment sec) e) with
  | error f => rfl
  | ok own =>
    cases (around.environment sec).ofChildren e with
    | error f => rfl
    | ok children =>
      simp only [Except.map, bind, Except.bind, Entity.make_eq]

end Lexical

namespace Collector

variable {σ : Type}

structure Matches (c : Collector σ) (around : Surroundings) : Prop where
  commands : c.present.commands.outermostFirst = around.commands.filterMap Command.join
  vars : c.present.vars.innermostFirst = around.vars

theorem Matches.environment_eq {c : Collector σ} {around : Surroundings} (h : c.Matches around)
    (sec : Section) : sec.environment c.present.vars = around.environment sec := by
  unfold Section.environment Surroundings.environment
  congr 1
  funext name
  unfold Scope.Stack.lookup Scope.Stack.findVariable? Surroundings.nearest?
  rw [← h.vars]
  unfold Scope.Stack.innermostFirst
  cases List.find? (·.name == name) c.present.vars.entries with
  | none => rfl
  | some v => rfl

theorem Matches.make_eq {c : Collector σ} {around : Surroundings} (h : c.Matches around)
    (entity : Entity) (id : Option String) (commands : List Command) :
    entity.make id (commands ++ c.present.commands.outermostFirst) =
      entity.make id (commands ++ around.commands.flatten) := by
  rw [Entity.make_eq, Entity.make_eq, Command.runAll_append, Command.runAll_append, h.commands,
    Command.runAll_filterMap_join]

theorem build_of_record_eq_error {c : Collector σ} {around : Surroundings} (h : c.Matches around)
    {sec : Section} {k : Keeper σ} {e : Element} {f : Fault}
    (hrecord : Lexical.record sec around e = .error f) :
    ∃ kept, c.build sec k e = (.error f, { c with kept }) := by
  rw [Lexical.record_eq] at hrecord
  unfold build
  simp only [h.environment_eq]
  cases hown : (around.environment sec).ofAttributes e with
  | error g =>
    obtain rfl : g = f := by simpa [hown, bind, Except.bind] using hrecord
    exact ⟨c.kept, rfl⟩
  | ok p =>
    cases hchildren : (around.environment sec).ofChildren e with
    | error g =>
      obtain rfl : g = f := by simpa [hown, hchildren, bind, Except.bind] using hrecord
      exact ⟨k.create p.1 c.kept, rfl⟩
    | ok children => simp [hown, hchildren, bind, Except.bind, pure, Except.pure] at hrecord

theorem build_of_record_eq_ok {c : Collector σ} {around : Surroundings} (h : c.Matches around)
    {sec : Section} {k : Keeper σ} {e : Element} {r : Record}
    (hrecord : Lexical.record sec around e = .ok r) :
    c.build sec k e =
      match k.add r (k.create r.id c.kept) with
      | .error problem => (.error ⟨problem, e, none⟩, { c with kept := k.create r.id c.kept })
      | .ok kept => (.ok r, { c with kept, current := some e }) := by
  rw [Lexical.record_eq] at hrecord
  unfold build
  simp only [h.environment_eq]
  cases hown : (around.environment sec).ofAttributes e with
  | error g => simp [hown, bind, Except.bind] at hrecord
  | ok p =>
    cases hchildren : (around.environment sec).ofChildren e with
    | error g => simp [hown, hchildren, bind, Except.bind] at hrecord
    | ok children =>
      simp only [hown, hchildren, bind, Except.bind, pure, Except.pure, Except.ok.injEq] at hrecord
      have hid : r.id = p.1 := by
        rw [← hrecord, Entity.make_id]
      cases hadd : k.add r (k.create p.1 c.kept) with
      | error problem => simp only [h.make_eq, hrecord, hid, hadd]
      | ok kept => simp only [h.make_eq, hrecord, hid, hadd]

end Collector
end Catalog
