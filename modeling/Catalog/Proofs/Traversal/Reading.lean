import Catalog.Proofs.Collector.Balance
import Catalog.Proofs.Lexical.Harvest
import Catalog.Proofs.Lexical.Record
import Catalog.Proofs.Traversal.Trace
import Mathlib.Data.List.Forall2
/-!
This module contains the proof that the stops of a node come to what lexical reading says of it,
whatever comes after them: a traversal rests at the records of the reading, each time in the
surroundings of that record, and fails where the reading does.
-/

namespace Catalog

open Xml (Element Node)

variable {σ : Type}

structure Rest.Shows (v : Visit) (r : Rest σ) : Prop where
  record : r.record = v.record
  around : r.collector.Matches v.around
  current : r.collector.current = some v.element

namespace Rest

variable {visits : List Visit} {rests : List (Rest σ)}

theorem records_of_shows (h : List.Forall₂ Shows visits rests) :
    rests.map (·.record) = visits.map (·.record) := by
  induction h with
  | nil => rfl
  | cons hshows _ ih => rw [List.map_cons, List.map_cons, ih, hshows.record]

theorem currents_of_shows (h : List.Forall₂ Shows visits rests) :
    rests.map (·.collector.current) = (visits.map (·.element)).map some := by
  induction h with
  | nil => rfl
  | cons hshows _ ih => rw [List.map_cons, List.map_cons, List.map_cons, ih, hshows.current]

theorem getLast?_of_shows (h : List.Forall₂ Shows visits rests) {r : Rest σ}
    (hr : rests.getLast? = some r) : ∃ v, visits.getLast? = some v ∧ Shows v r := by
  induction h with
  | nil => simp at hr
  | @cons v r' visits rests hshows htail ih =>
    cases htail with
    | nil =>
      obtain rfl : r' = r := by simpa using hr
      exact ⟨v, rfl, hshows⟩
    | cons hshows' htail =>
      rw [List.getLast?_cons_cons] at hr ⊢
      exact ih hr

end Rest

namespace Collector

structure Proceeds (c c' : Collector σ) (scopes : List ScopeKind) : Prop where
  earlier : c'.earlier = c.earlier
  commands : c'.present.commands.entries = c.present.commands.entries
  vars : c'.present.vars.entries = c.present.vars.entries
  pushed : ∀ kind,
    (c'.present.counts kind).pushed = (c.present.counts kind).pushed + scopes.count kind

namespace Proceeds

theorem refl (c : Collector σ) : Proceeds c c [] := by
  constructor
  · rfl
  · rfl
  · rfl
  · simp

theorem trans {c c' c'' : Collector σ} {first second : List ScopeKind} (h : Proceeds c c' first)
    (h' : Proceeds c' c'' second) : Proceeds c c'' (first ++ second) := by
  constructor
  · rw [h'.earlier, h.earlier]
  · rw [h'.commands, h.commands]
  · rw [h'.vars, h.vars]
  · intro kind
    rw [h'.pushed, h.pushed, List.count_append]
    omega

theorem around {c c' : Collector σ} {scopes : List ScopeKind} (h : Proceeds c c' scopes)
    {around : Surroundings} (hc : c.Matches around) : c'.Matches around := by
  constructor
  · rw [← hc.commands]
    simp only [Scope.Stack.outermostFirst, h.commands]
  · rw [← hc.vars]
    simp only [Scope.Stack.innermostFirst, h.vars]

end Proceeds

def Follows (sec : Section) (k : Keeper σ) (around : Surroundings) (stops : List Stop)
    (reading : Reading) : Prop :=
  ∀ (rest : List Stop) (opened : List (Option OpenScope)) (c : Collector σ), c.Matches around →
    ∃ rests, List.Forall₂ Rest.Shows (reading.harvest k c.kept).visits rests ∧
      match (reading.harvest k c.kept).fault with
      | some f =>
        ∃ final, trace sec k (stops ++ rest) opened c = ⟨rests, some (sec.report f), final⟩
      | none =>
        ∃ c', Proceeds c c' reading.scopes ∧ c'.kept = (reading.harvest k c.kept).kept ∧
          trace sec k (stops ++ rest) opened c = (trace sec k rest opened c').after rests

section

variable {sec : Section} {k : Keeper σ} {around : Surroundings}

theorem follows_nil : Follows sec k around [] {} := by
  intro rest opened c _
  exact ⟨[], .nil, c, Proceeds.refl c, rfl, rfl⟩

theorem follows_of_failed {stop : Stop} {stops : List Stop} {f : Fault} {scopes : List ScopeKind}
    (h : ∀ (opened : List (Option OpenScope)) (c : Collector σ), c.Matches around →
      ∃ c', c.step sec k opened stop = .failed f c') :
    Follows sec k around (stop :: stops) { scopes, fault := some f } := by
  intro rest opened c hc
  obtain ⟨c', hstep⟩ := h opened c hc
  refine ⟨[], .nil, c'.finish opened, ?_⟩
  rw [List.cons_append, trace_of_failed hstep]

theorem follows_append {first second : List Stop} {reading reading' : Reading}
    (h : Follows sec k around first reading) (h' : Follows sec k around second reading') :
    Follows sec k around (first ++ second) (reading.followedBy reading') := by
  intro rest opened c hc
  obtain ⟨rests, hrests, hend⟩ := h (second ++ rest) opened c hc
  rw [List.append_assoc]
  cases hfault : (reading.harvest k c.kept).fault with
  | some f =>
    rw [Reading.harvest_followedBy_of_fault hfault, hfault]
    rw [hfault] at hend
    exact ⟨rests, hrests, hend⟩
  | none =>
    rw [hfault] at hend
    obtain ⟨c', hproceeds, hkept, htrace⟩ := hend
    obtain ⟨rests', hrests', hend'⟩ := h' rest opened c' (hproceeds.around hc)
    rw [hkept] at hrests' hend'
    rw [Reading.harvest_followedBy_of_no_fault hfault, htrace]
    refine ⟨rests ++ rests', List.rel_append hrests hrests', ?_⟩
    simp only [Harvest.after]
    split
    · next f hfault' =>
      rw [hfault'] at hend'
      obtain ⟨final, htrace'⟩ := hend'
      exact ⟨final, by rw [htrace']; rfl⟩
    · next hfault' =>
      rw [hfault'] at hend'
      obtain ⟨c'', hproceeds', hkept', htrace'⟩ := hend'
      refine ⟨c'', ?_, hkept', ?_⟩
      · have hscopes : (reading.followedBy reading').scopes = reading.scopes ++ reading'.scopes := by
          simp only [Reading.followedBy, Reading.fault_of_harvest hfault]
        rw [hscopes]
        exact hproceeds.trans hproceeds'
      · rw [htrace', Trace.after_after]

theorem follows_record (e : Element) :
    Follows sec k around [.record e] (Lexical.ofRecord sec around e) := by
  unfold Lexical.ofRecord
  cases hrecord : Lexical.record sec around e with
  | error f =>
    apply follows_of_failed
    intro opened c hc
    obtain ⟨kept, hbuild⟩ := build_of_record_eq_error hc (k := k) hrecord
    exact ⟨{ c with kept }, by simp only [step, hbuild]⟩
  | ok record =>
    intro rest opened c hc
    have hbuild := build_of_record_eq_ok hc (k := k) hrecord
    simp only [Reading.harvest, Keeper.harvest]
    cases hadd : k.add record (k.create record.id c.kept) with
    | error problem =>
      rw [hadd] at hbuild
      -- The keeper has heard of the id of a record that it refuses.
      refine ⟨[], .nil, finish { c with kept := k.create record.id c.kept } opened, ?_⟩
      rw [List.cons_append]
      apply trace_of_failed
      simp only [step, hbuild]
    | ok kept =>
      rw [hadd] at hbuild
      have hstep : c.step sec k opened (.record e) =
          .yielded record { c with kept, current := some e } := by
        simp only [step, hbuild]
      refine ⟨[⟨record, rest, opened, { c with kept, current := some e }⟩], ?_, ?_⟩
      · exact .cons ⟨rfl, ⟨hc.commands, hc.vars⟩, rfl⟩ .nil
      · refine ⟨{ c with kept, current := some e }, ⟨rfl, rfl, rfl, by simp⟩, rfl, ?_⟩
        rw [List.cons_append, trace_of_yielded hstep]
        rfl

structure Opens (sec : Section) (k : Keeper σ) (around : Surroundings) (kind : ScopeKind)
    (e : Element) (inner : Surroundings) (scopes : List ScopeKind) (c c' : Collector σ)
    (o : Option OpenScope) : Prop where
  enter : ∀ opened, c.step sec k opened (.enter kind e) = .moved c' (o :: opened)
  kept : c'.kept = c.kept
  inside : c'.Matches inner
  leave : ∀ (c'' : Collector σ) (passed : List ScopeKind) (opened : List (Option OpenScope)),
    Proceeds c' c'' passed →
      ∃ d, c''.step sec k (o :: opened) .leave = .moved d opened ∧
        Proceeds c d (scopes ++ passed) ∧ d.kept = c''.kept

theorem follows_scope {kind : ScopeKind} {e : Element} {level : Nat} {stops : List Stop}
    {opening : Except Fault (Surroundings × List ScopeKind)} {inside : Surroundings → Reading}
    (herror : ∀ f, opening = .error f → ∀ (opened : List (Option OpenScope)) (c : Collector σ),
      c.Matches around → ∃ c', c.step sec k opened (.enter kind e) = .failed f c')
    (hok : ∀ inner scopes, opening = .ok (inner, scopes) → ∀ c : Collector σ, c.Matches around →
      ∃ c' o, Opens sec k around kind e inner scopes c c' o)
    (hinside : ∀ inner, Follows sec k inner stops (inside inner)) :
    Follows sec k around (Stop.scope kind e level stops)
      (Lexical.ofScope (some sec.settings.maxDepth) level e opening inside) := by
  unfold Stop.scope Lexical.ofScope
  cases e.elements with
  | nil => exact follows_nil
  | cons first others =>
    cases opening with
    | error f =>
      apply follows_of_failed
      exact herror f rfl
    | ok p =>
      obtain ⟨inner, scopes⟩ := p
      intro rest opened c hc
      obtain ⟨c', o, hopens⟩ := hok inner scopes rfl c hc
      simp only [List.cons_append, List.append_assoc]
      rw [trace_of_moved (hopens.enter opened)]
      by_cases hlevel : level ≤ sec.settings.maxDepth
      · simp only [if_pos hlevel]
        have hreach : c'.step sec k (o :: opened) (.reach first level) = .moved c' (o :: opened) := by
          simp only [step, if_pos hlevel]
        rw [trace_of_moved hreach]
        obtain ⟨rests, hrests, hend⟩ :=
          hinside inner (.leave :: rest) (o :: opened) c' hopens.inside
        rw [hopens.kept] at hrests hend
        rw [Reading.harvest_with_scopes]
        refine ⟨rests, hrests, ?_⟩
        cases hfault : ((inside inner).harvest k c.kept).fault with
        | some f =>
          rw [hfault] at hend
          exact hend
        | none =>
          rw [hfault] at hend
          obtain ⟨c'', hproceeds, hkept, htrace⟩ := hend
          obtain ⟨d, hleave, hproceeds', hkept'⟩ := hopens.leave c'' _ opened hproceeds
          rw [List.nil_append, htrace, trace_of_moved hleave]
          refine ⟨d, hproceeds', ?_, rfl⟩
          rw [hkept', hkept]
      · simp only [if_neg hlevel]
        have hreach : c'.step sec k (o :: opened) (.reach first level) =
            .failed ⟨.tooDeep sec.settings.maxDepth, first, none⟩ c' := by
          simp only [step, if_neg hlevel]
        -- The scope is open already when its elements turn out to be too deep.
        exact ⟨[], .nil, c'.finish (o :: opened), trace_of_failed hreach⟩

theorem pushed_enterCommand (c : Collector σ) (entry : Command) (kind : ScopeKind) :
    ((c.enterCommand entry).present.counts kind).pushed =
      (c.present.counts kind).pushed + [ScopeKind.command].count kind := by
  match kind with
  | .command => rfl
  | .variable => rfl

theorem pushed_enterVariable (c : Collector σ) (v : Variable) (kind : ScopeKind) :
    ((c.enterVariable v).present.counts kind).pushed =
      (c.present.counts kind).pushed + [ScopeKind.variable].count kind := by
  match kind with
  | .command => rfl
  | .variable => rfl

theorem opens_nothing {e : Element} {c : Collector σ} (hc : c.Matches around)
    (h : (around.environment sec).ofCommandElement e = .ok []) :
    Opens sec k around .command e (around.inherit []) [] c c none := by
  constructor
  · intro opened
    simp only [step, hc.environment_eq, Environment.scopeEntry, h]
    rfl
  · rfl
  · constructor
    · simp [hc.commands, Surroundings.inherit, Command.join]
    · exact hc.vars
  · intro c'' passed opened hproceeds
    exact ⟨c'', rfl, hproceeds, rfl⟩

theorem opens_command {e : Element} {commands : List Command} {entry : Command} {c : Collector σ}
    (hc : c.Matches around) (h : (around.environment sec).ofCommandElement e = .ok commands)
    (hentry : Command.join commands = some entry) :
    Opens sec k around .command e (around.inherit commands) [.command] c (c.enterCommand entry)
      (some ⟨c.generation, .command⟩) := by
  constructor
  · intro opened
    simp only [step, hc.environment_eq, Environment.scopeEntry, h, Except.map, hentry]
  · rfl
  · constructor
    · have := hc.commands
      simp only [Scope.Stack.outermostFirst] at this
      simp [enterCommand, Scope.Stack.outermostFirst, Scope.Stack.push, this,
        Surroundings.inherit, hentry]
    · exact hc.vars
  · intro c'' passed opened hproceeds
    have hgeneration : c''.generation = c.generation := by
      simp only [generation, hproceeds.earlier, enterCommand]
    refine ⟨c''.leave ⟨c.generation, .command⟩, rfl, ?_, ?_⟩
    · rw [leave_of_generation_eq hgeneration]
      constructor
      · exact hproceeds.earlier
      · exact Scope.Stack.entries_leave hproceeds.commands
      · exact hproceeds.vars
      · intro kind
        rw [Scopes.pushed_leaveIn, hproceeds.pushed, pushed_enterCommand, List.count_append]
        omega
    · rw [leave_of_generation_eq hgeneration]

theorem opens_variable {e : Element} {v : Variable} {c : Collector σ} (hc : c.Matches around)
    (h : (around.environment sec).ofVariableElement e = .ok v) :
    Opens sec k around .variable e (around.bind v) [.variable] c (c.enterVariable v)
      (some ⟨c.generation, .variable⟩) := by
  constructor
  · intro opened
    simp only [step, hc.environment_eq, h]
  · rfl
  · constructor
    · exact hc.commands
    · have := hc.vars
      simp only [Scope.Stack.innermostFirst] at this
      simp [enterVariable, Scope.Stack.innermostFirst, Scope.Stack.push, this, Surroundings.bind]
  · intro c'' passed opened hproceeds
    have hgeneration : c''.generation = c.generation := by
      simp only [generation, hproceeds.earlier, enterVariable]
    refine ⟨c''.leave ⟨c.generation, .variable⟩, rfl, ?_, ?_⟩
    · rw [leave_of_generation_eq hgeneration]
      constructor
      · exact hproceeds.earlier
      · exact hproceeds.commands
      · exact Scope.Stack.entries_leave hproceeds.vars
      · intro kind
        rw [Scopes.pushed_leaveIn, hproceeds.pushed, pushed_enterVariable, List.count_append]
        omega
    · rw [leave_of_generation_eq hgeneration]

theorem follows_command {e : Element} {level : Nat} {stops : List Stop}
    {inside : Surroundings → Reading}
    (hinside : ∀ inner, Follows sec k inner stops (inside inner)) :
    Follows sec k around (Stop.scope .command e level stops)
      (Lexical.ofScope (some sec.settings.maxDepth) level e
        (((around.environment sec).ofCommandElement e).map fun commands =>
          (around.inherit commands, if commands.isEmpty then [] else [.command]))
        inside) := by
  apply follows_scope
  · intro f hf opened c hc
    refine ⟨c, ?_⟩
    simp only [step, hc.environment_eq, Environment.scopeEntry]
    cases h : (around.environment sec).ofCommandElement e with
    | error g =>
      obtain rfl : g = f := by simpa [h, Except.map] using hf
      rfl
    | ok commands => simp [h, Except.map] at hf
  · intro inner scopes hopening c hc
    cases h : (around.environment sec).ofCommandElement e with
    | error g => simp [h, Except.map] at hopening
    | ok commands =>
      simp only [h, Except.map, Except.ok.injEq, Prod.mk.injEq] at hopening
      obtain ⟨rfl, rfl⟩ := hopening
      cases commands with
      | nil => exact ⟨c, none, opens_nothing hc h⟩
      | cons command commands =>
        obtain ⟨entry, hentry⟩ := Command.exists_join command commands
        exact ⟨c.enterCommand entry, some ⟨c.generation, .command⟩, opens_command hc h hentry⟩
  · exact hinside

theorem follows_variable {e : Element} {level : Nat} {stops : List Stop}
    {inside : Surroundings → Reading}
    (hinside : ∀ inner, Follows sec k inner stops (inside inner)) :
    Follows sec k around (Stop.scope .variable e level stops)
      (Lexical.ofScope (some sec.settings.maxDepth) level e
        (((around.environment sec).ofVariableElement e).map fun v => (around.bind v, [.variable]))
        inside) := by
  apply follows_scope
  · intro f hf opened c hc
    refine ⟨c, ?_⟩
    simp only [step, hc.environment_eq]
    cases h : (around.environment sec).ofVariableElement e with
    | error g =>
      obtain rfl : g = f := by simpa [h, Except.map] using hf
      rfl
    | ok v => simp [h, Except.map] at hf
  · intro inner scopes hopening c hc
    cases h : (around.environment sec).ofVariableElement e with
    | error g => simp [h, Except.map] at hopening
    | ok v =>
      simp only [h, Except.map, Except.ok.injEq, Prod.mk.injEq] at hopening
      obtain ⟨rfl, rfl⟩ := hopening
      exact ⟨c.enterVariable v, some ⟨c.generation, .variable⟩, opens_variable hc h⟩
  · exact hinside

end

mutual

theorem follows_ofNode (sec : Section) (k : Keeper σ) (level : Nat) (around : Surroundings)
    (n : Node) :
    Follows sec k around (Stop.ofNode level n)
      (Lexical.ofNode sec (some sec.settings.maxDepth) level around n) := by
  cases n with
  | element tag children =>
    unfold Stop.ofNode Lexical.ofNode
    match ElementKind.ofName tag.name with
    | .record => apply follows_record
    | .command =>
      apply follows_command
      intro inner
      apply follows_ofNodes
    | .variable =>
      apply follows_variable
      intro inner
      apply follows_ofNodes
    | .unknown =>
      apply follows_of_failed
      intro opened c _
      exact ⟨c, rfl⟩
  | text _ => exact follows_nil
  | comment _ => exact follows_nil
  | instruction _ _ => exact follows_nil

theorem follows_ofNodes (sec : Section) (k : Keeper σ) (level : Nat) (around : Surroundings)
    (ns : List Node) :
    Follows sec k around (Stop.ofNodes level ns)
      (Lexical.ofNodes sec (some sec.settings.maxDepth) level around ns) := by
  cases ns with
  | nil => exact follows_nil
  | cons n ns =>
    unfold Stop.ofNodes Lexical.ofNodes
    apply follows_append
    · apply follows_ofNode
    · apply follows_ofNodes

end

end Collector
end Catalog
