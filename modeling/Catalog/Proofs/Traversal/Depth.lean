import Catalog.Proofs.Report
import Catalog.Proofs.Traversal.Prefix
import Catalog.Proofs.Walk
/-!
This module contains what the limit on the depth of a section does to a traversal. As long as no
elements are entered that are too deep, the limit makes no difference, and where they would be, the
traversal ends.
-/

namespace Catalog

open Xml (Element Node)

variable {σ : Type}

def Section.limit (sec : Section) (n : Nat) (h : 1 ≤ n) : Section :=
  { sec with settings := { sec.settings with maxDepth := n, maxDepth_pos := h } }

namespace Xml.Node

mutual

def newLevels (level : Nat) : Node → List (Element × Nat)
  | .element tag children =>
    match ElementKind.ofName tag.name with
    | .record => [(⟨tag, children⟩, level)]
    | .command => newLevelsAll (level + 1) children
    | .variable => newLevelsAll (level + 1) children
    | .unknown => []
  | .text _ => []
  | .comment _ => []
  | .instruction _ _ => []

def newLevelsAll (level : Nat) : List Node → List (Element × Nat)
  | [] => []
  | n :: ns => newLevels level n ++ newLevelsAll level ns

end

theorem newLevelsAll_of_elements {tag : Tag} {children : List Node}
    (h : (Element.mk tag children).elements = []) (level : Nat) :
    newLevelsAll level children = [] := by
  unfold Element.elements at h
  induction children with
  | nil => rfl
  | cons n ns ih =>
    cases n with
    | element tag children => simp [element?] at h
    | text s => exact ih h
    | comment s => exact ih h
    | instruction target data => exact ih h

end Xml.Node

theorem ElementKind.ofName_of_malformed {name : String} {n : Xml.MalformedName}
    (h : Xml.comparable name = .error n) : ofName name = .unknown := by
  unfold ofName
  split
  · next hname =>
    have hcomparable : Xml.comparable name = .ok "new" := by
      rw [hname]
      rfl
    simp [hcomparable] at h
  · split
    · next hcommand =>
      obtain ⟨c, hc⟩ := Option.isSome_iff_exists.mp hcommand
      simp [CommandElement.comparable_of_ofName? hc] at h
    · split
      · next hname =>
        have hcomparable : Xml.comparable name = .ok "variable" := by
          rw [hname]
          rfl
        simp [hcomparable] at h
      · rfl

namespace Stop

def firstAt? (level : Nat) : Stop → Option Element
  | .reach first level' => if level' = level then some first else none
  | _ => none

inductive Shallow (m : Nat) : List Stop → List (Element × Nat) → Prop where
  | nil : Shallow m [] []
  | cons {stop : Stop} {stops : List Stop} (own : List (Element × Nat))
      {news : List (Element × Nat)} (hown : own.map (·.1) = stop.record?.toList)
      (hlevel : ∀ p ∈ own, p.2 ≤ m)
      (hreach : ∀ first level, stop = .reach first level → level ≤ m) (h : Shallow m stops news) :
      Shallow m (stop :: stops) (own ++ news)
  | deep {first : Element} {stops : List Stop} (news : List (Element × Nat))
      (hfirst : ∀ n, first.comparableName = .error n → ∃ rest, stops = .unknown first :: rest) :
      Shallow m (.reach first (m + 1) :: stops) news

theorem Shallow.pass {m : Nat} {stop : Stop} {stops : List Stop} {news : List (Element × Nat)}
    (hrecord : stop.record? = none)
    (hreach : ∀ first level, stop = .reach first level → level ≤ m) (h : Shallow m stops news) :
    Shallow m (stop :: stops) news := by
  apply Shallow.cons []
  · rw [hrecord]
    rfl
  · simp
  · exact hreach
  · exact h

theorem firstAt?_of_le {m : Nat} {stop : Stop}
    (h : ∀ first level, stop = .reach first level → level ≤ m) : stop.firstAt? (m + 1) = none := by
  cases stop with
  | reach first level =>
    have hlevel : level ≤ m := h first level rfl
    exact if_neg (by omega)
  | record e => rfl
  | enter kind e => rfl
  | leave => rfl
  | unknown e => rfl

theorem ofNodes_of_malformed {tag : Xml.Tag} {children : List Node} {first : Element}
    {others : List Element} (h : (Element.mk tag children).elements = first :: others)
    {n : Xml.MalformedName} (hname : first.comparableName = .error n) (level : Nat) :
    ∃ rest, ofNodes level children = .unknown first :: rest := by
  unfold Element.elements at h
  induction children with
  | nil => simp at h
  | cons node nodes ih =>
    cases node with
    | element tag children =>
      obtain rfl : ⟨tag, children⟩ = first := (List.cons.inj h).1
      have hkind : ElementKind.ofName tag.name = .unknown :=
        ElementKind.ofName_of_malformed hname
      refine ⟨ofNodes level nodes, ?_⟩
      rw [ofNodes, ofNode, hkind]
      rfl
    | text s => exact ih h
    | comment s => exact ih h
    | instruction target data => exact ih h

variable {m : Nat}

theorem shallow_scope {kind : ScopeKind} {tag : Xml.Tag} {children : List Node} {level : Nat}
    {rest : List Stop} {news : List (Element × Nat)} (hlevel : level ≤ m)
    (h : Shallow m rest news)
    (hinside : ∀ rest news, level + 1 ≤ m → Shallow m rest news →
      Shallow m (ofNodes (level + 1) children ++ rest)
        (Node.newLevelsAll (level + 1) children ++ news)) :
    Shallow m (scope kind ⟨tag, children⟩ (level + 1) (ofNodes (level + 1) children) ++ rest)
      (Node.newLevelsAll (level + 1) children ++ news) := by
  unfold scope
  cases helements : (Element.mk tag children).elements with
  | nil =>
    rw [Node.newLevelsAll_of_elements helements]
    exact h
  | cons first others =>
    simp only [List.cons_append, List.append_assoc]
    refine .pass rfl (by simp) ?_
    by_cases hdeep : level + 1 ≤ m
    · refine .pass rfl ?_ ?_
      · intro first' level' heq
        obtain ⟨-, rfl⟩ := Stop.reach.inj heq
        exact hdeep
      · apply hinside _ _ hdeep
        exact .pass rfl (by simp) h
    · obtain rfl : level = m := by omega
      refine .deep _ ?_
      intro n hname
      obtain ⟨more, hmore⟩ := ofNodes_of_malformed helements hname (level + 1)
      rw [hmore]
      exact ⟨_, rfl⟩

mutual

theorem shallow_ofNode {level : Nat} (hlevel : level ≤ m) {rest : List Stop}
    {news : List (Element × Nat)} (h : Shallow m rest news) (n : Node) :
    Shallow m (ofNode level n ++ rest) (n.newLevels level ++ news) := by
  cases n with
  | element tag children =>
    unfold ofNode Node.newLevels
    match ElementKind.ofName tag.name with
    | .record =>
      apply Shallow.cons [(⟨tag, children⟩, level)]
      · rfl
      · simpa using hlevel
      · simp
      · exact h
    | .command =>
      apply shallow_scope hlevel h
      intro rest news hdeep h
      exact shallow_ofNodes hdeep h children
    | .variable =>
      apply shallow_scope hlevel h
      intro rest news hdeep h
      exact shallow_ofNodes hdeep h children
    | .unknown => exact .pass rfl (by simp) h
  | text s => exact h
  | comment s => exact h
  | instruction target data => exact h

theorem shallow_ofNodes {level : Nat} (hlevel : level ≤ m) {rest : List Stop}
    {news : List (Element × Nat)} (h : Shallow m rest news) (ns : List Node) :
    Shallow m (ofNodes level ns ++ rest) (Node.newLevelsAll level ns ++ news) := by
  cases ns with
  | nil => exact h
  | cons n ns =>
    unfold ofNodes Node.newLevelsAll
    rw [List.append_assoc, List.append_assoc]
    apply shallow_ofNode hlevel
    apply shallow_ofNodes hlevel h

end

theorem shallow_ofSection (h : 1 ≤ m) (e : Element) :
    Shallow m (ofSection e) (Node.newLevelsAll 1 e.children) := by
  have hnodes := shallow_ofNodes h .nil e.children
  rw [List.append_nil, List.append_nil] at hnodes
  exact hnodes

end Stop

structure Arrival (σ : Type) where
  records : List Record
  first : Element
  opened : List (Option OpenScope)
  collector : Collector σ

namespace Arrival

def after (r : Record) (a : Arrival σ) : Arrival σ := { a with records := r :: a.records }

structure Ends (sec : Section) (m : Nat) (a : Arrival σ)
    (low high : List Record × Option StructureError × Collector σ) : Prop where
  ends : low =
    (a.records, some (sec.report ⟨.tooDeep m, a.first, none⟩), a.collector.finish a.opened)
  isPrefix : a.records <+: high.1
  malformed : ∀ n, a.first.comparableName = .error n → high = low

end Arrival

namespace Collector

def arrival? (sec : Section) (k : Keeper σ) (level : Nat) :
    List Stop → List (Option OpenScope) → Collector σ → Option (Arrival σ)
  | [], _, _ => none
  | stop :: stops, opened, c =>
    match c.step sec k opened stop with
    | .moved c opened =>
      match stop.firstAt? level with
      | some first => some ⟨[], first, opened, c⟩
      | none => arrival? sec k level stops opened c
    | .yielded r c => (arrival? sec k level stops opened c).map (Arrival.after r)
    | .failed _ _ => none

def tried (sec : Section) (k : Keeper σ) :
    List Stop → List (Option OpenScope) → Collector σ → List Stop
  | [], _, _ => []
  | stop :: stops, opened, c =>
    stop ::
      match c.step sec k opened stop with
      | .moved c opened => tried sec k stops opened c
      | .yielded _ c => tried sec k stops opened c
      | .failed _ _ => []

section

variable {sec : Section} {k : Keeper σ} {stop : Stop} {stops : List Stop}
  {opened opened' : List (Option OpenScope)} {c c' : Collector σ} {r : Record} {f : Fault}

theorem exhaust_of_moved (h : c.step sec k opened stop = .moved c' opened') :
    exhaust sec k (stop :: stops) opened c = exhaust sec k stops opened' c' := by
  simp only [exhaust, h]

theorem exhaust_of_yielded (h : c.step sec k opened stop = .yielded r c') :
    exhaust sec k (stop :: stops) opened c =
      (r :: (exhaust sec k stops opened c').1, (exhaust sec k stops opened c').2) := by
  simp only [exhaust, h]

theorem exhaust_of_failed (h : c.step sec k opened stop = .failed f c') :
    exhaust sec k (stop :: stops) opened c = ([], some (sec.report f), c'.finish opened) := by
  simp only [exhaust, h]

variable {level : Nat}

theorem arrival?_of_moved (h : c.step sec k opened stop = .moved c' opened')
    (hfirst : stop.firstAt? level = none) :
    arrival? sec k level (stop :: stops) opened c = arrival? sec k level stops opened' c' := by
  simp only [arrival?, h, hfirst]

theorem arrival?_of_yielded (h : c.step sec k opened stop = .yielded r c') :
    arrival? sec k level (stop :: stops) opened c =
      (arrival? sec k level stops opened c').map (Arrival.after r) := by
  simp only [arrival?, h]

theorem arrival?_of_failed (h : c.step sec k opened stop = .failed f c') :
    arrival? sec k level (stop :: stops) opened c = none := by
  simp only [arrival?, h]

end

section

variable (sec : Section) (k : Keeper σ) {m m' : Nat} (hm : 1 ≤ m) (hm' : 1 ≤ m')
  (opened : List (Option OpenScope)) (c : Collector σ)

theorem step_limit (hlt : m < m') {stop : Stop}
    (h : ∀ first level, stop = .reach first level → level ≤ m) :
    c.step (sec.limit m' hm') k opened stop = c.step (sec.limit m hm) k opened stop := by
  cases stop with
  | record e => rfl
  | enter kind e =>
    match kind with
    | .command => rfl
    | .variable => rfl
  | reach first level =>
    have hlevel : level ≤ m := h first level rfl
    have hlevel' : level ≤ m' := Nat.le_trans hlevel (Nat.le_of_lt hlt)
    unfold step
    exact (if_pos hlevel').trans (if_pos hlevel).symm
  | leave => rfl
  | unknown e => rfl

theorem step_reach_low (first : Element) :
    c.step (sec.limit m hm) k opened (.reach first (m + 1)) =
      .failed ⟨.tooDeep m, first, none⟩ c := by
  exact if_neg (Nat.not_succ_le_self m)

theorem step_reach_high (hlt : m < m') (first : Element) :
    c.step (sec.limit m' hm') k opened (.reach first (m + 1)) = .moved c opened := by
  exact if_pos hlt

end

variable {sec : Section} {k : Keeper σ} {m m' : Nat} {hm : 1 ≤ m} {hm' : 1 ≤ m'}
  {stops : List Stop} {news : List (Element × Nat)} {opened : List (Option OpenScope)}
  {c : Collector σ}

theorem exhaust_of_no_arrival (h : Stop.Shallow m stops news) (hlt : m < m')
    (harrival : arrival? (sec.limit m' hm') k (m + 1) stops opened c = none) :
    exhaust (sec.limit m hm) k stops opened c = exhaust (sec.limit m' hm') k stops opened c := by
  induction h generalizing opened c with
  | nil => rfl
  | @cons stop stops own news _ _ hreach _ ih =>
    have hsame := step_limit sec k hm hm' opened c hlt hreach
    cases hstep : c.step (sec.limit m hm) k opened stop with
    | moved c' opened' =>
      rw [hstep] at hsame
      rw [arrival?_of_moved hsame (Stop.firstAt?_of_le hreach)] at harrival
      rw [exhaust_of_moved hstep, exhaust_of_moved hsame]
      exact ih harrival
    | yielded r c' =>
      rw [hstep] at hsame
      rw [arrival?_of_yielded hsame, Option.map_eq_none_iff] at harrival
      rw [exhaust_of_yielded hstep, exhaust_of_yielded hsame, ih harrival]
    | failed f c' =>
      rw [hstep] at hsame
      rw [exhaust_of_failed hstep, exhaust_of_failed hsame]
      rfl
  | @deep first stops news hfirst =>
    simp [arrival?, step_reach_high sec k hm' opened c hlt, Stop.firstAt?] at harrival

theorem ends_of_arrival (h : Stop.Shallow m stops news) (hlt : m < m') {a : Arrival σ}
    (harrival : arrival? (sec.limit m' hm') k (m + 1) stops opened c = some a) :
    a.Ends sec m (exhaust (sec.limit m hm) k stops opened c)
      (exhaust (sec.limit m' hm') k stops opened c) := by
  induction h generalizing opened c a with
  | nil => simp [arrival?] at harrival
  | @cons stop stops own news _ _ hreach _ ih =>
    have hsame := step_limit sec k hm hm' opened c hlt hreach
    cases hstep : c.step (sec.limit m hm) k opened stop with
    | moved c' opened' =>
      rw [hstep] at hsame
      rw [arrival?_of_moved hsame (Stop.firstAt?_of_le hreach)] at harrival
      rw [exhaust_of_moved hstep, exhaust_of_moved hsame]
      exact ih harrival
    | yielded r c' =>
      rw [hstep] at hsame
      rw [arrival?_of_yielded hsame, Option.map_eq_some_iff] at harrival
      obtain ⟨a', harrival', rfl⟩ := harrival
      obtain ⟨hends, hrecords, hmalformed⟩ := ih harrival'
      rw [exhaust_of_yielded hstep, exhaust_of_yielded hsame]
      constructor
      · rw [hends]
        rfl
      · exact List.cons_prefix_cons.mpr ⟨rfl, hrecords⟩
      · intro n hname
        rw [hmalformed n hname]
    | failed f c' =>
      rw [hstep] at hsame
      rw [arrival?_of_failed hsame] at harrival
      simp at harrival
  | @deep first stops news hfirst =>
    have hhigh := step_reach_high sec k hm' opened c hlt first
    have hlow := step_reach_low sec k hm opened c first
    obtain rfl : ⟨[], first, opened, c⟩ = a := by
      simpa [arrival?, hhigh, Stop.firstAt?] using harrival
    rw [exhaust_of_failed hlow, exhaust_of_moved hhigh]
    constructor
    · rfl
    · exact List.nil_prefix
    · intro n hname
      -- The next stop is the element itself, and it fails for its name as well.
      obtain ⟨rest, rfl⟩ := hfirst n hname
      have hunknown : c.step (sec.limit m' hm') k opened (.unknown first) =
          .failed ⟨.unknownElement first.name, first, none⟩ c := rfl
      have hreport : (sec.limit m' hm').report ⟨.unknownElement first.name, first, none⟩ =
          (sec.limit m hm).report ⟨.tooDeep m, first, none⟩ := by
        rw [Section.report_of_malformed _ ⟨.unknownElement first.name, first, none⟩ (by simp) hname,
          Section.report_of_malformed _ ⟨.tooDeep m, first, none⟩ (by simp) hname]
        rfl
      rw [exhaust_of_failed hunknown, hreport]

theorem tried_limit (h : Stop.Shallow m stops news) :
    ∃ made, made <+: news ∧
      (tried (sec.limit m hm) k stops opened c).filterMap Stop.record? = made.map (·.1) ∧
      ∀ p ∈ made, p.2 ≤ m := by
  induction h generalizing opened c with
  | nil => exact ⟨[], List.nil_prefix, rfl, by simp⟩
  | @cons stop stops own news hown hlevel _ _ ih =>
    have htail : ∃ made, made <+: news ∧
        (match c.step (sec.limit m hm) k opened stop with
          | .moved c opened => tried (sec.limit m hm) k stops opened c
          | .yielded _ c => tried (sec.limit m hm) k stops opened c
          | .failed _ _ => []).filterMap Stop.record? = made.map (·.1) ∧
        ∀ p ∈ made, p.2 ≤ m := by
      cases c.step (sec.limit m hm) k opened stop with
      | moved c' opened' => exact ih
      | yielded r c' => exact ih
      | failed f c' => exact ⟨[], List.nil_prefix, rfl, by simp⟩
    obtain ⟨made, hprefix, hmade, hlevels⟩ := htail
    refine ⟨own ++ made, (List.prefix_append_right_inj own).mpr hprefix, ?_, ?_⟩
    · rw [tried, List.map_append, hown, ← hmade, List.filterMap_cons]
      cases stop.record? with
      | none => rfl
      | some e => rfl
    · intro p hp
      rw [List.mem_append] at hp
      obtain hp | hp := hp
      · exact hlevel p hp
      · exact hlevels p hp
  | @deep first stops news _ =>
    refine ⟨[], List.nil_prefix, ?_, by simp⟩
    rw [tried, step_reach_low]
    rfl

theorem drain_limit_of_not_deep (sec : Section) (hm : 1 ≤ m) (hlt : m < m') (k : Keeper σ)
    (c : Collector σ)
    (h : ∀ e, (c.drain (sec.limit m hm) k .fresh).2.1 = some e → e.problem ≠ .tooDeep m) :
    c.drain (sec.limit m' (Nat.le_trans hm (Nat.le_of_lt hlt))) k .fresh =
      c.drain (sec.limit m hm) k .fresh := by
  have hshallow : Stop.Shallow m sec.stops (Node.newLevelsAll 1 sec.element.children) :=
    Stop.shallow_ofSection hm sec.element
  cases harrival : arrival? (sec.limit m' (Nat.le_trans hm (Nat.le_of_lt hlt))) k (m + 1) sec.stops
      [] (c.reset k) with
  | none => exact (exhaust_of_no_arrival hshallow hlt harrival).symm
  | some a =>
    obtain ⟨hends, -, hmalformed⟩ := ends_of_arrival hshallow hlt harrival
    cases hname : a.first.comparableName with
    | error name => exact hmalformed name hname
    | ok name =>
      have hreport : (sec.report ⟨.tooDeep m, a.first, none⟩).problem = .tooDeep m := by
        rw [sec.report_of_comparable ⟨.tooDeep m, a.first, none⟩ (by simp) hname]
        rfl
      have hlow : (c.drain (sec.limit m hm) k .fresh).2.1 =
          some (sec.report ⟨.tooDeep m, a.first, none⟩) := congrArg (·.2.1) hends
      exact absurd hreport (h _ hlow)

/--
Compare a traversal with one that has a higher limit on the depth. If the second one never enters the
elements of the level behind the lower limit, both do the same. Otherwise the first one makes the
records that the second one makes before it enters them, and ends there with an error at the first of
these elements: the depth is too great, unless the element has a name that cannot be told. Either
way a higher limit does not change what ends otherwise, and no record is made at a level behind the
limit. Elements without child elements that open no scope add no level.
-/
theorem drain_limit (sec : Section) {m m' : Nat} (hm : 1 ≤ m) (hlt : m < m') (k : Keeper σ)
    (c : Collector σ) :
    let low := sec.limit m hm
    let high := sec.limit m' (Nat.le_trans hm (Nat.le_of_lt hlt))
    let arrival := arrival? high k (m + 1) sec.stops [] (c.reset k)
    let lowDrain := c.drain low k .fresh
    let highDrain := c.drain high k .fresh
    (arrival = none → lowDrain = highDrain) ∧
    (∀ a, arrival = some a →
      lowDrain.1 = a.records ∧ a.records <+: highDrain.1 ∧
        lowDrain.2.2 = a.collector.finish a.opened ∧
        (∀ name, a.first.comparableName = .ok name →
          lowDrain.2.1 = some {
            problem := .tooDeep m
            place := some {
              elementName := some name
              attributeName := none
              line := some a.first.tag.line
              document := sec.document
              snippet := some (Place.snippetOf a.first)
            }
            level := sec.settings.level
          }) ∧
        ∀ name, a.first.comparableName = .error name →
          lowDrain.2.1 = some { problem := .malformedName name, level := sec.settings.level }) ∧
    ((∀ e, lowDrain.2.1 = some e → e.problem ≠ .tooDeep m) → highDrain = lowDrain) ∧
    (∃ made, made <+: Node.newLevelsAll 1 sec.element.children ∧
      (tried low k sec.stops [] (c.reset k)).filterMap Stop.record? = made.map (·.1) ∧
      ∀ p ∈ made, p.2 ≤ m) ∧
    ∀ (tag : Xml.Tag) (children : List Node) (level : Nat),
      ElementKind.ofName tag.name = .command ∨ ElementKind.ofName tag.name = .variable →
      (Element.mk tag children).elements = [] → Stop.ofNode level (.element tag children) = [] := by
  intro low high arrival lowDrain highDrain
  have hshallow : Stop.Shallow m sec.stops (Node.newLevelsAll 1 sec.element.children) :=
    Stop.shallow_ofSection hm sec.element
  have hnone (h : arrival = none) : lowDrain = highDrain := by
    exact exhaust_of_no_arrival hshallow hlt h
  have hsome {a : Arrival σ} (h : arrival = some a) : a.Ends sec m lowDrain highDrain := by
    exact ends_of_arrival hshallow hlt h
  refine ⟨hnone, ?_, drain_limit_of_not_deep sec hm hlt k c, tried_limit hshallow, ?_⟩
  · intro a ha
    obtain ⟨hends, hrecords, -⟩ := hsome ha
    rw [hends]
    refine ⟨rfl, hrecords, rfl, ?_, ?_⟩
    · intro name hname
      exact congrArg some
        (sec.report_of_comparable ⟨.tooDeep m, a.first, none⟩ (by simp) hname)
    · intro name hname
      exact congrArg some
        (sec.report_of_malformed ⟨.tooDeep m, a.first, none⟩ (by simp) hname)
  · intro tag children level hkind helements
    unfold Stop.ofNode
    obtain hkind | hkind := hkind
    · rw [hkind]
      simp only [Stop.scope, helements]
    · rw [hkind]
      simp only [Stop.scope, helements]

theorem drain_limit_titled :
    1 ≤ 1 ∧ 1 < 2 ∧
      (Collector.drain { kept := [] } (Section.titled.limit 1 (by decide)) .journal .fresh).2.1 =
        some {
          problem := .tooDeep 1
          place := some {
            elementName := some "new"
            line := some 1
            snippet := some "<new/>"
          }
        } := by
  obtain ⟨-, hends, -⟩ :=
    drain_limit .titled (Nat.le_refl 1) (by decide : 1 < 2) .journal { kept := [] }
  have harrival : arrival? (Section.titled.limit 2 (by decide)) .journal 2 Section.titled.stops []
      (Collector.reset .journal { kept := [] }) =
        some ⟨[], Titles.recordElement, [some ⟨1, .command⟩],
          (Collector.reset .journal { kept := [] }).enterCommand Titles.title⟩ := by
    cbv
  obtain ⟨-, -, -, hdeep, -⟩ := hends _ harrival
  exact ⟨Nat.le_refl 1, by decide, hdeep "new" rfl⟩

end Collector

def Section.unqualified : Section where
  element := ⟨{ written := ⟨none, "records"⟩ }, [
    .element {
      written := ⟨none, "set"⟩
      attributes := [{ written := ⟨none, "Title"⟩, value := "1" }]
    } [
      .element { written := ⟨some "x", "new"⟩, name := "x:new" } []]]⟩
  entity := Titles.entity
  settings := default

namespace Collector

theorem drain_limit_unqualified :
    ((arrival? (Section.unqualified.limit 2 (by decide)) .journal 2 Section.unqualified.stops []
        (Collector.reset .journal { kept := [] })).map (·.first.name)) = some "x:new" ∧
      (Collector.drain { kept := [] } (Section.unqualified.limit 1 (by decide)) .journal
        .fresh).2.1 = some { problem := .malformedName ⟨"x:new"⟩ } := by
  refine ⟨?_, ?_⟩
  · cbv
  · cbv

end Collector
end Catalog
