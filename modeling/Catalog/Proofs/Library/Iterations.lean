import Catalog.Document.Library
import Catalog.Proofs.Traversal.Repeats
/-!
This module contains the proof that all ways to read the records of an entity agree, in whatever
order they are gone about: reading them at once, reading those of all entities, and any number of
iterations that take turns.
-/

namespace Catalog

namespace Library

def made (lib : Library) (name : String) : List Record × Option Error :=
  match lib.section? name with
  | .error e => ([], some e)
  | .ok none => ([], none)
  | .ok (some sec) =>
    let (records, error, _) := Collector.drain { kept := {} } sec .shelf .fresh
    (records, error.map .element)

def answersOf (made : List Record × Option Error) : List (Take Error) :=
  made.1.map .record ++ (made.2.map .failed).toList

def Iteration.after (lib : Library) : Nat → Iteration → Iteration
  | 0, it => it
  | n + 1, it => after lib n (lib.next it).2

theorem Iteration.after_over (lib : Library) (n : Nat) : Iteration.over.after lib n = .over := by
  induction n with
  | zero => rfl
  | succ n ih => exact ih

theorem Iteration.after_succ (lib : Library) (n : Nat) (it : Iteration) :
    it.after lib (n + 1) = (lib.next (it.after lib n)).2 := by
  induction n generalizing it with
  | zero => rfl
  | succ n ih => exact ih (lib.next it).2

variable {lib : Library}

theorem next_after_congr {it it' : Iteration} (h : lib.next it = lib.next it') (n : Nat) :
    lib.next (it.after lib n) = lib.next (it'.after lib n) := by
  cases n with
  | zero => exact h
  | succ n => simp only [Iteration.after, h]

section

variable (sec : Section) (stops : List Stop) (opened : List (Option OpenScope))
  (c : Collector Shelf)

theorem next_running :
    lib.next (.running sec c (.paused stops opened)) =
      match (Collector.trace sec .shelf stops opened c).rests with
      | [] =>
        ((Collector.trace sec .shelf stops opened c).error.elim .ended fun e =>
          .failed (.element e), .over)
      | r :: _ => (.record r.record, .running sec r.collector (.paused r.stops r.opened)) := by
  have hnext : c.next sec .shelf (.paused stops opened) = _ :=
    Collector.advance_eq_trace sec .shelf stops opened c
  simp only [next, Iteration.take, hnext]
  cases (Collector.trace sec .shelf stops opened c).rests with
  | nil =>
    cases (Collector.trace sec .shelf stops opened c).error with
    | none => rfl
    | some e => rfl
  | cons r rests => rfl

def answersOfTrace {σ : Type} (t : Trace σ) : List (Take Error) :=
  answersOf (t.records, t.error.map .element)

theorem answersOfTrace_after {σ : Type} (r : Rest σ) (t : Trace σ) :
    answersOfTrace (t.after [r]) = .record r.record :: answersOfTrace t := by
  simp [answersOfTrace, answersOf, Trace.records, Trace.after]

theorem next_after_running (n : Nat) :
    (lib.next ((Iteration.running sec c (.paused stops opened)).after lib n)).1 =
      (answersOfTrace (Collector.trace sec .shelf stops opened c))[n]?.getD .ended := by
  induction n generalizing stops opened c with
  | zero =>
    rw [Iteration.after, next_running]
    cases hrests : (Collector.trace sec .shelf stops opened c).rests with
    | nil =>
      cases herror : (Collector.trace sec .shelf stops opened c).error with
      | none => simp [answersOfTrace, answersOf, Trace.records, hrests, herror]
      | some e => simp [answersOfTrace, answersOf, Trace.records, hrests, herror]
    | cons r rests =>
      rw [Collector.trace_of_rest hrests, answersOfTrace_after]
      rfl
  | succ n ih =>
    rw [Iteration.after, next_running]
    cases hrests : (Collector.trace sec .shelf stops opened c).rests with
    | nil =>
      simp only [Iteration.after_over]
      cases herror : (Collector.trace sec .shelf stops opened c).error with
      | none => simp [answersOfTrace, answersOf, Trace.records, hrests, herror, next]
      | some e => simp [answersOfTrace, answersOf, Trace.records, hrests, herror, next]
    | cons r rests =>
      rw [Collector.trace_of_rest hrests, answersOfTrace_after]
      exact ih r.stops r.opened r.collector

end

theorem made_of_section {name : String} {sec : Section} (h : lib.section? name = .ok (some sec)) :
    lib.made name =
      ((Collector.course sec .shelf { kept := {} }).records,
        (Collector.course sec .shelf { kept := {} }).error.map .element) := by
  simp only [made, h, Collector.drain_fresh]

theorem next_after_fresh (lib : Library) (name : String) (n : Nat) :
    (lib.next ((Iteration.fresh name).after lib n)).1 =
      (answersOf (lib.made name))[n]?.getD .ended := by
  cases hsection : lib.section? name with
  | error e =>
    cases n with
    | zero => simp [Iteration.after, next, made, hsection, answersOf]
    | succ n => simp [Iteration.after, next, made, hsection, answersOf, Iteration.after_over]
  | ok found =>
    cases found with
    | none =>
      cases n with
      | zero => simp [Iteration.after, next, made, hsection, answersOf]
      | succ n => simp [Iteration.after, next, made, hsection, answersOf, Iteration.after_over]
    | some sec =>
      -- The first record is asked of a new collector, which is reset once more before it begins.
      have hnext : lib.next (.fresh name) =
          lib.next (.running sec (Collector.reset .shelf { kept := {} }) (.paused sec.stops [])) := by
        simp only [next, hsection]
        rfl
      rw [next_after_congr hnext, next_after_running, made_of_section hsection]
      rfl

theorem read_eq_made (lib : Library) (name : String) :
    lib.read name = (lib.made name).2.elim (.ok (lib.made name).1) .error := by
  cases hsection : lib.section? name with
  | error e => simp [read, made, hsection, bind, Except.bind]
  | ok found =>
    cases found with
    | none => simp [read, made, hsection, bind, Except.bind, pure, Except.pure]
    | some sec =>
      rw [made_of_section hsection, Collector.course_records, Collector.course_error]
      cases hharvest : Collector.harvest sec .shelf { kept := {} } with
      | mk visits fault s =>
        obtain ⟨-, hread⟩ := Collector.readRecords_of_harvest hharvest
        simp only [read, hsection, bind, Except.bind, Section.records, hread]
        cases fault with
        | none => rfl
        | some f => rfl

inductive Request where
  | iterate (name : String)
  | take (i : Nat)
  | close (i : Nat)
  | read (name : String)
  | readAll
deriving DecidableEq

def Request.iterates : Request → Bool
  | .iterate _ => true
  | _ => false

inductive Reply where
  | done
  | taken (x : Take Error)
  | records (result : Except Error (List Record))
  | all (result : Except Error (List (String × List Record)))

def iteration (its : List Iteration) (i : Nat) : Iteration := its[i]?.getD .over

def respond (lib : Library) (its : List Iteration) : Request → Reply × List Iteration
  | .iterate name => (.done, its ++ [.fresh name])
  | .take i =>
    let (x, it) := lib.next (iteration its i)
    (.taken x, its.set i it)
  | .close i => (.done, its.set i .over)
  | .read name => (.records (lib.read name), its)
  | .readAll => (.all lib.readAll, its)

def serve (lib : Library) (its : List Iteration) (requests : List Request) : List Iteration :=
  requests.foldl (fun its request => (lib.respond its request).2) its

theorem serve_append (lib : Library) (its : List Iteration) (first second : List Request) :
    lib.serve its (first ++ second) = lib.serve (lib.serve its first) second := by
  exact List.foldl_append

theorem length_respond (lib : Library) (its : List Iteration) (request : Request) :
    (lib.respond its request).2.length = its.length + if request.iterates then 1 else 0 := by
  cases request with
  | iterate name => simp [respond, Request.iterates]
  | take i => simp [respond, Request.iterates]
  | close i => simp [respond, Request.iterates]
  | read name => simp [respond, Request.iterates]
  | readAll => simp [respond, Request.iterates]

theorem length_serve (lib : Library) (its : List Iteration) (requests : List Request) :
    (lib.serve its requests).length = its.length + requests.countP Request.iterates := by
  induction requests generalizing its with
  | nil => rfl
  | cons request requests ih =>
    have hserve : lib.serve its (request :: requests) =
        lib.serve (lib.respond its request).2 requests := rfl
    rw [hserve, ih, length_respond, List.countP_cons]
    omega

theorem getElem?_respond {its : List Iteration} {i : Nat} {it : Iteration} (h : its[i]? = some it)
    (lib : Library) (request : Request) :
    (lib.respond its request).2[i]? = some
      (if request = .take i then (lib.next it).2 else if request = .close i then .over else it) := by
  obtain ⟨hi, hit⟩ := List.getElem?_eq_some_iff.mp h
  cases request with
  | iterate name => simpa [respond, List.getElem?_append_left hi] using h
  | take j =>
    by_cases hj : j = i
    · simp [respond, hj, hi, iteration, hit]
    · simpa [respond, hj, List.getElem?_set_ne hj] using h
  | close j =>
    by_cases hj : j = i
    · simp [respond, hj, hi]
    · simpa [respond, hj, List.getElem?_set_ne hj] using h
  | read name => simpa [respond] using h
  | readAll => simpa [respond] using h

theorem getElem?_serve {its : List Iteration} {i : Nat} {it : Iteration} (h : its[i]? = some it)
    (lib : Library) (requests : List Request) :
    (lib.serve its requests)[i]? = some
      (if .close i ∈ requests then .over else it.after lib (requests.count (.take i))) := by
  induction requests using List.reverseRecOn with
  | nil => exact h
  | append_singleton requests request ih =>
    have hserve : lib.serve its (requests ++ [request]) =
        (lib.respond (lib.serve its requests) request).2 := by
      rw [serve_append]
      rfl
    rw [hserve, getElem?_respond ih]
    -- By its last request: only one for the iteration itself can change what it is.
    by_cases htake : request = .take i
    · rw [htake]
      by_cases hclosed : .close i ∈ requests
      · simp [hclosed, next]
      · simp [hclosed, Iteration.after_succ]
    · by_cases hclose : request = .close i
      · simp [hclose]
      · have hcount : (requests ++ [request]).count (.take i) = requests.count (.take i) := by
          simp [List.count_append, htake]
        have hmem : .close i ∈ requests ++ [request] ↔ .close i ∈ requests := by
          simp [Ne.symm hclose]
        simp only [htake, hclose, if_false, hcount, hmem]

theorem readAll_eq (lib : Library) :
    lib.readAll = lib.document.entries.mapM fun entry => (lib.read entry.name).map (entry.name, ·) := by
  rfl

theorem map_read_eq_ok_iff {name : String} {p : String × List Record} :
    (lib.read name).map (name, ·) = .ok p ↔ p.1 = name ∧ lib.read p.1 = .ok p.2 := by
  obtain ⟨name', records⟩ := p
  cases hread : lib.read name with
  | error e =>
    simp only [Except.map]
    constructor
    · simp
    · rintro ⟨rfl, h⟩
      simp [hread] at h
  | ok records' =>
    simp only [Except.map, Except.ok.injEq, Prod.mk.injEq]
    constructor
    · rintro ⟨rfl, rfl⟩
      exact ⟨rfl, hread⟩
    · rintro ⟨rfl, h⟩
      exact ⟨rfl, Except.ok.inj (hread.symm.trans h)⟩

theorem readAll_eq_ok_iff {all : List (String × List Record)} :
    lib.readAll = .ok all ↔ all.map (·.1) = lib.document.entries.map (·.name) ∧
      ∀ p ∈ all, lib.read p.1 = .ok p.2 := by
  rw [readAll_eq, mapM_eq_ok_iff]
  simp only [map_read_eq_ok_iff]
  generalize lib.document.entries = entries
  induction entries generalizing all with
  | nil =>
    rw [List.forall₂_nil_left_iff, List.map_nil, List.map_eq_nil_iff]
    constructor
    · rintro rfl
      exact ⟨rfl, by simp⟩
    · exact And.left
  | cons entry entries ih =>
    rw [List.forall₂_cons_left_iff]
    constructor
    · rintro ⟨p, rest, ⟨hname, hread⟩, hrest, rfl⟩
      obtain ⟨hnames, hreads⟩ := ih.mp hrest
      refine ⟨?_, List.forall_mem_cons.mpr ⟨hread, hreads⟩⟩
      rw [List.map_cons, List.map_cons, hname, hnames]
    · rintro ⟨hnames, hreads⟩
      cases all with
      | nil => simp at hnames
      | cons p rest =>
        obtain ⟨hread, hreads⟩ := List.forall_mem_cons.mp hreads
        obtain ⟨hname, hnames⟩ := List.cons.inj hnames
        exact ⟨p, rest, ⟨hname, hread⟩, ih.mpr ⟨hnames, hreads⟩, rfl⟩

theorem readAll_eq_error_iff {e : Error} :
    lib.readAll = .error e ↔ ∃ before entry after,
      lib.document.entries = before ++ entry :: after ∧
        (∀ entry' ∈ before, ∃ records, lib.read entry'.name = .ok records) ∧
        lib.read entry.name = .error e := by
  have hok (name : String) : (∃ p, (lib.read name).map (name, ·) = .ok p) ↔
      ∃ records, lib.read name = .ok records := by
    cases lib.read name with
    | error e => simp [Except.map]
    | ok records => simp [Except.map]
  have herror (name : String) :
      (lib.read name).map (name, ·) = .error e ↔ lib.read name = .error e := by
    cases lib.read name with
    | error e => simp [Except.map]
    | ok records => simp [Except.map]
  rw [readAll_eq, mapM_eq_error_iff]
  simp only [hok, herror]

theorem made_of_nodup {name : String} {sec : Section} (h : lib.section? name = .ok (some sec))
    (hnodup : ((Collector.drain { kept := [] } sec .journal .fresh).1.filterMap (·.id)).Nodup) :
    lib.made name =
      ((Collector.drain { kept := [] } sec .journal .fresh).1,
        (Collector.drain { kept := [] } sec .journal .fresh).2.1.map .element) := by
  obtain ⟨calls, hjournal⟩ :=
    Collector.harvest_of_accepting Keeper.journal_accepting sec { kept := [] }
  rw [Collector.drain_fresh] at hnodup ⊢
  simp only [Collector.course_records, Collector.course_error, hjournal, List.filterMap_map]
    at hnodup ⊢
  obtain ⟨s, hshelf⟩ := Keeper.harvest_shelf_of_nodup hnodup
    (Lexical.read sec (some sec.settings.maxDepth)).fault
  have hharvest : Collector.harvest sec .shelf { kept := {} } = _ := hshelf
  rw [made_of_section h, Collector.course_records, Collector.course_error, hharvest]

theorem section?_eq (lib : Library) {name : String} {entry : Document.Entry}
    (h : lib.document.find? name = some entry) :
    lib.section? name = .ok (entry.records.map fun element =>
      ⟨element, entry.entity, lib.settings, lib.document.source⟩) := by
  simp only [section?, Document.get, h]

/--
Whatever is asked of a library before, every iteration gives one record after the other of those that
reading its entity at once makes, then the error that this ends with if there is one, and nothing
after that or when it has been closed. Reading all entities comes to the records of each one, in the
order in which they are declared, or to the first error. An entity that is not declared makes an
error and one without a records section makes nothing. What the records of other entities have for
ids does not matter.
-/
theorem respond_of_history (lib : Library) (history : List Request) :
    let its := lib.serve [] history
    (∀ before name after, history = before ++ .iterate name :: after →
      let i := before.countP Request.iterates
      (lib.respond its (.take i)).1 = .taken
        (if .close i ∈ after then .ended
        else (answersOf (lib.made name))[after.count (.take i)]?.getD .ended)) ∧
    (∀ name, (lib.respond its (.read name)).1 =
      .records ((lib.made name).2.elim (.ok (lib.made name).1) .error)) ∧
    (∃ result, (lib.respond its .readAll).1 = .all result ∧
      (∀ all, result = .ok all ↔ all.map (·.1) = lib.document.entries.map (·.name) ∧
        ∀ p ∈ all, lib.made p.1 = (p.2, none)) ∧
      ∀ e, result = .error e ↔ ∃ before entry after,
        lib.document.entries = before ++ entry :: after ∧
          (∀ entry' ∈ before, (lib.made entry'.name).2 = none) ∧
          (lib.made entry.name).2 = some e) ∧
    (∀ name, lib.document.find? name = none →
      lib.made name = ([], some (.schema (.undefinedEntity name)))) ∧
    ∀ name entry, lib.document.find? name = some entry →
      (entry.records = none → lib.made name = ([], none)) ∧
      ∀ element, entry.records = some element →
        let sec : Section := ⟨element, entry.entity, lib.settings, lib.document.source⟩
        let whole := Collector.drain { kept := [] } sec .journal .fresh
        (whole.1.filterMap (·.id)).Nodup → lib.made name = (whole.1, whole.2.1.map .element) := by
  intro its
  have hreadOk (name : String) (records : List Record) :
      lib.read name = .ok records ↔ lib.made name = (records, none) := by
    rw [read_eq_made]
    obtain ⟨records', error⟩ := lib.made name
    cases error with
    | none => simp
    | some e => simp
  have hreadError (name : String) (e : Error) :
      lib.read name = .error e ↔ (lib.made name).2 = some e := by
    rw [read_eq_made]
    cases (lib.made name).2 with
    | none => simp
    | some e => simp
  have hread (name : String) :
      (∃ records, lib.read name = .ok records) ↔ (lib.made name).2 = none := by
    rw [read_eq_made]
    cases (lib.made name).2 with
    | none => simp
    | some e => simp
  refine ⟨?_, ?_, ⟨lib.readAll, rfl, ?_, ?_⟩, ?_, ?_⟩
  · intro before name after hhistory i
    have hits : its = lib.serve (lib.serve [] before ++ [.fresh name]) after := by
      simp only [its, hhistory, serve_append]
      rfl
    have hlength : (lib.serve [] before).length = i := by
      rw [length_serve, List.length_nil, Nat.zero_add]
    have hfresh : (lib.serve [] before ++ [Iteration.fresh name])[i]? = some (.fresh name) := by
      rw [← hlength, List.getElem?_concat_length]
    have hi : iteration its i = if .close i ∈ after then .over else
        (Iteration.fresh name).after lib (after.count (.take i)) := by
      rw [iteration, hits, getElem?_serve hfresh lib after, Option.getD_some]
    simp only [respond, hi]
    split
    · rfl
    · rw [next_after_fresh]
  · intro name
    simp only [respond, read_eq_made]
  · intro all
    simp only [readAll_eq_ok_iff, hreadOk]
  · intro e
    simp only [readAll_eq_error_iff, hreadError, hread]
  · intro name hfind
    simp only [made, section?, Document.get, hfind]
  · intro name entry hfind
    refine ⟨?_, ?_⟩
    · intro hnone
      simp only [made, section?_eq lib hfind, hnone, Option.map_none]
    · intro element helement sec whole hnodup
      apply made_of_nodup _ hnodup
      rw [section?_eq lib hfind, helement]
      rfl

theorem respond_of_history_twins :
    let lib : Library := {
      document := {
        entries := [{ entity := Section.twins.entity, records := some Section.twins.element }]
      }
    }
    let asked : List Request := [.take 0, .iterate "", .readAll, .take 1, .take 0, .take 0]
    ∃ e, (lib.respond (lib.serve [] ([] ++ .iterate "" :: asked)) (.take 0)).1 =
        .taken (.failed (.element e)) ∧
      e.problem = .repeatedId "" := by
  intro lib asked
  obtain ⟨htakes, -⟩ := respond_of_history lib ([] ++ .iterate "" :: asked)
  have hanswer : ∃ e, (answersOf (lib.made ""))[3]? = some (.failed (.element e)) ∧
      e.problem = .repeatedId "" := by
    with_unfolding_all exact ⟨_, rfl, rfl⟩
  obtain ⟨e, he, hproblem⟩ := hanswer
  have htake := htakes [] "" asked rfl
  have hclose : .close 0 ∉ asked := by decide
  have hcount : asked.count (.take 0) = 3 := by decide
  simp only [List.countP_nil, if_neg hclose, hcount, he, Option.getD_some] at htake
  exact ⟨e, htake, hproblem⟩

end Library
end Catalog
