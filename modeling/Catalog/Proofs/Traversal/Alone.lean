import Catalog.Proofs.Traversal.History
/-!
This module contains what a traversal of a session makes while no other one goes on: records of the
lexical reading, in its order, whatever was done in the session before. For this it does not matter
which records the keeper would refuse.
-/

namespace Catalog

variable {σ : Type}

def Keeper.idle : Keeper σ where
  renew := id
  create := fun _ kept => kept
  add := fun _ kept => .ok kept

theorem Keeper.idle_bisimulation : (Keeper.idle : Keeper σ).Bisimulation fun _ _ => True := by
  constructor
  · intro x y
    trivial
  · intro id x y _
    trivial
  · intro r x y _
    exact .inr ⟨x, y, rfl, rfl, trivial⟩

def Move.LeavesAlone (i : Nat) : Move → Prop
  | .add _ => True
  | m => m.Spares i

instance (i : Nat) : (m : Move) → Decidable (m.LeavesAlone i)
  | .add _ => isTrue trivial
  | .start => isTrue trivial
  | .take j => inferInstanceAs (Decidable (j = i))
  | .close j => inferInstanceAs (Decidable (j ≠ i))
  | .read => isFalse id
  | .reset => isFalse id

namespace Collector

section

variable {sec : Section} {k : Keeper σ} {stop : Stop} {stops : List Stop}
  {opened opened' : List (Option OpenScope)} {c c' : Collector σ} {r : Record}

theorem leave_with_kept (c : Collector σ) (o : OpenScope) (kept : σ) :
    leave { c with kept } o = { c.leave o with kept } := by
  by_cases h : o.generation = c.earlier.length
  · simp [leave, generation, h]
  · simp [leave, generation, h]

theorem step_idle_of_moved (h : c.step sec k opened stop = .moved c' opened') (kept : σ) :
    step { c with kept } sec .idle opened stop = .moved { c' with kept } opened' := by
  cases stop with
  | record e => exact absurd h (step_record_ne_moved e)
  | enter kind e =>
    match kind with
    | .command =>
      simp only [step] at h ⊢
      split at h
      · cases h
        rfl
      · cases h
        rfl
      · simp at h
    | .variable =>
      simp only [step] at h ⊢
      split at h
      · cases h
        rfl
      · simp at h
  | reach first level =>
    simp only [step] at h ⊢
    split at h
    · next hlevel =>
      rw [if_pos hlevel]
      cases h
      rfl
    · simp at h
  | leave =>
    cases opened with
    | nil =>
      cases h
      rfl
    | cons o opened =>
      cases o with
      | none =>
        cases h
        rfl
      | some o =>
        cases h
        simp only [step, leave_with_kept]
  | unknown e => simp [step] at h

theorem step_idle_of_yielded (h : c.step sec k opened stop = .yielded r c') (kept : σ) :
    step { c with kept } sec .idle opened stop = .yielded r { c' with kept } := by
  obtain ⟨e, kept', rfl, -, rfl⟩ := step_yielded h
  obtain ⟨commands, -, hmakes, -, -⟩ := build_of_ok (build_of_yielded h)
  obtain ⟨own, children, hown, hchildren, rfl⟩ := hmakes.sources
  simp only [step, build, hown, hchildren, Keeper.idle]
  congr 1
  exact hmakes.record.symm

theorem advance_idle (h : (advance sec k stops opened c).1 = .record r) (kept : σ) :
    advance sec .idle stops opened { c with kept } =
      (.record r, (advance sec k stops opened c).2.1,
        { (advance sec k stops opened c).2.2 with kept }) := by
  induction stops generalizing opened c with
  | nil => simp [advance] at h
  | cons stop stops ih =>
    cases hstep : c.step sec k opened stop with
    | moved c' opened' =>
      simp only [advance, hstep, step_idle_of_moved hstep kept] at h ⊢
      exact ih h
    | yielded r' c' =>
      simp only [advance, hstep, step_idle_of_yielded hstep kept, Take.record.injEq] at h ⊢
      rw [h]
    | failed f c' => simp [advance, hstep] at h

theorem next_idle {t : Traversal} (h : (c.next sec k t).1 = .record r) :
    ∃ kept, c.next sec .idle t =
      (.record r, (c.next sec k t).2.1, { (c.next sec k t).2.2 with kept }) := by
  match t, h with
  | .fresh, h => exact ⟨c.kept, advance_idle h c.kept⟩
  | .paused stops opened, h => exact ⟨c.kept, advance_idle h c.kept⟩
  | .over, h => simp [next] at h

end

theorem isPrefix_of_takeMany {sec : Section} {k : Keeper σ} {kept : σ} {n : Nat} {rs : List Record}
    (h : (takeMany sec k n .fresh { kept }).1 = rs.map .record) :
    rs <+: (Lexical.read sec (some sec.settings.maxDepth)).records := by
  obtain ⟨visits, hprefix, rfl, -⟩ := (taken_of_takeMany h).place
  exact hprefix.map Visit.record

theorem isPrefix_of_drain (sec : Section) (k : Keeper σ) (c : Collector σ) :
    (c.drain sec k .fresh).1 <+: (Lexical.read sec (some sec.settings.maxDepth)).records := by
  rw [drain_fresh, course_records]
  apply List.IsPrefix.map
  apply Reading.harvest_visits_isPrefix

end Collector

namespace Session

variable {sec : Section} {k : Keeper σ} {i : Nat} {s : Session σ} {t : Traversal} {c : Collector σ}

def keeping (s : Session σ) (kept : σ) : Session σ :=
  { s with collector := { s.collector with kept } }

namespace Isolated

theorem keeping (h : Isolated (fun _ _ => True) i s t c) (kept : σ) :
    Isolated (fun _ _ => True) i (s.keeping kept) t c := by
  cases h with
  | waiting hbalanced hi c =>
    have hkeeping : (s.keeping kept).collector.Balanced (s.keeping kept).opened :=
      hbalanced.of_generations_eq rfl
    exact .waiting hkeeping hi c
  | going hc ht hi hothers =>
    have hkeeping : Collector.Alike (fun _ _ => True) _ _ (s.keeping kept).collector c :=
      hc.with_kept trivial s.collector.current c.current
    exact .going hkeeping ht hi hothers

theorem add (h : Isolated (fun _ _ => True) i s t c) (r : Record) :
    Isolated (fun _ _ => True) i (s.move sec k (.add r)) t c := by
  simp only [move]
  split
  · exact h
  · next kept _ => exact h.keeping kept

theorem take_idle (h : Isolated (fun _ _ => True) i s t c) {r : Record}
    (hr : (s.taken sec k i).1 = .record r) :
    (c.next sec .idle t).1 = .record r ∧
      Isolated (fun _ _ => True) i (s.move sec k (.take i)) (c.next sec .idle t).2.1
        (c.next sec .idle t).2.2 := by
  obtain ⟨kept, hidle⟩ := Collector.next_idle hr
  have htaken : s.taken sec .idle i = (.record r, (s.move sec k (.take i)).keeping kept) := by
    unfold taken
    rw [hidle]
    rfl
  obtain ⟨hanswer, hnext⟩ : (s.taken sec .idle i).1 = _ ∧ _ := h.take Keeper.idle_bisimulation
  rw [htaken] at hanswer
  refine ⟨hanswer.symm, ?_⟩
  rw [move, htaken] at hnext
  -- What the session has kept is put back.
  exact hnext.keeping (s.move sec k (.take i)).collector.kept

end Isolated

theorem takeMany_of_isolated (h : Isolated (fun _ _ => True) i s t c) {moves : List Move}
    (hmoves : ∀ m ∈ moves, m.LeavesAlone i) {rs : List Record}
    (hrs : s.hears sec k i moves = rs.map .record) :
    (Collector.takeMany sec .idle rs.length t c).1 = rs.map .record := by
  induction moves generalizing s t c rs with
  | nil =>
    obtain rfl : rs = [] := by simpa [hears] using hrs.symm
    rfl
  | cons m moves ih =>
    have hrest := fun m' hm' => hmoves m' (List.mem_cons_of_mem m hm')
    have hm := hmoves m List.mem_cons_self
    rw [hears] at hrs
    cases m with
    | start => exact ih h.start hrest hrs
    | take j =>
      obtain rfl : j = i := hm
      rw [if_pos rfl] at hrs
      cases rs with
      | nil => simp at hrs
      | cons r rs =>
        obtain ⟨hr, hrs⟩ := List.cons.inj hrs
        obtain ⟨hanswer, hnext⟩ := h.take_idle hr
        rw [List.length_cons, Collector.takeMany, List.map_cons]
        simp only [hanswer, ih hnext hrest hrs]
    | close j => exact ih (h.close hm) hrest hrs
    | read => exact absurd hm id
    | reset => exact absurd hm id
    | add r => exact ih (h.add r) hrest hrs

inductive MakesAlone (sec : Section) (k : Keeper σ) : List Record → Prop where
  | taken (kept : σ) (history : List Move) (i : Nat) (moves : List Move) {rs : List Record}
    (hi : ((fresh kept).run sec k history).traversals[i]? = some .fresh)
    (hmoves : ∀ m ∈ moves, m.LeavesAlone i)
    (h : ((fresh kept).run sec k history).hears sec k i moves = rs.map .record) :
    MakesAlone sec k rs
  | read (kept : σ) (history : List Move) :
    MakesAlone sec k (((fresh kept).run sec k history).collector.drain sec k .fresh).1

theorem MakesAlone.isPrefix {rs : List Record} (h : MakesAlone sec k rs) :
    rs <+: (Lexical.read sec (some sec.settings.maxDepth)).records := by
  cases h with
  | taken kept history i moves hi hmoves h =>
    have hbalanced := run_balanced (fresh_balanced kept) sec k history
    exact Collector.isPrefix_of_takeMany
      (takeMany_of_isolated (.waiting hbalanced hi { kept }) hmoves h)
  | read kept history => apply Collector.isPrefix_of_drain

end Session
end Catalog
