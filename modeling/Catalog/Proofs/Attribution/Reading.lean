import Catalog.Proofs.Attribution.Element
import Catalog.Proofs.Attribution.Walk
import Catalog.Proofs.Traversal.Depth
import Catalog.Proofs.Traversal.Seen
/-!
This module contains what the error of a reader tells of. It is the fault of the first stop that is
not come past, at an element below the one that is read, and all that it tells of that element is so.
-/

namespace Catalog

open Xml (Element)

variable {σ : Type}

def Problem.Structural : Problem → Prop
  | .malformedName _ => False
  | .stated _ => False
  | _ => True

/--
What a fault tells of its element is so: it has an attribute of the name that is told, and a value
that cannot be read is the one of that attribute, or else the text of the element.
-/
structure Fault.Grounded (f : Fault) : Prop where
  attributeName : ∀ name, f.attributeName = some name → name ∈ f.element.attributes.map (·.name)
  value : ∀ err, f.problem = .badValue err →
    f.attributeName.elim (err.value = f.element.content) fun name =>
      ∃ a ∈ f.element.attributes, a.name = name ∧ err.value = a.value
  problem : f.problem.Structural ∨
    ∃ name ∈ f.element.name :: f.element.attributes.map (·.name),
      ∃ n, Xml.comparable name = .error n ∧ f.problem = .malformedName n

theorem Fault.grounded_of_structural {e : Element} {problem : Problem} (h : problem.Structural)
    (hvalue : ∀ err, problem ≠ .badValue err) : Fault.Grounded ⟨problem, e, none⟩ where
  attributeName _ hname := by simp at hname
  value err hproblem := absurd hproblem (hvalue err)
  problem := .inl h

theorem Environment.Refuses.element_eq {env : Environment} {e : Element} {f : Fault}
    (h : env.Refuses e f) : f.element = e := by
  cases h <;> rfl

theorem Environment.Refuses.grounded {env : Environment} {e : Element} {f : Fault}
    (h : env.Refuses e f) : f.Grounded := by
  have hname {a : Xml.Attribute} (ha : a ∈ e.attributes) :
      ∀ name, some a.name = some name → name ∈ e.attributes.map (·.name) := by
    rintro name ⟨⟩
    exact List.mem_map_of_mem ha
  cases h with
  | undefinedAttribute ha _ => exact ⟨hname ha, by simp, .inl trivial⟩
  | undefinedElement _ _ => exact Fault.grounded_of_structural trivial (by simp)
  | notCollection ha _ _ _ => exact ⟨hname ha, by simp, .inl trivial⟩
  | @badAttribute a err ha _ hvalue =>
    refine ⟨hname ha, ?_, .inl trivial⟩
    intro err' herr
    obtain rfl : err = err' := Problem.badValue.inj herr
    exact ⟨a, ha, rfl, value_of_resolve?_eq_error hvalue⟩
  | @badText err _ _ hvalue =>
    refine ⟨by simp, ?_, .inl trivial⟩
    intro err' herr
    obtain rfl : err = err' := Problem.badValue.inj herr
    exact value_of_resolve?_eq_error hvalue
  | undefinedCommand _ _ => exact Fault.grounded_of_structural trivial (by simp)
  | @malformedName name n hmem hcomparable =>
    exact ⟨by simp [Fault.ofName], by simp [Fault.ofName], .inr ⟨name, hmem, n, hcomparable, rfl⟩⟩

theorem Section.report_of_grounded (sec : Section) {f : Fault} (h : f.Grounded) :
    (f.problem.Structural ∧ sec.report f = {
      problem := f.problem
      place := some {
        elementName := some f.element.name
        attributeName := f.attributeName
        line := some f.element.tag.line
        document := sec.document
        snippet := some (Place.snippetOf f.element)
      }
      level := sec.settings.level
    }) ∨
    ∃ name ∈ f.element.name :: f.element.attributes.map (·.name),
      ∃ n, Xml.comparable name = .error n ∧
        sec.report f = { problem := .malformedName n, level := sec.settings.level } := by
  obtain hstructural | ⟨name, hmem, n, hname, hproblem⟩ := h.problem
  · have hproblem : ∀ n, f.problem ≠ .malformedName n := by
      intro n hn
      simp [Problem.Structural, hn] at hstructural
    cases hname : f.element.comparableName with
    | error n =>
      exact .inr ⟨f.element.name, List.mem_cons_self, n, hname,
        sec.report_of_malformed f hproblem hname⟩
    | ok name =>
      obtain rfl : f.element.name = name := Xml.eq_of_comparable hname
      exact .inl ⟨hstructural, sec.report_of_comparable f hproblem hname⟩
  · exact .inr ⟨name, hmem, n, hname, sec.report_malformedName hproblem⟩

theorem Stop.Shallow.level_eq {m level : Nat} {stops before after : List Stop} {first : Element}
    {news : List (Element × Nat)} (h : Shallow m stops news)
    (hstops : stops = before ++ .reach first level :: after)
    (hbefore : ∀ first level, .reach first level ∈ before → level ≤ m) (hlevel : m < level) :
    level = m + 1 := by
  induction h generalizing before with
  | nil => simp at hstops
  | @cons stop stops own news _ _ hreach _ ih =>
    cases before with
    | nil =>
      have := hreach first level (List.cons.inj hstops).1
      omega
    | cons stop' before =>
      apply ih (List.cons.inj hstops).2
      intro first' level' hmem
      exact hbefore first' level' (List.mem_cons_of_mem stop' hmem)
  | @deep first' stops news _ =>
    -- All stops in front of the one that is too deep are shallow, so it is the first of all.
    cases before with
    | nil => exact (Stop.reach.inj (List.cons.inj hstops).1).2.symm
    | cons stop' before =>
      have hmem : .reach first' (m + 1) ∈ stop' :: before := by
        rw [(List.cons.inj hstops).1]
        exact List.mem_cons_self
      have := hbefore first' (m + 1) hmem
      omega

namespace Collector

/--
The scopes that are open behind the stops and the collector there, if no stop is failed at.
-/
def past? (sec : Section) (k : Keeper σ) :
    List Stop → List (Option OpenScope) → Collector σ → Option (List (Option OpenScope) × Collector σ)
  | [], opened, c => some (opened, c)
  | stop :: stops, opened, c =>
    match c.step sec k opened stop with
    | .moved c opened => past? sec k stops opened c
    | .yielded _ c => past? sec k stops opened c
    | .failed _ _ => none

/--
The faults that a reader can end with at a stop.
-/
inductive Fails (sec : Section) (c : Collector Shelf) : Stop → Fault → Prop where
  | unknown {e : Element} (hname : ElementKind.ofName e.name = .unknown) :
    Fails sec c (.unknown e) ⟨.unknownElement e.name, e, none⟩
  | tooDeep {first : Element} : Fails sec c (.reach first (sec.settings.maxDepth + 1))
      ⟨.tooDeep sec.settings.maxDepth, first, none⟩
  | missing {e : Element} {name : String} (hname : e.name = "variable")
    (h : name ∉ e.attributes.map (·.name)) :
    Fails sec c (.enter .variable e) ⟨.missingAttribute name, e, none⟩
  | repeated {e : Element} {id : String} {commands : List Command} (hname : e.name = "new")
    (hid : (sec.environment c.present.vars).ofAttributes e = .ok (some id, commands))
    (h : id ∈ c.kept.ids) :
    Fails sec c (.record e) ⟨.repeatedId id, e, none⟩
  | opening {kind : ScopeKind} {e : Element} {f : Fault}
    (h : (sec.environment c.present.vars).Refuses e f) : Fails sec c (.enter kind e) f
  | making {e e' : Element} {f : Fault} (he : e' = e ∨ e' ∈ e.elements)
    (h : (sec.environment c.present.vars).Refuses e' f) : Fails sec c (.record e) f

section

variable {sec : Section} {c c' : Collector Shelf} {opened opened' : List (Option OpenScope)}
  {stop : Stop} {f : Fault}

theorem fails_of_build {e : Element} (hname : e.name = "new") (hsound : c.kept.Sound)
    (h : c.build sec .shelf e = (.error f, c')) : c.Fails sec (.record e) f := by
  unfold build at h
  simp only at h
  split at h
  · next f' hattributes =>
    obtain rfl : f' = f := Except.error.inj (Prod.mk.inj h).1
    exact .making (.inl rfl) (Environment.refuses_of_ofAttributes hattributes)
  · next id own hattributes =>
    split at h
    · next f' hchildren =>
      obtain rfl : f' = f := Except.error.inj (Prod.mk.inj h).1
      obtain ⟨child, hchild, hrefuses⟩ := Environment.exists_refuses_of_ofChildren hchildren
      exact .making (.inr hchild) hrefuses
    · next children _ =>
      split at h
      · next problem hadd =>
        obtain rfl := Except.error.inj (Prod.mk.inj h).1
        obtain ⟨id', hid, hseen, rfl⟩ := Shelf.add_eq_error_iff.mp hadd
        rw [Entity.make_id] at hid
        rw [hid] at hattributes
        exact .repeated hname hattributes ((hsound.mem_seen id').mp hseen)
      · simp at h

theorem fails_of_step (hplaced : stop.Placed sec.element)
    (hlevel : ∀ first level, stop = .reach first level → sec.settings.maxDepth < level →
      level = sec.settings.maxDepth + 1)
    (hsound : c.kept.Sound) (h : c.step sec .shelf opened stop = .failed f c') :
    c.Fails sec stop f := by
  cases hplaced with
  | record _ hname =>
    simp only [step] at h
    split at h
    · simp at h
    · next hbuild =>
      obtain ⟨rfl, rfl⟩ := Outcome.failed.inj h
      exact fails_of_build hname hsound hbuild
  | @command e _ hname =>
    simp only [step] at h
    split at h
    · simp at h
    · simp at h
    · next f' hentry =>
      obtain ⟨rfl, -⟩ := Outcome.failed.inj h
      exact .opening (Environment.refuses_of_scopeEntry hname hentry)
  | @binding e _ hname =>
    simp only [step] at h
    split at h
    · simp at h
    · next f' hv =>
      obtain ⟨rfl, -⟩ := Outcome.failed.inj h
      obtain hrefuses | ⟨name, hmissing, rfl⟩ :=
        Environment.refusesVariable_of_ofVariableElement hv
      · exact .opening hrefuses
      · exact .missing hname hmissing
  | @reach first path _ =>
    simp only [step] at h
    split at h
    · simp at h
    · next hdeep =>
      obtain ⟨rfl, -⟩ := Outcome.failed.inj h
      rw [hlevel first _ rfl (Nat.lt_of_not_le hdeep)]
      exact .tooDeep
  | leave =>
    simp only [step] at h
    split at h
    · simp at h
    · simp at h
    · simp at h
  | unknown _ hname =>
    obtain ⟨rfl, -⟩ := Outcome.failed.inj h
    exact .unknown hname

theorem Fails.grounded (h : c.Fails sec stop f) : f.Grounded := by
  cases h with
  | unknown _ => exact Fault.grounded_of_structural trivial (by simp)
  | tooDeep => exact Fault.grounded_of_structural trivial (by simp)
  | missing _ _ => exact Fault.grounded_of_structural trivial (by simp)
  | repeated _ _ _ => exact Fault.grounded_of_structural trivial (by simp)
  | opening h => exact h.grounded
  | making _ h => exact h.grounded

theorem Fails.substitute_of_badValue (h : c.Fails sec stop f) {err : ValueError}
    (hproblem : f.problem = .badValue err) : sec.settings.substitute = true := by
  cases h with
  | opening h => exact h.substitute_of_badValue hproblem
  | making _ h => exact h.substitute_of_badValue hproblem
  | _ => simp at hproblem

theorem Fails.below (h : c.Fails sec stop f) (hplaced : stop.Placed sec.element) :
    sec.element.Below f.element := by
  cases h with
  | unknown _ =>
    cases hplaced with
    | unknown hbelow _ => exact hbelow
  | tooDeep =>
    generalize hlevel : sec.settings.maxDepth + 1 = level at hplaced
    cases hplaced with
    | reach hfirst => exact Element.below_of_at?_concat hfirst
  | missing _ _ =>
    cases hplaced with
    | binding hbelow _ => exact hbelow
  | repeated _ _ _ =>
    cases hplaced with
    | record hbelow _ => exact hbelow
  | opening hrefuses =>
    rw [hrefuses.element_eq]
    cases hplaced with
    | command hbelow _ => exact hbelow
    | binding hbelow _ => exact hbelow
  | making he hrefuses =>
    rw [hrefuses.element_eq]
    cases hplaced with
    | record hbelow _ =>
      obtain rfl | he := he
      · exact hbelow
      · exact hbelow.elements he

end

section

variable {sec : Section} {k : Keeper σ} {stop : Stop} {stops : List Stop}
  {opened opened' : List (Option OpenScope)} {c c' : Collector σ}

theorem past?_of_moved (h : c.step sec k opened stop = .moved c' opened') :
    past? sec k (stop :: stops) opened c = past? sec k stops opened' c' := by
  simp only [past?, h]

theorem past?_of_yielded {r : Record} (h : c.step sec k opened stop = .yielded r c') :
    past? sec k (stop :: stops) opened c = past? sec k stops opened c' := by
  simp only [past?, h]

theorem past?_of_failed {f : Fault} (h : c.step sec k opened stop = .failed f c') :
    past? sec k (stop :: stops) opened c = none := by
  simp only [past?, h]

theorem level_le_of_past? (h : past? sec k stops opened c = some (opened', c')) :
    ∀ first level, .reach first level ∈ stops → level ≤ sec.settings.maxDepth := by
  induction stops generalizing opened c with
  | nil => simp
  | cons stop stops ih =>
    intro first level hmem
    rw [List.mem_cons] at hmem
    cases hstep : c.step sec k opened stop with
    | moved c₁ opened₁ =>
      rw [past?_of_moved hstep] at h
      obtain rfl | hmem := hmem
      · rw [step] at hstep
        split at hstep
        · next hlevel => exact hlevel
        · simp at hstep
      · exact ih h first level hmem
    | yielded r c₁ =>
      rw [past?_of_yielded hstep] at h
      obtain rfl | hmem := hmem
      · obtain ⟨e, kept, hstop, -⟩ := step_yielded hstep
        simp at hstop
      · exact ih h first level hmem
    | failed f c₁ => simp [past?_of_failed hstep] at h

theorem mem_moments_of_past? (h : past? sec k stops opened c = some (opened', c')) (stop : Stop)
    (after : List Stop) :
    ⟨c', opened'.reduceOption⟩ ∈ moments true sec k (stops ++ stop :: after) opened c := by
  induction stops generalizing opened c with
  | nil =>
    obtain ⟨rfl, rfl⟩ := Prod.mk.inj (Option.some.inj h)
    exact List.mem_cons_self
  | cons stop' stops ih =>
    -- A reading has a moment before each of its stops, also before the one it fails at.
    rw [List.cons_append, moments]
    apply List.mem_cons_of_mem
    cases hstep : c.step sec k opened stop' with
    | moved c₁ opened₁ =>
      rw [past?_of_moved hstep] at h
      exact ih h
    | yielded r c₁ =>
      rw [past?_of_yielded hstep] at h
      exact ih h
    | failed f c₁ => simp [past?_of_failed hstep] at h

theorem exists_failed_stop {error : StructureError}
    (h : (exhaust sec k stops opened c).2.1 = some error) :
    ∃ before stop after opened' c' f c'', stops = before ++ stop :: after ∧
      past? sec k before opened c = some (opened', c') ∧
      c'.step sec k opened' stop = .failed f c'' ∧
      (exhaust sec k stops opened c).2 = (some (sec.report f), c''.finish opened') := by
  induction stops generalizing opened c with
  | nil => simp [exhaust] at h
  | cons stop stops ih =>
    cases hstep : c.step sec k opened stop with
    | moved c₁ opened₁ =>
      rw [exhaust_of_moved hstep] at h ⊢
      obtain ⟨before, stop', after, opened', c', f, c'', rfl, hbefore, hfailed, hend⟩ := ih h
      refine ⟨stop :: before, stop', after, opened', c', f, c'', rfl, ?_, hfailed, hend⟩
      rw [past?_of_moved hstep, hbefore]
    | yielded r c₁ =>
      rw [exhaust_of_yielded hstep] at h ⊢
      obtain ⟨before, stop', after, opened', c', f, c'', rfl, hbefore, hfailed, hend⟩ := ih h
      refine ⟨stop :: before, stop', after, opened', c', f, c'', rfl, ?_, hfailed, hend⟩
      rw [past?_of_yielded hstep, hbefore]
    | failed f c₁ =>
      rw [exhaust_of_failed hstep]
      exact ⟨[], stop, stops, opened, c, f, c₁, rfl, rfl, hstep, rfl⟩

end

theorem readRecords_of_exhaust {sec : Section} {c : Collector Shelf} {error : StructureError}
    (h : (c.readRecords sec).1 = .error error) :
    (exhaust sec .shelf sec.stops [] (c.reset .shelf)).2 = (some error, (c.readRecords sec).2) := by
  simp only [readRecords, drain] at h ⊢
  generalize exhaust sec .shelf sec.stops [] (c.reset .shelf) = whole at h ⊢
  obtain ⟨rs, found, c'⟩ := whole
  cases found with
  | none => simp at h
  | some e =>
    obtain rfl : e = error := Except.error.inj h
    rfl

theorem exists_fails_of_readRecords {sec : Section} {c : Collector Shelf} {error : StructureError}
    (h : (c.readRecords sec).1 = .error error) :
    ∃ before stop after opened c' f, sec.stops = before ++ stop :: after ∧
      past? sec .shelf before [] (c.reset .shelf) = some (opened, c') ∧
      (∀ first level, .reach first level ∈ before → level ≤ sec.settings.maxDepth) ∧
      c'.kept = (c.readRecords sec).2.kept ∧ stop.Placed sec.element ∧ c'.Fails sec stop f ∧
      error = sec.report f := by
  have hexhaust := readRecords_of_exhaust h
  obtain ⟨before, stop, after, opened, c', f, c'', hstops, hpast, hstep, hend⟩ :=
    exists_failed_stop (congrArg Prod.fst hexhaust)
  rw [hexhaust] at hend
  obtain ⟨hreport, hfinal⟩ := Prod.mk.inj hend
  have hlevels := level_le_of_past? hpast
  have hkept : c'.kept = (c.readRecords sec).2.kept := by
    rw [hfinal, kept_finish, Shelf.kept_of_failed hstep]
  have hsound : c'.kept.Sound := by
    -- The shelf was cleared at the beginning and is sound at every moment since.
    have hmoment := mem_moments_of_past? hpast stop after
    exact forall_moments (Shelf.sound_stable sec).steps Shelf.sound_empty true _ hmoment
  have hplaced : stop.Placed sec.element := by
    apply Stop.placed_ofSection
    have hmem : stop ∈ sec.stops := by
      rw [hstops]
      simp
    exact hmem
  have hfails : c'.Fails sec stop f := by
    apply fails_of_step hplaced _ hsound hstep
    rintro first level rfl hlevel
    have hshallow := Stop.shallow_ofSection sec.settings.maxDepth_pos sec.element
    exact hshallow.level_eq hstops hlevels hlevel
  exact ⟨before, stop, after, opened, c', f, hstops, hpast, hlevels, hkept, hplaced, hfails,
    Option.some.inj hreport⟩

end Collector

namespace Session

open Collector (Balanced)

/--
Whatever has been done with a reader before, it ends with an error only at the first stop that it
does not come past, for one of the faults that this stop can have. The fault is at an element below
the one that is read, and the error tells where that is, unless one of the names of that element
cannot be told. Then the error tells only of the name. While records are read, no scope is left whose
stack has nothing to pop.
-/
theorem attribution_of_readRecords (sec : Section) (history : List Move) :
    let s := (fresh {}).run sec .shelf history
    let read := s.collector.readRecords sec
    (∀ error, read.1 = .error error →
      ∃ (before : List Stop) (stop : Stop) (after : List Stop) (opened : List (Option OpenScope))
        (c : Collector Shelf) (f : Fault),
        sec.stops = before ++ stop :: after ∧
        Collector.past? sec .shelf before [] (s.collector.reset .shelf) = some (opened, c) ∧
        (∀ first level, .reach first level ∈ before → level ≤ sec.settings.maxDepth) ∧
        c.kept = read.2.kept ∧ stop.Placed sec.element ∧ c.Fails sec stop f ∧
        sec.element.Below f.element ∧ f.Grounded ∧
        ((f.problem.Structural ∧ error = {
          problem := f.problem
          place := some {
            elementName := some f.element.name
            attributeName := f.attributeName
            line := some f.element.tag.line
            document := sec.document
            snippet := some (Place.snippetOf f.element)
          }
          level := sec.settings.level
        }) ∨
        ∃ name ∈ f.element.name :: f.element.attributes.map (·.name),
          ∃ n, Xml.comparable name = .error n ∧
            error = { problem := .malformedName n, level := sec.settings.level })) ∧
    ((∀ e, sec.element.Below e →
      ∀ name ∈ e.name :: e.attributes.map (·.name), Xml.comparable name = .ok name) →
      ∀ error, read.1 = .error error → error.problem.Structural ∧ error.place.isSome) ∧
    ∀ x ∈ s.moments sec .shelf .read, ∀ o ∈ x.opened,
      ∃ scopes, x.collector.generations[o.generation]? = some scopes ∧
        0 < (scopes.counts o.kind).depth := by
  intro s read
  refine ⟨?_, ?_, ?_⟩
  · intro error herror
    obtain ⟨before, stop, after, opened, c, f, hstops, hpast, hlevels, hkept, hplaced, hfails, rfl⟩ :=
      Collector.exists_fails_of_readRecords herror
    exact ⟨before, stop, after, opened, c, f, hstops, hpast, hlevels, hkept, hplaced, hfails,
      hfails.below hplaced, hfails.grounded, sec.report_of_grounded hfails.grounded⟩
  · intro hnames error herror
    obtain ⟨before, stop, after, opened, c, f, -, -, -, -, hplaced, hfails, rfl⟩ :=
      Collector.exists_fails_of_readRecords herror
    obtain ⟨hstructural, hreport⟩ | ⟨name, hmem, n, hname, -⟩ :=
      sec.report_of_grounded hfails.grounded
    · rw [hreport]
      exact ⟨hstructural, rfl⟩
    · rw [hnames f.element (hfails.below hplaced) name hmem] at hname
      simp at hname
  · intro x hx o ho
    have hbalanced : s.collector.Balanced s.opened :=
      run_balanced (Balanced.fresh ({} : Shelf)) sec .shelf history
    exact (balanced_of_mem_moments hbalanced .read x hx).depth_pos ho

theorem attribution_of_readRecords_titled :
    let sec := Section.titled.limit 1 (by decide)
    (∃ error, (Collector.readRecords { kept := {} } sec).1 = .error error ∧
      error.problem = .tooDeep 1) ∧
    ∃ f : Fault, sec.element.Below f.element ∧ f.Grounded ∧ f.problem = .tooDeep 1 := by
  intro sec
  have hread : (Collector.readRecords { kept := {} } (Section.titled.limit 1 (by decide))).1 =
      .error {
        problem := .tooDeep 1
        place := some { elementName := some "new", line := some 1, snippet := some "<new/>" }
      } := by
    cbv
  refine ⟨⟨_, hread, rfl⟩, ?_⟩
  obtain ⟨hfault, -⟩ := attribution_of_readRecords sec []
  obtain ⟨-, -, -, -, -, f, -, -, -, -, -, -, hbelow, hgrounded, htold⟩ := hfault _ hread
  obtain ⟨-, herror⟩ | ⟨-, -, n, -, herror⟩ := htold
  · exact ⟨f, hbelow, hgrounded, (StructureError.mk.inj herror).1.symm⟩
  · simp at herror

theorem attribution_unqualified :
    (Collector.readRecords { kept := {} } .unqualified).1 =
        .error { problem := .malformedName ⟨"x:new"⟩ } ∧
      ¬ Problem.Structural (.malformedName ⟨"x:new"⟩) := by
  refine ⟨?_, id⟩
  cbv

end Session
end Catalog
