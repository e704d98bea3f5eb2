import Catalog.Collector.Traversal
import Catalog.Proofs.Entity.Visible
import Catalog.Proofs.Translation.Same
/-!
This module contains the proof that an entity with bases reads every section as the entity does that
has no base and declares by itself whatever can be seen on the chain.
-/

namespace Catalog

open Xml (Element)

namespace Collector

variable {σ : Type} {k : Keeper σ} {sec sec' : Section}

section

variable (hstep : ∀ (c : Collector σ) (opened : List (Option OpenScope)) (stop : Stop),
    c.step sec k opened stop = c.step sec' k opened stop)
  (hreport : sec.report = sec'.report)
include hstep hreport

theorem advance_of_step (stops : List Stop) (opened : List (Option OpenScope)) (c : Collector σ) :
    advance sec k stops opened c = advance sec' k stops opened c := by
  induction stops generalizing opened c with
  | nil => rfl
  | cons stop stops ih =>
    unfold advance
    rw [hstep, hreport]
    split
    · apply ih
    · rfl
    · rfl

theorem exhaust_of_step (stops : List Stop) (opened : List (Option OpenScope)) (c : Collector σ) :
    exhaust sec k stops opened c = exhaust sec' k stops opened c := by
  induction stops generalizing opened c with
  | nil => rfl
  | cons stop stops ih =>
    unfold exhaust
    rw [hstep, hreport]
    split
    · apply ih
    · rw [ih]
    · rfl

end

end Collector

namespace Entity

def vars (entity : Entity) : List Variable := Layer.visible (·.name) (·.vars) entity.layers

theorem vars_nodup (entity : Entity) : (entity.vars.map (·.name)).Nodup := by
  exact Layer.visible_nodup Layer.vars_nodup entity.layers

theorem find?_vars (entity : Entity) (name : String) :
    entity.vars.find? (·.name == name) = entity.findVariable? name := by
  exact Layer.find?_visible Layer.vars_nodup entity.layers name

theorem mem_vars_iff {entity : Entity} {v : Variable} :
    v ∈ entity.vars ↔ entity.findVariable? v.name = some v := by
  rw [← find?_vars, find?_name_eq_some_iff entity.vars_nodup]
  simp

theorem find?_properties (entity : Entity) (name : String) :
    entity.properties.find? (·.name == name) = entity.findProperty? name := by
  unfold properties
  rw [visibleProperties_eq]
  exact Layer.find?_visible Layer.properties_nodup entity.layers name

structure SeesAlike (entity flat : Entity) : Prop where
  properties : flat.properties = entity.properties
  findProperty? : flat.findProperty? = entity.findProperty?
  findVariable? : flat.findVariable? = entity.findVariable?

theorem find?_eq_of_perm {vars vars' : List Variable} (h : vars.Perm vars')
    (hnodup : (vars'.map (·.name)).Nodup) (name : String) :
    vars.find? (·.name == name) = vars'.find? (·.name == name) := by
  have hnodup' : (vars.map (·.name)).Nodup := (h.map _).nodup_iff.mpr hnodup
  apply Option.ext
  intro v
  rw [find?_name_eq_some_iff hnodup, find?_name_eq_some_iff hnodup', h.mem_iff]

theorem declare_of_nodup (name : String) {properties : List Property} {vars : List Variable}
    (hproperties : (properties.map (·.name)).Nodup) (hvars : (vars.map (·.name)).Nodup)
    (base : Option Entity) :
    declare name properties vars base =
      .ok ⟨⟨name, properties, vars, hproperties, hvars⟩, (base.map layers).getD []⟩ := by
  dsimp only [declare]
  split
  · next n hn =>
    rw [firstRepeated?_eq_none_iff.mpr hproperties] at hn
    simp at hn
  · split
    · next n hn =>
      rw [firstRepeated?_eq_none_iff.mpr hvars] at hn
      simp at hn
    · rfl

theorem exists_flat (entity : Entity) {vars : List Variable} (h : vars.Perm entity.vars) :
    ∃ flat, declare entity.name entity.properties vars none = .ok flat ∧
      entity.SeesAlike flat := by
  have hproperties := entity.properties_nodup
  have hvars : (vars.map (·.name)).Nodup := (h.map _).nodup_iff.mpr entity.vars_nodup
  refine ⟨_, declare_of_nodup entity.name hproperties hvars none, ?_⟩
  constructor
  · rfl
  · funext name
    rw [← find?_properties, ← find?_properties]
    rfl
  · funext name
    rw [← find?_vars, ← find?_vars]
    exact find?_eq_of_perm h entity.vars_nodup name

theorem SeesAlike.make {entity flat : Entity} (h : entity.SeesAlike flat) :
    flat.make = entity.make := by
  funext id commands
  unfold Entity.make fill seed propertiesWithDefault
  rw [h.properties]

end Entity

namespace Collector

variable {σ : Type} {entity flat : Entity}

theorem step_flat (h : entity.SeesAlike flat) (sec : Section) (k : Keeper σ)
    (c : Collector σ) (opened : List (Option OpenScope)) (stop : Stop) :
    c.step { sec with entity := flat } k opened stop =
      c.step { sec with entity } k opened stop := by
  have henv (vars : Scope.Stack Variable) :
      (Section.environment { sec with entity := flat } vars).TransfersFaults id
        (Section.environment { sec with entity } vars) := by
    apply Environment.transfersFaults_of_eq
    · exact h.findProperty?.symm
    · rfl
    · funext name
      simp only [Section.environment, Scope.Stack.lookup, Scope.Stack.findVariable?,
        h.findVariable?]
  cases stop with
  | record e =>
    have hbuild : c.build { sec with entity := flat } k e = c.build { sec with entity } k e := by
      unfold build
      simp only [(henv _).ofAttributes_eq, (henv _).ofChildren_eq, h.make]
    unfold step
    simp only [hbuild]
  | enter kind e =>
    match kind with
    | .command =>
      unfold step
      simp only [(henv _).scopeEntry_eq]
    | .variable =>
      unfold step
      simp only [(henv _).ofVariableElement_eq]
  | reach first level => rfl
  | leave => rfl
  | unknown e => rfl

end Collector

def Entity.heir : Entity where
  -- The nearer base declares a list of the other one again, as a single text.
  own := {
    name := "Heir"
    properties := [{ name := "Heading" }]
    vars := []
    vars_nodup := List.nodup_nil
  }
  bases := [
    { properties := [{ name := "Writers" }]
      vars := [⟨"Press", "near"⟩] },
    { properties := [
        { name := "Shape", default := some "t" },
        { name := "Writers", default := some "a", collection := true }]
      vars := [⟨"Press", "far"⟩, ⟨"Place", "here"⟩] }]

def Section.inherited : Section where
  element := ⟨{ written := ⟨none, "records"⟩ }, [
    .element {
      written := ⟨none, "new"⟩
      attributes := [
        { written := ⟨none, "Writers"⟩, value := "$(Press)" },
        { written := ⟨none, "Heading"⟩, value := "$(Place)" }]
    } []]⟩
  entity := Entity.heir
  settings := default

namespace Entity

/--
An entity with bases can be replaced by one without. It has the same name and declares what can be
seen on the chain: all properties, and each variable as it is declared nearest. No two of them have
one name, and every section is read the same way, to the same records or to the same error.
-/
theorem flat_reads_alike (entity : Entity) {vars : List Variable} (h : vars.Perm entity.vars) :
    (∀ v, v ∈ vars ↔ entity.findVariable? v.name = some v) ∧
      ∃ flat, declare entity.name entity.properties vars none = .ok flat ∧
        ∀ (element : Element) (settings : Settings) (document : Option String),
          let sec : Section := { element, entity, settings, document }
          let flatSec : Section := { element, entity := flat, settings, document }
          (∀ c : Collector Shelf, c.readRecords flatSec = c.readRecords sec) ∧
          ∀ (σ : Type) (k : Keeper σ) (c : Collector σ) (t : Traversal),
            c.next flatSec k t = c.next sec k t ∧ c.drain flatSec k t = c.drain sec k t := by
  refine ⟨?_, ?_⟩
  · intro v
    rw [h.mem_iff, mem_vars_iff]
  · obtain ⟨flat, hdeclare, halike⟩ := exists_flat entity h
    refine ⟨flat, hdeclare, ?_⟩
    intro element settings document sec flatSec
    have hstep {σ : Type} (k : Keeper σ) (c : Collector σ) (opened : List (Option OpenScope))
        (stop : Stop) : c.step flatSec k opened stop = c.step sec k opened stop :=
      Collector.step_flat halike sec k c opened stop
    have hdrain {σ : Type} (k : Keeper σ) (c : Collector σ) (t : Traversal) :
        c.drain flatSec k t = c.drain sec k t := by
      match t with
      | .fresh => apply Collector.exhaust_of_step (hstep k) rfl
      | .paused stops opened => apply Collector.exhaust_of_step (hstep k) rfl
      | .over => rfl
    refine ⟨?_, ?_⟩
    · intro c
      unfold Collector.readRecords
      rw [hdrain]
    · intro σ k c t
      refine ⟨?_, hdrain k c t⟩
      match t with
      | .fresh => apply Collector.advance_of_step (hstep k) rfl
      | .paused stops opened => apply Collector.advance_of_step (hstep k) rfl
      | .over => rfl

theorem flat_reads_alike_heir :
    [Variable.mk "Press" "near", ⟨"Place", "here"⟩].Perm heir.vars ∧
      ∃ flat, declare "Heir" heir.properties [⟨"Press", "near"⟩, ⟨"Place", "here"⟩] none =
          .ok flat ∧
        Section.records { Section.inherited with entity := flat } = .ok [{
          properties := [("Writers", .text "near"), ("Heading", .text "here"), ("Shape", .text "t")]
        }] := by
  have hperm : [Variable.mk "Press" "near", ⟨"Place", "here"⟩].Perm heir.vars := by
    apply List.Perm.swap
  obtain ⟨-, flat, hdeclare, hreads⟩ := flat_reads_alike heir hperm
  refine ⟨hperm, flat, hdeclare, ?_⟩
  have hread := (hreads Section.inherited.element Section.inherited.settings none).1 { kept := {} }
  unfold Section.records
  refine (congrArg Prod.fst hread).trans ?_
  with_unfolding_all rfl

end Entity
end Catalog
