import Catalog.Proofs.Lexical.Frame
import Catalog.Proofs.Rewriting.Site
import Catalog.Proofs.Translation.Names
/-!
This module contains the proof that the attributes of an element with commands can be shared out
among two elements, one in the other, and that an element without commands can be left out.
-/

namespace Catalog

open Xml (Element Attribute Node)

def Xml.Element.SameName (e e' : Element) : Prop := e'.name = e.name

namespace Environment

/--
The element is refused for `f'`. With the later attributes in addition, it is refused for `f`, which
is that a name among these cannot be told.
-/
def Overtaken (env : Environment) (e : Element) (later : List Attribute) (f f' : Fault) : Prop :=
  env.ofCommandElement e = .error f' ∧
    ∃ a ∈ later, ∃ n, Xml.comparable a.name = .error n ∧ f.problem = .malformedName n

theorem ofCommandElement_shared (env : Environment) {w outer inner : Xml.Tag}
    {kind : CommandElement} (hkind : CommandElement.ofName? w.name = some kind) (htag : kind ≠ .tag)
    (houter : outer.name = w.name) (hinner : inner.name = w.name)
    (hattributes : w.attributes = outer.attributes ++ inner.attributes) (X Y : List Node) :
    (∃ cs ds, env.ofCommandElement ⟨w, X⟩ = .ok (cs ++ ds) ∧
      env.ofCommandElement ⟨outer, Y⟩ = .ok cs ∧ env.ofCommandElement ⟨inner, X⟩ = .ok ds) ∨
    ∃ f f', (Fault.Alike Element.SameName f f' ∨ env.Overtaken ⟨outer, Y⟩ inner.attributes f f') ∧
      env.ofCommandElement ⟨w, X⟩ = .error f ∧ (env.ofCommandElement ⟨outer, Y⟩ = .error f' ∨
        ∃ cs, env.ofCommandElement ⟨outer, Y⟩ = .ok cs ∧
          env.ofCommandElement ⟨inner, X⟩ = .error f') := by
  have hflat : env.ofCommandElement ⟨w, X⟩ =
      ((do
        let names ← tell ⟨w, X⟩ outer.attributes
        let more ← tell ⟨w, X⟩ inner.attributes
        return names ++ more) >>= fun _ => do
          let cs ← outer.attributes.mapM (kind.translate env ⟨w, X⟩)
          let ds ← inner.attributes.mapM (kind.translate env ⟨w, X⟩)
          return cs ++ ds) := by
    rw [← tell_append, ← List.mapM_append, ← hattributes]
    exact env.ofCommandElement_eq_translate hkind htag
  have hpart {tag : Xml.Tag} (hname : tag.name = w.name) (ns : List Node) :
      env.ofCommandElement ⟨tag, ns⟩ =
        ((tell ⟨w, X⟩ tag.attributes).mapError (Fault.with ⟨tag, ns⟩) >>= fun _ =>
          (tag.attributes.mapM (kind.translate env ⟨w, X⟩)).mapError (Fault.with ⟨tag, ns⟩)) :=
    env.ofCommandElement_eq_with ⟨w, X⟩ ⟨tag, ns⟩
      ((congrArg CommandElement.ofName? hname).trans hkind) htag
  have halike {f : Fault} {tag : Xml.Tag} (hf : f.element = ⟨w, X⟩) (hname : tag.name = w.name)
      (ns : List Node) : Fault.Alike Element.SameName f (f.with ⟨tag, ns⟩) := by
    refine ⟨rfl, rfl, ?_⟩
    rw [hf]
    exact hname
  unfold Overtaken
  rw [hflat, hpart houter, hpart hinner]
  cases hnames : tell ⟨w, X⟩ outer.attributes with
  | error f =>
    obtain ⟨a, -, n, -, rfl⟩ := exists_of_tell_eq_error hnames
    exact .inr ⟨_, _, .inl (halike rfl houter Y), rfl, .inl rfl⟩
  | ok names =>
    cases hcs : outer.attributes.mapM (kind.translate env ⟨w, X⟩) with
    | error f =>
      -- With all attributes in one element, the names of the later ones are looked at before it.
      cases hmore : tell ⟨w, X⟩ inner.attributes with
      | error g =>
        obtain ⟨a, ha, n, hn, rfl⟩ := exists_of_tell_eq_error hmore
        exact .inr ⟨_, _, .inr ⟨rfl, a, ha, n, hn, rfl⟩, rfl, .inl rfl⟩
      | ok more =>
        have hf := env.element_of_mapM_translate htag hcs
        exact .inr ⟨_, _, .inl (halike hf houter Y), rfl, .inl rfl⟩
    | ok cs =>
      cases hmore : tell ⟨w, X⟩ inner.attributes with
      | error f =>
        obtain ⟨a, -, n, -, rfl⟩ := exists_of_tell_eq_error hmore
        exact .inr ⟨_, _, .inl (halike rfl hinner X), rfl, .inr ⟨cs, rfl, rfl⟩⟩
      | ok more =>
        cases hds : inner.attributes.mapM (kind.translate env ⟨w, X⟩) with
        | error f =>
          have hf := env.element_of_mapM_translate htag hds
          exact .inr ⟨_, _, .inl (halike hf hinner X), rfl, .inr ⟨cs, rfl, rfl⟩⟩
        | ok ds => exact .inl ⟨cs, ds, rfl, rfl, rfl⟩

end Environment

namespace Lexical

variable {sec : Section} {around around' : Surroundings} {children : List Node}

theorem related_of_adds_nil (h : Surroundings.Adds [] around around') (ns : List Node) :
    Reading.Related (Visit.Alike Eq) (Fault.Alike Element.SameName) (unlimited sec around ns)
      (unlimited sec around' ns) := by
  have hrelated : Reading.Related (Visit.Alike Eq) Eq (unlimited sec around ns)
      (unlimited sec around' ns) := by
    apply related_of_adds_all
    · intro _ _ e h
      exact h.ofRecord_of_nil e
    · exact h
  apply hrelated.imp
  · intro v v' hv
    exact hv
  · rintro f _ rfl
    exact ⟨rfl, rfl, rfl⟩

theorem related_shared {w outer inner : Xml.Tag} (hw : ElementKind.ofName w.name = .command)
    (htag : w.name ≠ "tag") (houter : outer.name = w.name) (hinner : inner.name = w.name)
    (hattributes : w.attributes = outer.attributes ++ inner.attributes)
    (hchildren : children.filterMap Node.element? ≠ []) :
    Reading.Related (Visit.Alike Eq)
      (fun f f' => Fault.Alike Element.SameName f f' ∨
        (around.environment sec).Overtaken ⟨outer, [.element inner children]⟩ inner.attributes f f')
      (unlimited sec around [.element w children])
      (unlimited sec around [.element outer [.element inner children]]) := by
  have hcommand {tag : Xml.Tag} (hname : tag.name = w.name) :
      ElementKind.ofName tag.name = .command := by rwa [hname]
  have hsome (tag : Xml.Tag) : ¬ (Element.mk tag children).elements.isEmpty := by
    rwa [List.isEmpty_iff]
  have hsomeOuter : ¬ (Element.mk outer [.element inner children]).elements.isEmpty := by
    simp [Element.elements, Node.element?]
  obtain ⟨kind, hkind⟩ := Option.isSome_iff_exists.mp (ElementKind.isSome_of_ofName_eq_command hw)
  have hkindTag : kind ≠ .tag := by
    rintro rfl
    have hfound := List.find?_some hkind
    rw [beq_iff_eq] at hfound
    exact htag hfound.symm
  -- None of the elements binds a variable, so that all of them look up values in one environment.
  have henvironment (cs : List Command) :
      (around.inherit cs).environment sec = around.environment sec := rfl
  obtain ⟨cs, ds, hflat, hfirst, hsecond⟩ | ⟨f, f', hshared, hflat, hnested⟩ :=
    (around.environment sec).ofCommandElement_shared hkind hkindTag houter hinner hattributes
      children [.element inner children]
  · rw [← henvironment cs] at hsecond
    rw [unlimited_of_enter_ok (.inl hw) (hsome w) (enter_of_commands_ok hw hflat),
      unlimited_of_enter_ok (.inl (hcommand houter)) hsomeOuter
        (enter_of_commands_ok (hcommand houter) hfirst),
      unlimited_of_enter_ok (.inl (hcommand hinner)) (hsome inner)
        (enter_of_commands_ok (hcommand hinner) hsecond)]
    have hadds : Surroundings.Adds [] (around.inherit (cs ++ ds))
        ((around.inherit cs).inherit ds) := by
      constructor
      · refine ⟨around.commands.flatten ++ (cs ++ ds), [], ?_, ?_⟩
        · simp [Surroundings.inherit]
        · simp [Surroundings.inherit]
      · rfl
    apply (related_of_adds_nil hadds children).imp
    · intro v v' hv
      exact hv
    · intro f f' hf
      exact .inl hf
  · rw [unlimited_of_enter_error (.inl hw) (hsome w) (enter_of_commands_error hw hflat)]
    obtain hfirst | ⟨cs, hfirst, hsecond⟩ := hnested
    · rw [unlimited_of_enter_error (.inl (hcommand houter)) hsomeOuter
        (enter_of_commands_error (hcommand houter) hfirst)]
      exact .of_fault hshared
    · rw [← henvironment cs] at hsecond
      rw [unlimited_of_enter_ok (.inl (hcommand houter)) hsomeOuter
          (enter_of_commands_ok (hcommand houter) hfirst),
        unlimited_of_enter_error (.inl (hcommand hinner)) (hsome inner)
          (enter_of_commands_error (hcommand hinner) hsecond)]
      exact .of_fault hshared

theorem related_without_commands {u : Xml.Tag} (hu : ElementKind.ofName u.name = .command)
    (hcommands : (around.environment sec).ofCommandElement ⟨u, children⟩ = .ok [])
    (hchildren : children.filterMap Node.element? ≠ []) :
    Reading.Related (Visit.Alike Eq) (Fault.Alike Element.SameName) (unlimited sec around children)
      (unlimited sec around [.element u children]) := by
  rw [unlimited_of_enter_ok (.inl hu) (by rwa [List.isEmpty_iff])
    (enter_of_commands_ok hu hcommands)]
  apply related_of_adds_nil
  exact Surroundings.adds_inherit [] around

end Lexical

def StructureError.withoutLine (e : StructureError) : StructureError :=
  { e with place := e.place.map fun place => { place with line := none, snippet := none } }

theorem Section.report_sameName (sec : Section) {f f' : Fault}
    (h : Fault.Alike Element.SameName f f') :
    (sec.report f').withoutLine = (sec.report f).withoutLine := by
  obtain ⟨n, hf, hf'⟩ | ⟨name, hf, hf'⟩ := sec.report_of_same sec h.problem h.element
  · rw [hf, hf']
  · rw [hf, hf']
    simp only [StructureError.withoutLine, told, Option.map_some, h.problem, h.attributeName]

namespace Collector

theorem readRecords_put_of_related {sec : Section} {site : Site} {ns ns' : List Node}
    {F : Fault → Fault → Prop} (hF : ∀ f f', Fault.Alike Element.SameName f f' → F f f')
    (hwalked : site.Walked) (hns : ns.filterMap Node.element? ≠ [])
    (hns' : ns'.filterMap Node.element? ≠ [])
    (hrelated : ∀ around, site.surroundings sec {} = .ok around →
      Reading.Related (Visit.Alike Eq) F (Lexical.unlimited sec around ns)
        (Lexical.unlimited sec around ns'))
    (hfits : (sec.put site ns).Fits) (hfits' : (sec.put site ns').Fits) (c c' : Collector Shelf) :
    let read := c.readRecords (sec.put site ns)
    let read' := c'.readRecords (sec.put site ns')
    read'.2.kept.records = read.2.kept.records ∧
      ∃ fault fault', Option.Rel F fault fault' ∧
        read.1 = (fault.map sec.report).elim (.ok read.2.kept.records) .error ∧
        read'.1 = (fault'.map sec.report).elim (.ok read.2.kept.records) .error := by
  apply readRecords_of_related (R := Eq)
  · rw [Section.reading_put, Section.reading_put]
    apply Site.related_fill
    · intro v
      exact ⟨rfl, rfl⟩
    · intro f
      exact hF f f ⟨rfl, rfl, rfl⟩
    · intro f tag ns ns'
      exact hF _ _ ⟨rfl, rfl, rfl⟩
    · exact hwalked
    · exact hns
    · exact hns'
    · exact hrelated
  · rintro problem e _ rfl
    exact hF _ _ ⟨rfl, rfl, rfl⟩
  · exact hfits
  · exact hfits'

/--
At a place that a walk comes to, two elements, one in the other, that share the attributes of an
element with commands can stand for it: the same records are read in front of the same error, if
there is one. There is one exception. Where the attributes of the outer one are refused, and a name
among those of the inner one cannot be told, the error of the one element is about this name. An
element without commands can be left out.
-/
theorem readRecords_regrouped {sec : Section} {site : Site} {children : List Node}
    (hwalked : site.Walked) (hchildren : children.filterMap Node.element? ≠ []) :
    (∀ w outer inner : Xml.Tag, ElementKind.ofName w.name = .command → w.name ≠ "tag" →
      outer.name = w.name → inner.name = w.name →
      w.attributes = outer.attributes ++ inner.attributes →
      let flat := sec.put site [.element w children]
      let nested := sec.put site [.element outer [.element inner children]]
      flat.Fits → nested.Fits → ∀ c c' : Collector Shelf,
        (c'.readRecords nested).2.kept.records = (c.readRecords flat).2.kept.records ∧
          ((c'.readRecords nested).1.mapError StructureError.withoutLine =
              (c.readRecords flat).1.mapError StructureError.withoutLine ∨
            ∃ around f, site.surroundings sec {} = .ok around ∧
              (around.environment sec).ofCommandElement ⟨outer, [.element inner children]⟩ =
                .error f ∧
              (c'.readRecords nested).1 = .error (sec.report f) ∧
              ∃ a ∈ inner.attributes, ∃ n, Xml.comparable a.name = .error n ∧
                (c.readRecords flat).1 =
                  .error { problem := .malformedName n, level := sec.settings.level })) ∧
    ∀ u : Xml.Tag, ElementKind.ofName u.name = .command →
      (∀ around, site.surroundings sec {} = .ok around →
        (around.environment sec).ofCommandElement ⟨u, children⟩ = .ok []) →
      let bare := sec.put site children
      let wrapped := sec.put site [.element u children]
      bare.Fits → wrapped.Fits → ∀ c c' : Collector Shelf,
        (c'.readRecords wrapped).2.kept.records = (c.readRecords bare).2.kept.records ∧
          (c'.readRecords wrapped).1.mapError StructureError.withoutLine =
            (c.readRecords bare).1.mapError StructureError.withoutLine := by
  have hsome (tag : Xml.Tag) (ns : List Node) :
      [Node.element tag ns].filterMap Node.element? ≠ [] := by
    simp [Node.element?]
  constructor
  · intro w outer inner hw htag houter hinner hattributes flat nested hflat hnested c c'
    let e : Element := ⟨outer, [.element inner children]⟩
    let F (f f' : Fault) : Prop := Fault.Alike Element.SameName f f' ∨
      ∃ around, site.surroundings sec {} = .ok around ∧
        (around.environment sec).Overtaken e inner.attributes f f'
    have hrelated (around : Surroundings) (haround : site.surroundings sec {} = .ok around) :
        Reading.Related (Visit.Alike Eq) F (Lexical.unlimited sec around [.element w children])
          (Lexical.unlimited sec around [.element outer [.element inner children]]) := by
      apply (Lexical.related_shared hw htag houter hinner hattributes hchildren).imp
      · intro v v' hv
        exact hv
      · intro f f' hf
        exact hf.imp id fun hovertaken => ⟨around, haround, hovertaken⟩
    obtain ⟨hkept, fault, fault', hfault, hends, hends'⟩ :=
      readRecords_put_of_related (fun f f' => .inl) hwalked (hsome w children) (hsome outer _)
        hrelated hflat hnested c c'
    refine ⟨hkept, ?_⟩
    rw [hends, hends']
    cases hfault with
    | none => exact .inl rfl
    | some h =>
      obtain halike | ⟨around, haround, hrefused, a, ha, n, hn, hproblem⟩ := h
      · exact .inl (congrArg Except.error (sec.report_sameName halike))
      · exact .inr ⟨around, _, haround, hrefused, rfl, a, ha, n, hn,
          congrArg Except.error (sec.report_malformedName hproblem)⟩
  · intro u hu hcommands bare wrapped hbare hwrapped c c'
    have hrelated (around : Surroundings) (haround : site.surroundings sec {} = .ok around) :=
      Lexical.related_without_commands hu (hcommands around haround) hchildren
    obtain ⟨hkept, fault, fault', hfault, hends, hends'⟩ :=
      readRecords_put_of_related (fun f f' h => h) hwalked hchildren (hsome u children) hrelated
        hbare hwrapped c c'
    refine ⟨hkept, ?_⟩
    rw [hends, hends']
    cases hfault with
    | none => rfl
    | some halike => exact congrArg Except.error (sec.report_sameName halike)

theorem readRecords_regrouped_between :
    let title : Attribute := { written := ⟨none, "Title"⟩, value := "y" }
    let tag : Attribute := { written := ⟨none, "tag"⟩, value := "t" }
    let setting (attributes : List Attribute) : Xml.Tag := { written := ⟨none, "set"⟩, attributes }
    let sec (ns : List Node) := Section.titled.put .between ns
    let read (ns : List Node) := Collector.readRecords { kept := {} } (sec ns)
    let flat := [.element (setting [title, tag]) [.new "2"]]
    let nested := [.element (setting [title]) [.element (setting [tag]) [.new "2"]]]
    let wrapped := [.element { written := ⟨none, "tag"⟩ } [.new "2"]]
    let record (id title : String) (tags : List String) : Record :=
      { id := some id, properties := [("Title", .text title)], tags }
    (sec flat).records = .ok [record "1" "x" [], record "2" "y" ["t"], record "3" "x" []] ∧
      (read nested).2.kept.records = (read flat).2.kept.records ∧
      (sec [.new "2"]).records = .ok [record "1" "x" [], record "2" "x" [], record "3" "x" []] ∧
      (read wrapped).2.kept.records = (read [.new "2"]).2.kept.records := by
  intro title tag setting sec read flat nested wrapped record
  have hflat : (sec flat).records =
      .ok [record "1" "x" [], record "2" "y" ["t"], record "3" "x" []] := by
    cbv
  have hnested : (sec nested).records =
      .ok [record "1" "x" [], record "2" "y" ["t"], record "3" "x" []] := by
    cbv
  have hbare : (sec [.new "2"]).records =
      .ok [record "1" "x" [], record "2" "x" [], record "3" "x" []] := by
    cbv
  have hwrapped : (sec wrapped).records =
      .ok [record "1" "x" [], record "2" "x" [], record "3" "x" []] := by
    cbv
  have hfits {ns : List Node} {rs : List Record} (h : (sec ns).records = .ok rs) :
      (sec ns).Fits := fits_of_readRecords h
  have hwalked : Site.between.Walked := ⟨.inl rfl, trivial⟩
  obtain ⟨hshared, hwithout⟩ :=
    @readRecords_regrouped .titled .between [.new "2"] hwalked (by simp [Node.new, Node.element?])
  obtain ⟨hkept, -⟩ := hshared (setting [title, tag]) (setting [title]) (setting [tag]) rfl
    (by decide) rfl rfl rfl (hfits hflat) (hfits hnested) { kept := {} } { kept := {} }
  obtain ⟨hkept', -⟩ := hwithout { written := ⟨none, "tag"⟩ } rfl (fun around _ => rfl)
    (hfits hbare) (hfits hwrapped) { kept := {} } { kept := {} }
  exact ⟨hflat, hkept, hbare, hkept'⟩

theorem readRecords_regrouped_unqualified :
    let property : Attribute := { written := ⟨none, "Nope"⟩, value := "1" }
    let qualified : Attribute := { written := ⟨some "x", "y"⟩, value := "2", name := "x:y" }
    let setting (attributes : List Attribute) : Xml.Tag := {
      written := ⟨none, "set"⟩
      attributes
    }
    let flat := Section.titled.put (.here [] [])
      [.element (setting [property, qualified]) [.new "1"]]
    let nested := Section.titled.put (.here [] [])
      [.element (setting [property]) [.element (setting [qualified]) [.new "1"]]]
    flat.Fits ∧ nested.Fits ∧
      flat.records.mapError (·.problem) = .error (.malformedName ⟨"x:y"⟩) ∧
      nested.records.mapError (·.problem) = .error (.undefinedProperty "Nope") := by
  intro property qualified setting flat nested
  have hfits {sec : Section} {problem : Problem}
      (h : sec.records.mapError (·.problem) = .error problem)
      (hproblem : problem ≠ .tooDeep sec.settings.maxDepth) : sec.Fits := by
    intro e he
    rw [he] at h
    obtain rfl : e.problem = problem := Except.error.inj h
    exact hproblem
  have hflat : flat.records.mapError (·.problem) = .error (.malformedName ⟨"x:y"⟩) := by
    have hfault : (harvest flat .shelf { kept := {} }).fault =
        some (.ofName ⟨setting [property, qualified], [.new "1"]⟩ ⟨"x:y"⟩) := by
      cbv
    rw [Section.records, readRecords_of_fault hfault, flat.report_malformedName rfl]
    rfl
  have hnested : nested.records.mapError (·.problem) = .error (.undefinedProperty "Nope") := by
    let e : Element := ⟨setting [property], [.element (setting [qualified]) [.new "1"]]⟩
    have hname : e.comparableName = .ok "set" := CommandElement.comparable_name .set
    have hfault : (harvest nested .shelf { kept := {} }).fault =
        some ⟨.undefinedProperty "Nope", e, some "Nope"⟩ := by
      cbv
    rw [Section.records, readRecords_of_fault hfault,
      nested.report_of_comparable ⟨_, e, _⟩ (by simp) hname]
    rfl
  exact ⟨hfits hflat (by simp), hfits hnested (by simp), hflat, hnested⟩

end Collector
end Catalog
