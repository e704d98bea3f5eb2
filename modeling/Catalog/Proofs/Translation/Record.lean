import Catalog.Proofs.Translation.Element
/-!
This module contains how the commands of a record come from the elements in its element, and that
nothing is done to the record for any of these elements as long as one of them is refused.
-/

namespace Catalog

open Xml (Element Attribute)

namespace Environment

structure TranslatesChildren (env : Environment) (e : Element) : Prop where
  commands : ∀ cs, env.ofChildren e = .ok cs ↔ ∃ css,
    List.Forall₂ (fun child own => env.ofChild child = .ok own) e.elements css ∧ css.flatten = cs
  fails : ∀ f, env.ofChildren e = .error f ↔ ∃ before child after,
    e.elements = before ++ child :: after ∧
      (∀ b ∈ before, ∃ cs, env.ofChild b = .ok cs) ∧ env.ofChild child = .error f
  command : ∀ child ∈ e.elements, child.attributes ≠ [] →
    env.ofChild child = env.ofCommandElement child
  property : ∀ child ∈ e.elements, child.attributes = [] →
    (∀ cs, env.ofChild child = .ok cs ↔ ∃ c, env.Assigns child.name child.content c ∧ [c] = cs) ∧
      ∀ f, env.ofChild child = .error f ↔ env.RefusesText child f

theorem translatesChildren (env : Environment) (e : Element) : env.TranslatesChildren e where
  commands _ := ofChildren_eq_ok_iff
  fails _ := ofChildren_eq_error_iff.trans mapM_eq_error_iff
  command _ _ h := ofChild_of_attributes h
  property _ _ h := ⟨fun _ => ofChild_eq_ok_iff h, fun _ => ofChild_eq_error_iff h⟩

/--
Makes a record from one that has its id, step by step: the defaults of collections, the commands of
the attributes, those of the elements, those of the scopes around it, and the other defaults.
-/
def assemble (env : Environment) (own inherited : List Command) (e : Element) :
    ExceptT Fault (StateM Record) Unit := do
  modify env.entity.seed
  modify (Command.runAll own)
  let children ← MonadExcept.ofExcept (env.ofChildren e)
  modify (Command.runAll children)
  modify (Command.runAll inherited)
  modify env.entity.fill

theorem run_assemble (env : Environment) (own inherited : List Command) (e : Element)
    (r : Record) :
    (env.assemble own inherited e).run.run r =
      match env.ofChildren e with
      | .error f => (.error f, Command.runAll own (env.entity.seed r))
      | .ok children => (.ok (), env.entity.fill
        (Command.runAll (own ++ children ++ inherited) (env.entity.seed r))) := by
  unfold assemble
  cases env.ofChildren e with
  | error f => rfl
  | ok children =>
    simp only [Command.runAll_append]
    rfl

end Environment

namespace Collector

variable {σ : Type}

def buildInPlace (c : Collector σ) (sec : Section) (k : Keeper σ) (e : Element) :
    Except Fault Record × Collector σ :=
  let env := sec.environment c.present.vars
  match env.ofAttributes e with
  | .error f => (.error f, c)
  | .ok (id, own) =>
    let c := { c with kept := k.create id c.kept }
    match (env.assemble own c.present.commands.outermostFirst e).run.run { id } with
    | (.error f, _) => (.error f, c)
    | (.ok (), r) =>
      match k.add r c.kept with
      | .error problem => (.error ⟨problem, e, none⟩, c)
      | .ok kept => (.ok r, { c with kept, current := some e })

theorem build_eq_buildInPlace (c : Collector σ) (sec : Section) (k : Keeper σ) (e : Element) :
    c.build sec k e = c.buildInPlace sec k e := by
  unfold build buildInPlace
  simp only [Environment.run_assemble]
  cases (sec.environment c.present.vars).ofAttributes e with
  | error f => rfl
  | ok made =>
    obtain ⟨id, own⟩ := made
    simp only
    cases (sec.environment c.present.vars).ofChildren e with
    | error f => rfl
    | ok children => rfl

end Collector

namespace Environment

/--
An element with commands has one for each attribute, and is refused for the first attribute that is
refused alone, unless there is a malformed name behind it. The elements in the element of a record
are translated in their order; if one of them is refused, the record that is being made has nothing
but its defaults and what its attributes say.
-/
theorem translated_in_order (env : Environment) (e : Element) :
    (∀ kind, CommandElement.ofName? e.name = some kind → kind ≠ .tag →
      env.TranslatesSingly kind e) ∧
    env.TranslatesChildren e ∧
    (∀ own inherited r f, env.ofChildren e = .error f →
      (env.assemble own inherited e).run.run r =
        (.error f, Command.runAll own (env.entity.seed r))) ∧
    (∀ own inherited r cs, env.ofChildren e = .ok cs →
      (env.assemble own inherited e).run.run r =
        (.ok (), env.entity.fill
          (Command.runAll (own ++ cs ++ inherited) (env.entity.seed r)))) ∧
    ∀ {σ : Type} (c : Collector σ) (sec : Section) (k : Keeper σ),
      c.build sec k e = c.buildInPlace sec k e := by
  refine ⟨?_, env.translatesChildren e, ?_, ?_, ?_⟩
  · intro kind hkind htag
    exact translatesSingly hkind htag
  · intro own inherited r f hf
    rw [run_assemble, hf]
  · intro own inherited r cs hcs
    rw [run_assemble, hcs]
  · intro σ c sec k
    exact c.build_eq_buildInPlace sec k e

theorem translated_in_order_refused :
    let title : Property := { name := "Title" }
    let writers : Property := { name := "Writers", collection := true }
    let env : Environment := {
      entity := { own := { properties := [title, writers] } }
      substitute := true
      lookup := fun _ => none
    }
    let given (name value : String) : Attribute := { written := ⟨none, name⟩, value }
    let before := [given "tag" "t", given "Title" "x"]
    let after := [given "Writers" "w"]
    let e (attributes : List Attribute) : Element := ⟨{ written := ⟨none, "set"⟩, attributes }, []⟩
    let new (e : Element) : Element := ⟨{ written := ⟨none, "new"⟩ }, [
      .element { written := ⟨none, "Title"⟩ } [.text "y"],
      .element e.tag e.children]⟩
    let refused := e (before ++ given "Nope" "1" :: after)
    let f : Fault := ⟨.undefinedProperty "Nope", refused, some "Nope"⟩
    CommandElement.ofName? refused.name = some .set ∧
      env.ofCommandElement (e (before ++ after)) =
        .ok [.addTag "t", .set "Title" "x", .addItem "Writers" "w"] ∧
      env.ofCommandElement refused = .error f ∧
      env.ofChildren (new refused) = .error f ∧
      (env.assemble [.set "Title" "z"] [] (new refused)).run.run {} =
        (.error f, { properties := [("Title", .text "z")] }) := by
  intro title writers env given before after e new refused f
  have hkind (attributes : List Attribute) :
      CommandElement.ofName? (e attributes).name = some .set :=
    CommandElement.ofName?_name .set
  have htag : CommandElement.set ≠ .tag := by decide
  have hok : env.ofCommandElement (e (before ++ after)) =
      .ok [.addTag "t", .set "Title" "x", .addItem "Writers" "w"] := by
    have hsingly := (env.translated_in_order (e (before ++ after))).1 .set (hkind _) htag
    rw [hsingly.commands]
    refine .cons ?_ (.cons ?_ (.cons ?_ .nil))
    · cbv
    · cbv
    · cbv
  have hrefused : env.ofCommandElement refused = .error f := by
    have hsingly := (env.translated_in_order refused).1 .set (hkind _) htag
    rw [hsingly.fails]
    refine ⟨before, given "Nope" "1", after, f.with (refused.only (given "Nope" "1")), rfl, ?_, ?_,
      ?_⟩
    · rw [List.forall_mem_cons, List.forall_mem_singleton]
      exact ⟨⟨[.addTag "t"], by cbv⟩, ⟨[.set "Title" "x"], by cbv⟩⟩
    · cbv
    · have htold : ∀ b ∈ after, Xml.comparable b.name = .ok b.name := by
        rw [List.forall_mem_singleton]
        cbv
      exact .first fun _ => htold
  obtain ⟨-, hchildren, hhalfway, -⟩ := env.translated_in_order (new refused)
  have hnew : env.ofChildren (new refused) = .error f := by
    rw [hchildren.fails]
    refine ⟨[⟨{ written := ⟨none, "Title"⟩ }, [.text "y"]⟩], refused, [], rfl, ?_, hrefused⟩
    simp only [List.forall_mem_singleton]
    exact ⟨[.set "Title" "y"], by cbv⟩
  exact ⟨hkind _, hok, hrefused, hnew, hhalfway _ _ _ _ hnew⟩

theorem translated_in_order_unqualified :
    let env : Environment := {
      entity := { own := { properties := [{ name := "Title" }] } }
      substitute := true
      lookup := fun _ => none
    }
    let property : Attribute := { written := ⟨none, "Nope"⟩, value := "1" }
    let qualified : Attribute := { written := ⟨some "x", "y"⟩, value := "2", name := "x:y" }
    let e : Element := ⟨{ written := ⟨none, "set"⟩, attributes := [property, qualified] }, []⟩
    env.ofCommandElement (e.only property) =
        .error ⟨.undefinedProperty "Nope", e.only property, some "Nope"⟩ ∧
      env.ofCommandElement e = .error ⟨.malformedName ⟨"x:y"⟩, e, none⟩ := by
  intro env property qualified e
  constructor
  · cbv
  · cbv

end Environment
end Catalog
