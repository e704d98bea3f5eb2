import Catalog.Proofs.Traversal.Unlimited
/-!
This module contains the places in a tree that a walk comes to, and the proof that what is read
there is read between what is read in front of it and what is read behind it.
-/

namespace Catalog

open Xml (Element Node)

inductive Site where
  | here (before after : List Node)
  | inside (before : List Node) (tag : Xml.Tag) (site : Site) (after : List Node)

namespace Site

def fill : Site → List Node → List Node
  | here before after, ns => before ++ ns ++ after
  | inside before tag site after, ns => before ++ .element tag (site.fill ns) :: after

/--
A walk comes to the place: all elements around it open a scope.
-/
def Walked : Site → Prop
  | here _ _ => True
  | inside _ tag site _ => tag.OpensScope ∧ site.Walked

def surroundings (sec : Section) (around : Surroundings) : Site → Except Fault Surroundings
  | here _ _ => .ok around
  | inside _ tag site _ => do
    let inner ← Lexical.enter sec around ⟨tag, []⟩
    site.surroundings sec inner

def newsBefore : Site → List Element
  | here before _ => Node.news before
  | inside before _ site _ => Node.news before ++ site.newsBefore

def newsAfter : Site → List Element
  | here _ after => Node.news after
  | inside _ _ site after => site.newsAfter ++ Node.news after

end Site

def Site.between : Site :=
  .inside [] {
    written := ⟨none, "set"⟩
    attributes := [{ written := ⟨none, "Title"⟩, value := "x" }]
  } (.here [.new "1"] [.new "3"]) []

def Section.put (sec : Section) (site : Site) (ns : List Node) : Section :=
  { sec with element := { sec.element with children := site.fill ns } }

namespace Lexical

variable {sec : Section} {around inner : Surroundings} {tag : Xml.Tag}

theorem enter_with (tag : Xml.Tag) (children children' : List Node) :
    (enter sec around ⟨tag, children⟩).mapError (Fault.with ⟨tag, children'⟩) =
      enter sec around ⟨tag, children'⟩ := by
  unfold enter Element.name
  match ElementKind.ofName tag.name with
  | .variable => rw [mapError_map, Environment.ofVariableElement_with]
  | .command => rw [mapError_map, Environment.ofCommandElement_with]
  | .record => rw [mapError_map, Environment.ofCommandElement_with]
  | .unknown => rw [mapError_map, Environment.ofCommandElement_with]

theorem enter_of_tag_ok {children : List Node} (h : enter sec around ⟨tag, children⟩ = .ok inner)
    (children' : List Node) : enter sec around ⟨tag, children'⟩ = .ok inner := by
  rw [← enter_with tag children children', h]
  rfl

theorem enter_of_tag_error {children : List Node} {f : Fault}
    (h : enter sec around ⟨tag, children⟩ = .error f) (children' : List Node) :
    enter sec around ⟨tag, children'⟩ = .error (f.with ⟨tag, children'⟩) := by
  rw [← enter_with tag children children', h]
  rfl

theorem elements_unlimited {ns : List Node} (h : (unlimited sec around ns).fault = none) :
    (unlimited sec around ns).visits.map (·.element) = Node.news ns := by
  exact elements_ofNodes ns h

end Lexical

theorem Section.reading_put (sec : Section) (site : Site) (ns : List Node) :
    (sec.put site ns).reading = Lexical.unlimited sec {} (site.fill ns) := by
  unfold reading
  apply Lexical.unlimited_congr
  · rfl
  · rfl

namespace Site

open Lexical (unlimited enter)

variable {sec : Section} {around inner : Surroundings} {site : Site}

theorem isEmpty_elements_fill (site : Site) {ns : List Node} (h : ns.filterMap Node.element? ≠ [])
    (tag : Xml.Tag) : ¬ (Element.mk tag (site.fill ns)).elements.isEmpty := by
  rw [List.isEmpty_iff, Element.elements]
  cases site with
  | here before after =>
    rw [fill, List.filterMap_append, List.filterMap_append]
    simp [h]
  | inside before tag' site after =>
    rw [fill, List.filterMap_append]
    simp [Node.element?]

theorem exists_reading_fill (hwalked : site.Walked)
    (hinner : site.surroundings sec around = .ok inner) :
    ∃ pre post : Reading,
      (pre.fault = none → pre.visits.map (·.element) = site.newsBefore) ∧
      (post.fault = none → post.visits.map (·.element) = site.newsAfter) ∧
      ∀ ns : List Node, ns.filterMap Node.element? ≠ [] →
        unlimited sec around (site.fill ns) =
          (pre.followedBy (unlimited sec inner ns)).followedBy post := by
  -- From the outermost element inwards: what stands around it is put around `pre` and `post`.
  induction site generalizing around with
  | here before after =>
    obtain rfl : around = inner := Except.ok.inj hinner
    refine ⟨unlimited sec around before, unlimited sec around after, ?_, ?_, ?_⟩
    · intro hfault
      exact Lexical.elements_unlimited hfault
    · intro hfault
      exact Lexical.elements_unlimited hfault
    · intro ns _
      rw [fill, Lexical.unlimited_append, Lexical.unlimited_append]
  | inside before tag site after ih =>
    obtain ⟨middle, hmiddle, hinner⟩ := bind_eq_ok_iff.mp hinner
    obtain ⟨pre, post, hpre, hpost, hfill⟩ := ih hwalked.2 hinner
    refine ⟨(unlimited sec around before).followedBy pre,
      post.followedBy (unlimited sec around after), ?_, ?_, ?_⟩
    · intro hfault
      obtain ⟨hbefore, hfault⟩ := Reading.fault_of_followedBy hfault
      rw [Reading.followedBy_visits hbefore, List.map_append, hpre hfault,
        Lexical.elements_unlimited hbefore]
      rfl
    · intro hfault
      obtain ⟨hfault, hafter⟩ := Reading.fault_of_followedBy hfault
      rw [Reading.followedBy_visits hfault, List.map_append, hpost hfault,
        Lexical.elements_unlimited hafter]
      rfl
    · intro ns hns
      have henter := Lexical.enter_of_tag_ok hmiddle (site.fill ns)
      have hscope := Lexical.unlimited_of_enter_ok hwalked.1 (site.isEmpty_elements_fill hns tag)
        henter
      rw [fill, Lexical.unlimited_append, Lexical.unlimited_cons, hscope, hfill ns hns]
      simp only [Reading.followedBy_assoc]

theorem exists_reading_fill_of_error {f : Fault} (hwalked : site.Walked)
    (hf : site.surroundings sec around = .error f) :
    ∃ (pre : Reading) (tag : Xml.Tag) (children : List Node → List Node),
      ∀ ns : List Node, ns.filterMap Node.element? ≠ [] →
        unlimited sec around (site.fill ns) =
          pre.followedBy { fault := some (f.with ⟨tag, children ns⟩) } := by
  induction site generalizing around with
  | here before after =>
    have hok : Except.ok around = .error f := hf
    simp at hok
  | inside before tag site after ih =>
    cases hmiddle : enter sec around ⟨tag, []⟩ with
    | error g =>
      -- This is the element that reading ends at, so that nothing inside it is looked at.
      have hg : Site.surroundings sec around (.inside before tag site after) = .error g := by
        rw [surroundings, hmiddle]
        rfl
      obtain rfl : g = f := Except.error.inj (hg.symm.trans hf)
      refine ⟨unlimited sec around before, tag, site.fill, ?_⟩
      intro ns hns
      have henter := Lexical.enter_of_tag_error hmiddle (site.fill ns)
      have hscope := Lexical.unlimited_of_enter_error hwalked.1
        (site.isEmpty_elements_fill hns tag) henter
      rw [fill, Lexical.unlimited_append, Lexical.unlimited_cons, hscope]
      rfl
    | ok middle =>
      have hf : site.surroundings sec middle = .error f := by
        rw [surroundings, hmiddle] at hf
        exact hf
      obtain ⟨pre, tag', children, hfill⟩ := ih hwalked.2 hf
      refine ⟨(unlimited sec around before).followedBy pre, tag', children, ?_⟩
      intro ns hns
      have henter := Lexical.enter_of_tag_ok hmiddle (site.fill ns)
      have hscope := Lexical.unlimited_of_enter_ok hwalked.1 (site.isEmpty_elements_fill hns tag)
        henter
      rw [fill, Lexical.unlimited_append, Lexical.unlimited_cons, hscope, hfill ns hns]
      simp only [Reading.followedBy_assoc]
      rfl

theorem related_fill {V : Visit → Visit → Prop} {F : Fault → Fault → Prop} (hV : ∀ v, V v v)
    (hF : ∀ f, F f f)
    (hwith : ∀ f tag ns ns', F (Fault.with ⟨tag, ns⟩ f) (Fault.with ⟨tag, ns'⟩ f))
    (hwalked : site.Walked) {ns ns' : List Node} (hns : ns.filterMap Node.element? ≠ [])
    (hns' : ns'.filterMap Node.element? ≠ [])
    (h : ∀ inner, site.surroundings sec around = .ok inner →
      Reading.Related V F (unlimited sec inner ns) (unlimited sec inner ns')) :
    Reading.Related V F (unlimited sec around (site.fill ns))
      (unlimited sec around (site.fill ns')) := by
  cases hinner : site.surroundings sec around with
  | error f =>
    obtain ⟨pre, tag, children, hfill⟩ := exists_reading_fill_of_error hwalked hinner
    rw [hfill ns hns, hfill ns' hns']
    apply Reading.Related.followedBy
    · exact .refl hV hF pre
    · exact .of_fault (hwith f tag (children ns) (children ns'))
  | ok inner =>
    obtain ⟨pre, post, -, -, hfill⟩ := exists_reading_fill hwalked hinner
    rw [hfill ns hns, hfill ns' hns']
    apply Reading.Related.followedBy
    · apply Reading.Related.followedBy
      · exact .refl hV hF pre
      · exact h inner hinner
    · exact .refl hV hF post

theorem exists_surroundings {ns : List Node} (hwalked : site.Walked)
    (hns : ns.filterMap Node.element? ≠ [])
    (hfault : (unlimited sec around (site.fill ns)).fault = none) :
    ∃ inner, site.surroundings sec around = .ok inner := by
  cases hinner : site.surroundings sec around with
  | ok inner => exact ⟨inner, rfl⟩
  | error f =>
    obtain ⟨pre, tag, children, hfill⟩ := exists_reading_fill_of_error hwalked hinner
    rw [hfill ns hns] at hfault
    have hnone := (Reading.fault_of_followedBy hfault).2
    simp at hnone

end Site
end Catalog
