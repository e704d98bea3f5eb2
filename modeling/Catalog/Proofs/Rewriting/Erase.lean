import Catalog.Proofs.Lexical.Resemblance
import Catalog.Proofs.Report
import Catalog.Proofs.Rewriting.Exchange
/-!
This module contains the proof that reading does not see comments, instructions, text around
elements, and elements around no record: a section is read the same without them.
-/

namespace Catalog

open Xml (Element Node)

namespace Xml

namespace Node

def join (s : String) : List Node → List Node
  | .text t :: ns => .text (s ++ t) :: ns
  | ns => .text s :: ns

theorem contents_join (s : String) (ns : List Node) : contents (join s ns) = s ++ contents ns := by
  cases ns with
  | nil => rfl
  | cons n ns =>
    cases n with
    | text t => exact String.append_assoc
    | element tag children => rfl
    | comment t => rfl
    | instruction target data => rfl

theorem elements_join (s : String) (ns : List Node) :
    (join s ns).filterMap element? = ns.filterMap element? := by
  cases ns with
  | nil => rfl
  | cons n ns =>
    cases n with
    | text t => rfl
    | element tag children => rfl
    | comment t => rfl
    | instruction target data => rfl

mutual

def bare : Node → Node
  | .element tag children => .element tag (bareAll children)
  | .text s => .text s
  | .comment s => .comment s
  | .instruction target data => .instruction target data

def bareAll : List Node → List Node
  | [] => []
  | .element tag children :: ns => (Node.element tag children).bare :: bareAll ns
  | .text s :: ns => join s (bareAll ns)
  | .comment _ :: ns => bareAll ns
  | .instruction _ _ :: ns => bareAll ns

end

def elementsOnly (ns : List Node) : List Node := (ns.filterMap element?).map Element.node

theorem elements_elementsOnly (ns : List Node) :
    (elementsOnly ns).filterMap element? = ns.filterMap element? := by
  have hnode : element? ∘ Element.node = some := rfl
  unfold elementsOnly
  rw [List.filterMap_map, hnode, List.filterMap_some]

/--
What is left in an element of the given kind that a walk comes to: of its nodes without comments, or
of those that are `tidied` where the walk goes on. Only what is not known keeps its text.
-/
def kept (kind : ElementKind) (bare tidied : List Node) : List Node :=
  match kind with
  | .record => elementsOnly bare
  | .command => elementsOnly tidied
  | .variable => elementsOnly tidied
  | .unknown => bare

mutual

def tidy : Node → Node
  | .element tag children =>
    .element tag (kept (ElementKind.ofName tag.name) (bareAll children) (tidyAll children))
  | .text s => .text s
  | .comment s => .comment s
  | .instruction target data => .instruction target data

def tidyAll : List Node → List Node
  | [] => []
  | n :: ns => n.tidy :: tidyAll ns

end

end Node

namespace Element

def bare (e : Element) : Element := { e with children := Node.bareAll e.children }

def tidy (e : Element) : Element where
  tag := e.tag
  children :=
    Node.kept (ElementKind.ofName e.name) (Node.bareAll e.children) (Node.tidyAll e.children)

end Element

namespace Node

theorem elements_bareAll (ns : List Node) :
    (bareAll ns).filterMap element? = (ns.filterMap element?).map Element.bare := by
  induction ns with
  | nil => rfl
  | cons n ns ih =>
    cases n with
    | element tag children => exact congrArg (_ :: ·) ih
    | text s => exact (elements_join s _).trans ih
    | comment s => exact ih
    | instruction target data => exact ih

theorem elements_tidyAll (ns : List Node) :
    (tidyAll ns).filterMap element? = (ns.filterMap element?).map Element.tidy := by
  induction ns with
  | nil => rfl
  | cons n ns ih =>
    cases n with
    | element tag children => exact congrArg (_ :: ·) ih
    | text s => exact ih
    | comment s => exact ih
    | instruction target data => exact ih

mutual

theorem content_bare (n : Node) : n.bare.content = n.content := by
  cases n with
  | element tag children => exact contents_bareAll children
  | text s => rfl
  | comment s => rfl
  | instruction target data => rfl

theorem contents_bareAll (ns : List Node) : contents (bareAll ns) = contents ns := by
  cases ns with
  | nil => rfl
  | cons n ns =>
    have hothers : contents (bareAll ns) = contents ns := contents_bareAll ns
    cases n with
    | element tag children =>
      unfold bareAll contents
      rw [content_bare, hothers]
    | text s =>
      unfold bareAll
      rw [contents_join, hothers]
      rfl
    | comment s => exact hothers.trans String.empty_append.symm
    | instruction target data => exact hothers.trans String.empty_append.symm

end

example : bareAll [.text "the $(", .comment "n", .text "n)"] = [.text "the $(n)"] := by rfl

end Node

namespace Element

theorem elements_tidy_of_record {e : Element} (h : ElementKind.ofName e.name = .record) :
    e.tidy.elements = e.elements.map bare := by
  unfold tidy
  rw [h]
  exact (Node.elements_elementsOnly _).trans (Node.elements_bareAll e.children)

theorem elements_tidy_of_opensScope {e : Element} (h : e.tag.OpensScope) :
    e.tidy.elements = e.elements.map tidy := by
  have htidied : (Node.elementsOnly (Node.tidyAll e.children)).filterMap Node.element? =
      e.elements.map tidy :=
    (Node.elements_elementsOnly _).trans (Node.elements_tidyAll e.children)
  obtain hkind | hkind : ElementKind.ofName e.name = .command ∨
      ElementKind.ofName e.name = .variable := h
  · unfold tidy
    rw [hkind]
    exact htidied
  · unfold tidy
    rw [hkind]
    exact htidied

end Element

end Xml

def Resemblance.tidy : Resemblance where
  outer e e' := e' = e.tidy
  inner e e' := e' = e.bare
  name := by
    rintro e _ (rfl | rfl)
    · rfl
    · rfl
  attributes := by
    rintro e _ (rfl | rfl)
    · rfl
    · rfl
  content := by
    rintro e _ rfl
    exact Node.contents_bareAll e.children
  scope := by
    rintro e _ rfl hopens
    rw [Element.elements_tidy_of_opensScope hopens, List.forall₂_map_right_iff]
    exact List.forall₂_same.mpr fun _ _ => rfl
  record := by
    rintro e _ rfl hkind
    rw [Element.elements_tidy_of_record hkind, List.forall₂_map_right_iff]
    exact List.forall₂_same.mpr fun _ _ => rfl

namespace Section

def tidy (sec : Section) : Section :=
  let children := Node.elementsOnly (Node.tidyAll sec.element.children)
  { sec with element := { sec.element with children } }

theorem alike_tidy (sec : Section) :
    Reading.Alike Resemblance.tidy.Resembles (Lexical.read sec (some sec.settings.maxDepth))
      (Lexical.read sec.tidy (some sec.tidy.settings.maxDepth)) := by
  have helements : sec.tidy.element.elements = sec.element.elements.map Element.tidy :=
    (Node.elements_elementsOnly _).trans (Node.elements_tidyAll sec.element.children)
  apply Lexical.alike_read
  · rfl
  · rfl
  · rw [helements, List.forall₂_map_right_iff]
    exact List.forall₂_same.mpr fun _ _ => rfl

theorem report_tidy (sec : Section) {f f' : Fault}
    (h : Fault.Alike Resemblance.tidy.Resembles f f') :
    (sec.tidy.report f').withoutSnippet = (sec.report f).withoutSnippet := by
  have htag : f'.element.tag = f.element.tag := by
    obtain helement | helement := h.element
    · rw [helement]
      rfl
    · rw [helement]
      rfl
  obtain ⟨n, hf, hf'⟩ | ⟨name, hf, hf'⟩ :=
    sec.report_of_same sec.tidy h.problem (congrArg Xml.Tag.name htag)
  · rw [hf, hf']
    rfl
  · rw [hf, hf']
    simp only [StructureError.withoutSnippet, told, Option.map_some, h.problem, h.attributeName,
      htag]
    rfl

end Section

theorem Xml.Node.news_of_opensScope {tag : Xml.Tag} (h : tag.OpensScope) (children : List Node) :
    Node.news [.element tag children] = Node.news children := by
  have hnews : Node.news [.element tag children] =
      ((Node.element tag children).newLevels 1).map (·.1) := by
    rw [news, newLevelsAll, newLevelsAll, List.append_nil]
  rw [hnews, newLevels]
  obtain hkind | hkind := h
  · rw [hkind]
    exact Node.map_fst_newLevelsAll_eq _ children
  · rw [hkind]
    exact Node.map_fst_newLevelsAll_eq _ children

namespace Lexical

variable {sec : Section} {limit : Option Nat} {level : Nat} {around : Surroundings}

theorem carries_nothing_of_news {ns : List Node} (h : Node.news ns = []) :
    Reading.Carries (ofNodes sec limit level around ns) {} := by
  intro hfault
  have hvisits : (ofNodes sec limit level around ns).visits = [] := by
    rw [← List.map_eq_nil_iff, elements_ofNodes ns hfault, h]
  constructor
  · rw [hvisits]
    exact .nil
  · rw [hfault]
    exact .none

end Lexical

def Site.cluttered : Site :=
  .inside [
    .comment "n is v",
    .element {
      written := ⟨none, "variable"⟩
      attributes := [
        { written := ⟨none, "name"⟩, value := "n" },
        { written := ⟨none, "value"⟩, value := "v" }]
    } [
      .text "of n",
      .element { written := ⟨none, "new"⟩ } [
        .text "its title",
        .element { written := ⟨none, "Title"⟩ } [.text "the $(", .comment "n", .text "n)"]]]] {
    written := ⟨none, "set"⟩
    attributes := [{ written := ⟨none, "Title"⟩, value := "x" }]
  } (.here [] []) []

namespace Collector

variable {σ : Type}

/--
Comments, instructions and text around elements make no difference to what is read, whether this
ends with an error or not. In a section that is read without an error, an element that opens a scope
can be left out as well, with all that is in it, if no record is made of anything there.
-/
theorem readRecords_tidied (sec : Section) :
    (∀ (reader reader' : Collector Shelf) (k : Keeper σ) (c : Collector σ),
      let read := reader.readRecords sec
      let tidied := reader'.readRecords sec.tidy
      let drained := c.drain sec k .fresh
      let drainedTidied := c.drain sec.tidy k .fresh
      tidied.2.kept.records = read.2.kept.records ∧
        tidied.1.mapError StructureError.withoutSnippet =
          read.1.mapError StructureError.withoutSnippet ∧
        drainedTidied.1 = drained.1 ∧
        drainedTidied.2.1.map StructureError.withoutSnippet =
          drained.2.1.map StructureError.withoutSnippet) ∧
    ∀ (site : Site) (tag : Xml.Tag) (children : List Node), site.Walked → tag.OpensScope →
      Node.news children = [] → ∀ (reader reader' : Collector Shelf) (rs : List Record),
        (reader.readRecords (sec.put site [.element tag children])).1 = .ok rs →
          (reader'.readRecords (sec.put site [])).1 = .ok rs := by
  constructor
  · intro reader reader' k c
    exact same_of_alike sec.alike_tidy (fun _ _ => sec.report_tidy) reader reader' k c
  · intro site tag children hwalked hopens hnews reader reader' rs hread
    apply readRecords_put_of_carries hwalked _ _ hread
    · simp [Node.element?]
    · intro limit level inner
      apply Lexical.carries_nothing_of_news
      rw [Node.news_of_opensScope hopens, hnews]

theorem readRecords_tidied_cluttered :
    let tag : Xml.Tag := {
      written := ⟨none, "append"⟩
      attributes := [{ written := ⟨none, "Title"⟩, value := "y" }]
    }
    let sec := Section.titled.put .cluttered [.element tag [.comment "nothing"]]
    let rs : List Record := [{ properties := [("Title", .text "the v")] }]
    Site.cluttered.Walked ∧ tag.OpensScope ∧ Node.news [.comment "nothing"] = [] ∧
      sec.records = .ok rs ∧
      (Collector.readRecords { kept := {} } sec.tidy).1.mapError StructureError.withoutSnippet =
        .ok rs ∧
      (Section.titled.put .cluttered []).records = .ok rs := by
  intro tag sec rs
  have hrecords : sec.records = .ok rs := by
    decide +kernel
  obtain ⟨htidied, hremoved⟩ := readRecords_tidied (σ := List Call) sec
  obtain ⟨-, hread, -⟩ := htidied { kept := {} } { kept := {} } .journal { kept := [] }
  have hwalked : Site.cluttered.Walked := ⟨.inl rfl, trivial⟩
  have hopens : tag.OpensScope := .inl rfl
  refine ⟨hwalked, hopens, rfl, hrecords, ?_, ?_⟩
  · rw [hread]
    exact congrArg (Except.mapError StructureError.withoutSnippet) hrecords
  · exact hremoved .cluttered tag [.comment "nothing"] hwalked hopens rfl { kept := {} } _ rs
      hrecords

end Collector
end Catalog
