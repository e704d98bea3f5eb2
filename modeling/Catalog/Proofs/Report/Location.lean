import Catalog.Proofs.Lexical.Resemblance
import Catalog.Proofs.Lexical.Visits
import Catalog.Proofs.Report
import Catalog.Proofs.Report.Message
import Mathlib.Data.List.Forall2
/-!
This module contains the proof that reading reveals nothing of where elements are in a document,
other than in the errors for developers.
-/

namespace Catalog

open Xml (Element Node)

namespace Xml

def Tag.withoutLine (t : Tag) : Tag := { t with line := 0 }

namespace Node

mutual

def withoutLines : Node → Node
  | .element tag children => .element tag.withoutLine (withoutLinesAll children)
  | .text s => .text s
  | .comment s => .comment s
  | .instruction target data => .instruction target data

def withoutLinesAll : List Node → List Node
  | [] => []
  | n :: ns => n.withoutLines :: withoutLinesAll ns

end

mutual

theorem content_withoutLines (n : Node) : n.withoutLines.content = n.content := by
  cases n with
  | element tag children =>
    unfold withoutLines content
    apply contents_withoutLinesAll
  | text s => rfl
  | comment s => rfl
  | instruction target data => rfl

theorem contents_withoutLinesAll (ns : List Node) :
    contents (withoutLinesAll ns) = contents ns := by
  cases ns with
  | nil => rfl
  | cons n ns =>
    unfold withoutLinesAll contents
    rw [content_withoutLines, contents_withoutLinesAll]

end

end Node

namespace Element

def withoutLines (e : Element) : Element where
  tag := e.tag.withoutLine
  children := Node.withoutLinesAll e.children

theorem elements_withoutLines (e : Element) :
    e.withoutLines.elements = e.elements.map withoutLines := by
  obtain ⟨tag, children⟩ := e
  unfold elements withoutLines
  induction children with
  | nil => rfl
  | cons n ns ih =>
    cases n with
    | element tag children => exact congrArg (_ :: ·) ih
    | text s => exact ih
    | comment s => exact ih
    | instruction target data => exact ih

def SameButLines (e e' : Element) : Prop := e'.withoutLines = e.withoutLines

namespace SameButLines

variable {e e' : Element} (h : e.SameButLines e')

include h

theorem name : e'.name = e.name := by
  have hname : e'.withoutLines.name = e.withoutLines.name := congrArg Element.name h
  exact hname

theorem attributes : e'.attributes = e.attributes := by
  have hattributes : e'.withoutLines.attributes = e.withoutLines.attributes :=
    congrArg Element.attributes h
  exact hattributes

theorem content : e'.content = e.content := by
  have hcontents : Node.contents e'.withoutLines.children = Node.contents e.withoutLines.children :=
    congrArg Element.content h
  unfold withoutLines at hcontents
  rwa [Node.contents_withoutLinesAll, Node.contents_withoutLinesAll] at hcontents

theorem elements : List.Forall₂ SameButLines e.elements e'.elements := by
  have hmap : e'.elements.map withoutLines = e.elements.map withoutLines := by
    rw [← elements_withoutLines, ← elements_withoutLines]
    exact congrArg Element.elements h
  have hsame : List.Forall₂ (fun e e' => e' = e) (e.elements.map withoutLines)
      (e'.elements.map withoutLines) := by
    rw [hmap]
    exact List.forall₂_same.mpr fun _ _ => rfl
  rw [List.forall₂_map_left_iff, List.forall₂_map_right_iff] at hsame
  exact hsame

end SameButLines

end Element

end Xml

def Resemblance.lines : Resemblance where
  outer := Element.SameButLines
  inner := Element.SameButLines
  name _ _ h := (h.elim id id).name
  attributes _ _ h := (h.elim id id).attributes
  content _ _ h := h.content
  scope _ _ h _ := h.elements
  record _ _ h _ := h.elements

namespace Section

variable {sec sec' : Section} {f f' : Fault}

theorem withoutLocation_report (sec sec' : Section)
    (h : Fault.Alike Resemblance.lines.Resembles f f') :
    (sec'.report f').withoutLocation = (sec.report f).withoutLocation := by
  have hname : f'.element.name = f.element.name := Resemblance.lines.name _ _ h.element
  obtain ⟨n, hf, hf'⟩ | ⟨name, hf, hf'⟩ := sec.report_of_same sec' h.problem hname
  · rw [hf, hf']
    rfl
  · rw [hf, hf']
    simp only [StructureError.withoutLocation, told, Option.map_some, h.problem, h.attributeName]

theorem level_report (sec : Section) (f : Fault) : (sec.report f).level = sec.settings.level := by
  unfold report Fault.report
  split
  · rfl
  · rfl
  · rfl

/--
Sections that differ in nothing but the location of what is in them, and in whether this is told.
-/
structure SameButLocation (sec sec' : Section) : Prop where
  element : sec.element.SameButLines sec'.element
  entity : sec'.entity = sec.entity
  settings : { sec'.settings with level := sec.settings.level } = sec.settings

namespace SameButLocation

variable (h : sec.SameButLocation sec')

include h

theorem substitute : sec'.settings.substitute = sec.settings.substitute := by
  rw [← h.settings]

theorem maxDepth : sec'.settings.maxDepth = sec.settings.maxDepth := by
  rw [← h.settings]

theorem alike_read :
    Reading.Alike Resemblance.lines.Resembles (Lexical.read sec (some sec.settings.maxDepth))
      (Lexical.read sec' (some sec'.settings.maxDepth)) := by
  rw [h.maxDepth]
  apply Lexical.alike_read
  · exact h.entity
  · exact h.substitute
  · exact h.element.elements

end SameButLocation

end Section

def Section.misspelled (line : Nat) : Element where
  tag := {
    written := ⟨none, "new"⟩
    attributes := [{ written := ⟨none, "Nope"⟩, value := "x" }]
    line
  }

def Section.misspelling (line : Nat) (document : Option String) (level : DetailLevel) :
    Section where
  element := ⟨{ written := ⟨none, "records"⟩, line }, [.new "1", (misspelled line).node]⟩
  entity := Titles.entity
  settings := { (default : Settings) with level }
  document

namespace Collector

variable {σ : Type} {sec sec' : Section}

/--
Read two sections that differ in nothing but the location of what is in them: the records are the
same, and so is the error, if there is one, but for the location. Users are told nothing of this,
and developers are told it in lines behind those for users.
-/
theorem readRecords_of_sameButLocation (h : sec.SameButLocation sec')
    (reader reader' : Collector Shelf) (k : Keeper σ) (c : Collector σ) :
    let read := reader.readRecords sec
    let read' := reader'.readRecords sec'
    let drained := c.drain sec k .fresh
    let drained' := c.drain sec' k .fresh
    read'.2.kept.records = read.2.kept.records ∧
      read'.1.mapError StructureError.withoutLocation =
        read.1.mapError StructureError.withoutLocation ∧
      drained'.1 = drained.1 ∧
      drained'.2.1.map StructureError.withoutLocation =
        drained.2.1.map StructureError.withoutLocation ∧
      (sec.settings.level = .user → sec'.settings.level = .user →
        read'.1.mapError StructureError.message = read.1.mapError StructureError.message) ∧
      (sec.settings.level = .user → sec'.settings.level = .developer →
        ∀ e', read'.1 = .error e' → ∃ e, read.1 = .error e ∧
          e'.message = e.message ++ following e'.locationLines) := by
  intro read read' drained drained'
  obtain ⟨hrecords, hread, hdrain, hdrained⟩ := same_of_alike h.alike_read
    (fun _ _ => sec.withoutLocation_report sec') reader reader' k c
  refine ⟨hrecords, hread, hdrain, hdrained, ?_, ?_⟩
  · intro huser huser'
    have hmessage {f f' : Fault} (hf : Fault.Alike Resemblance.lines.Resembles f f') :
        (sec'.report f').message = (sec.report f).message := by
      rw [StructureError.message_of_user ((sec'.level_report f').trans huser'),
        StructureError.message_of_user ((sec.level_report f).trans huser),
        sec.withoutLocation_report sec' hf]
    exact (same_of_alike h.alike_read (fun _ _ => hmessage) reader reader' k c).2.1
  · intro huser hdeveloper e' he'
    obtain ⟨-, fault, fault', hfault, hfails, hfails'⟩ :=
      readRecords_of_alike h.alike_read reader reader'
    simp only [read, read', hfails, hfails'] at he' ⊢
    cases hfault with
    | none => simp at he'
    | @some f f' hf =>
      obtain rfl : sec'.report f' = e' := Except.error.inj he'
      refine ⟨sec.report f, rfl, ?_⟩
      rw [StructureError.message_of_developer ((sec'.level_report f').trans hdeveloper),
        StructureError.message_of_user ((sec.level_report f).trans huser),
        sec.withoutLocation_report sec' hf]

theorem readRecords_misspelling (line : Nat) (document : Option String) (level : DetailLevel) :
    (Collector.readRecords { kept := {} } (.misspelling line document level)).1 =
      .error ((Section.misspelling line document level).told
        ⟨.undefinedProperty "Nope", Section.misspelled line, some "Nope"⟩ "new") := by
  have hfault : (harvest (.misspelling line document level) .shelf { kept := {} }).fault =
      some ⟨.undefinedProperty "Nope", Section.misspelled line, some "Nope"⟩ := by
    cbv
  have hname : (Section.misspelled line).comparableName = .ok "new" := by
    cbv
  exact (readRecords_of_fault hfault).trans
    (congrArg Except.error (Section.report_of_comparable _ _ (by simp) hname))

theorem readRecords_of_sameButLocation_misspelled :
    let sec := Section.misspelling 2 none .user
    let sec' := Section.misspelling 7 (some "b.xml") .developer
    let read (sec : Section) := Collector.readRecords { kept := {} } sec
    sec.SameButLocation sec' ∧
      (read sec).2.kept.records = [{ id := some "1" }] ∧
      (read sec').2.kept.records = (read sec).2.kept.records ∧
      (read sec).1.mapError StructureError.message =
        .error "Property 'Nope' is not defined\n  at <new Nope=...>" ∧
      ∃ e e', (read sec).1 = .error e ∧ (read sec').1 = .error e' ∧
        e'.locationLines = ["  in b.xml:7", "  element: <new Nope=\"x\"/>"] ∧
        e'.message = e.message ++ following e'.locationLines := by
  intro sec sec' read
  have hlocation : sec.SameButLocation sec' := ⟨rfl, rfl, rfl⟩
  obtain ⟨hrecords, -, -, -, -, hmessage⟩ :=
    readRecords_of_sameButLocation hlocation { kept := {} } { kept := {} } .journal { kept := [] }
  have hends := readRecords_misspelling 7 (some "b.xml") .developer
  obtain ⟨e, he, hmessage⟩ := hmessage rfl rfl _ hends
  refine ⟨hlocation, ?_, hrecords, ?_, e, _, he, hends, ?_, hmessage⟩
  · decide +kernel
  · rw [readRecords_misspelling]
    apply congrArg Except.error
    decide +kernel
  · decide +kernel

end Collector
end Catalog
