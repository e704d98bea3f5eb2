import Catalog.Proofs.Lexical.Resemblance
import Catalog.Proofs.Rewriting.Site
import Catalog.Proofs.Traversal.Carries
/-!
This module contains the proof that nodes at a place can be exchanged for others that are read to
the same records wherever they stand, however deep they may be nested.
-/

namespace Catalog

open Xml (Element Node)

namespace Lexical

open Reading (Carries carries_refl carries_followedBy)

variable {sec : Section} {limit : Option Nat} {level : Nat} {around : Surroundings}

theorem ofNodes_of_elements_eq_nil {ns : List Node} (h : ns.filterMap Node.element? = []) :
    ofNodes sec limit level around ns = {} := by
  rw [ofNodes_eq_foldr, h]
  rfl

theorem carries_nothing_ofScope {inside : Surroundings → Reading}
    (h : ∀ inner, Carries (inside inner) {}) (e : Element)
    (opened : Except Fault (Surroundings × List ScopeKind)) :
    Carries (ofScope limit level e opened inside) {} := by
  by_cases hempty : e.elements.isEmpty
  · rw [ofScope_of_isEmpty hempty]
    apply carries_refl
  · intro hfault
    obtain ⟨inner, scopes, rfl, hdeep, hinside⟩ := exists_of_ofScope hempty hfault
    rw [ofScope_of_ok hempty scopes inside hdeep]
    exact (h inner hinside).with_scopes _ []

theorem carries_inside {tag : Xml.Tag} (hopens : tag.OpensScope) {children children' : List Node}
    (hempty : children.filterMap Node.element? = [] → children'.filterMap Node.element? = [])
    (h : ∀ level inner, Carries (ofNodes sec limit level inner children)
      (ofNodes sec limit level inner children')) :
    Carries (ofNode sec limit level around (.element tag children))
      (ofNode sec limit level around (.element tag children')) := by
  by_cases hempty' : children'.filterMap Node.element? = []
  · rw [ofNode_of_isEmpty hopens (List.isEmpty_iff.mpr hempty')]
    have hnothing (level : Nat) (inner : Surroundings) :
        Carries (ofNodes sec limit level inner children) {} := by
      have hcarries := h level inner
      rwa [ofNodes_of_elements_eq_nil hempty'] at hcarries
    unfold ofNode
    obtain hkind | hkind := hopens
    · rw [hkind]
      exact carries_nothing_ofScope (hnothing (level + 1)) _ _
    · rw [hkind]
      exact carries_nothing_ofScope (hnothing (level + 1)) _ _
  · have hsome : (Element.mk tag children').elements.isEmpty =
        (Element.mk tag children).elements.isEmpty := by
      unfold Element.elements
      rw [List.isEmpty_eq_false_iff.mpr hempty', List.isEmpty_eq_false_iff.mpr (mt hempty hempty')]
    obtain hkind | hkind := hopens
    · apply carries_command (Nat.le_refl level) hkind hkind hsome
      · intro commands hcommands
        exact (around.environment sec).ofCommandElement_of_tag hcommands children'
      · intro commands _
        exact h (level + 1) (around.inherit commands)
    · apply carries_variable (Nat.le_refl level) hkind hkind hsome
      · intro v hv
        exact (around.environment sec).ofVariableElement_of_tag hv children'
      · intro v _
        exact h (level + 1) (around.bind v)

end Lexical

namespace Site

open Lexical (ofNodes ofNodes_append)
open Reading (Carries carries_refl carries_followedBy)

variable {sec : Section} {limit : Option Nat} {ns ns' : List Node}

theorem elements_fill_eq_nil {site : Site}
    (hempty : ns.filterMap Node.element? = [] → ns'.filterMap Node.element? = [])
    (h : (site.fill ns).filterMap Node.element? = []) :
    (site.fill ns').filterMap Node.element? = [] := by
  cases site with
  | here before after =>
    unfold fill at h ⊢
    rw [List.filterMap_append, List.filterMap_append, List.append_eq_nil_iff,
      List.append_eq_nil_iff] at h ⊢
    exact ⟨⟨h.1.1, hempty h.1.2⟩, h.2⟩
  | inside before tag site after => simp [fill, Node.element?] at h

theorem carries_fill {site : Site} (hwalked : site.Walked)
    (hempty : ns.filterMap Node.element? = [] → ns'.filterMap Node.element? = [])
    (h : ∀ level inner,
      Carries (ofNodes sec limit level inner ns) (ofNodes sec limit level inner ns'))
    (level : Nat) (around : Surroundings) :
    Carries (ofNodes sec limit level around (site.fill ns))
      (ofNodes sec limit level around (site.fill ns')) := by
  induction site generalizing level around with
  | here before after =>
    unfold fill
    rw [ofNodes_append, ofNodes_append, ofNodes_append, ofNodes_append]
    apply carries_followedBy
    · apply carries_followedBy
      · apply carries_refl
      · apply h
    · apply carries_refl
  | inside before tag site after ih =>
    unfold fill
    rw [ofNodes_append, ofNodes_append, ofNodes, ofNodes]
    apply carries_followedBy
    · apply carries_refl
    · apply carries_followedBy
      · apply Lexical.carries_inside hwalked.1
        · exact elements_fill_eq_nil hempty
        · exact ih hwalked.2
      · apply carries_refl

end Site

theorem Collector.readRecords_put_of_carries {sec : Section} {site : Site} {ns ns' : List Node}
    (hwalked : site.Walked)
    (hempty : ns.filterMap Node.element? = [] → ns'.filterMap Node.element? = [])
    (h : ∀ limit level inner, Reading.Carries (Lexical.ofNodes sec limit level inner ns)
      (Lexical.ofNodes sec limit level inner ns'))
    {reader : Collector Shelf} {rs : List Record}
    (hread : (reader.readRecords (sec.put site ns)).1 = .ok rs) (reader' : Collector Shelf) :
    (reader'.readRecords (sec.put site ns')).1 = .ok rs := by
  have hput (limit : Option Nat) (ns : List Node) : Lexical.read (sec.put site ns) limit =
      Lexical.ofNodes sec limit 1 {} (site.fill ns) := by
    apply Lexical.ofNodes_with
  have hcarries : Reading.Carries
      (Lexical.read (sec.put site ns) (some (sec.put site ns).settings.maxDepth))
      (Lexical.read (sec.put site ns') (some (sec.put site ns').settings.maxDepth)) := by
    rw [hput, hput]
    exact Site.carries_fill hwalked hempty (h _) 1 {}
  exact readRecords_of_carries hcarries hread reader'

end Catalog
