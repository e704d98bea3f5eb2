import Catalog.Proofs.Lexical.Unlimited
import Catalog.Proofs.Traversal.Likeness
/-!
This module contains what a reading looks at in a tree: names, attributes, and the texts that are
values. Trees that have all of this in common are read alike, whatever else there is in them.
-/

namespace Catalog

open Xml (Element Attribute Node)

namespace Xml.Element

def node (e : Element) : Node := .element e.tag e.children

section

variable {P : Element → Prop}

mutual

theorem induction_node (h : ∀ e : Element, (∀ child ∈ e.elements, P child) → P e) (n : Node) :
    ∀ e ∈ n.element?, P e := by
  cases n with
  | element tag children =>
    intro e he
    obtain rfl : ⟨tag, children⟩ = e := Option.some.inj he
    apply h
    exact induction_nodes h children
  | text s => simp [Node.element?]
  | comment s => simp [Node.element?]
  | instruction target data => simp [Node.element?]

theorem induction_nodes (h : ∀ e : Element, (∀ child ∈ e.elements, P child) → P e)
    (ns : List Node) : ∀ e ∈ ns.filterMap Node.element?, P e := by
  cases ns with
  | nil => simp
  | cons n ns =>
    intro e he
    obtain ⟨n', hn', he⟩ := List.mem_filterMap.mp he
    cases hn' with
    | head => exact induction_node h n e he
    | tail _ hn' => exact induction_nodes h ns e (List.mem_filterMap.mpr ⟨n', hn', he⟩)

end

theorem induction (h : ∀ e : Element, (∀ child ∈ e.elements, P child) → P e) (e : Element) : P e :=
  h e (induction_nodes h e.children)

end

end Xml.Element

inductive Agree (R : Element → Element → Prop) {α : Type} :
    Except Fault α → Except Fault α → Prop where
  | ok (a : α) : Agree R (.ok a) (.ok a)
  | error {f f' : Fault} (h : Fault.Alike R f f') : Agree R (.error f) (.error f')

namespace Agree

variable {R : Element → Element → Prop} {α β : Type} {x x' : Except Fault α}

theorem bind (h : Agree R x x') {g g' : α → Except Fault β} (hg : ∀ a, Agree R (g a) (g' a)) :
    Agree R (x >>= g) (x' >>= g') := by
  cases h with
  | ok a => exact hg a
  | error h => exact .error h

theorem map (h : Agree R x x') (g : α → β) : Agree R (x.map g) (x'.map g) := by
  cases h with
  | ok a => exact .ok (g a)
  | error h => exact .error h

theorem mapM {γ : Type} {P : γ → γ → Prop} {ys ys' : List γ} (hys : List.Forall₂ P ys ys')
    {g g' : γ → Except Fault α} (hg : ∀ y y', P y y' → Agree R (g y) (g' y')) :
    Agree R (ys.mapM g) (ys'.mapM g') := by
  induction hys with
  | nil => exact .ok []
  | cons hy _ ih =>
    rw [List.mapM_cons, List.mapM_cons]
    apply (hg _ _ hy).bind
    intro a
    apply ih.bind
    intro as
    exact .ok (a :: as)

theorem of_with {e e' : Element} (hR : R e e') (h : x.mapError (Fault.with e) = x)
    (h' : x.mapError (Fault.with e') = x') : Agree R x x' := by
  cases x with
  | ok a =>
    rw [← h']
    exact .ok a
  | error f =>
    have helement : f.element = e := congrArg Fault.element (Except.error.inj h).symm
    rw [← h']
    apply Agree.error
    refine ⟨rfl, rfl, ?_⟩
    rw [helement]
    exact hR

variable (env : Environment) {e e' : Element} (hR : R e e') (hname : e'.name = e.name)
  (hattributes : e'.attributes = e.attributes)

include hR hattributes

theorem ofVariableElement : Agree R (env.ofVariableElement e) (env.ofVariableElement e') := by
  apply of_with hR
  · exact env.ofVariableElement_same rfl
  · exact env.ofVariableElement_same hattributes

include hname

theorem ofCommandElement : Agree R (env.ofCommandElement e) (env.ofCommandElement e') := by
  apply of_with hR
  · exact env.ofCommandElement_same rfl rfl
  · exact env.ofCommandElement_same hname hattributes

theorem ofChild (hcontent : e'.content = e.content) :
    Agree R (env.ofChild e) (env.ofChild e') := by
  apply of_with hR
  · exact env.ofChild_same rfl rfl rfl
  · exact env.ofChild_same hname hattributes hcontent

end Agree

structure Resemblance where
  outer : Element → Element → Prop
  inner : Element → Element → Prop
  name : ∀ e e', outer e e' ∨ inner e e' → e'.name = e.name
  attributes : ∀ e e', outer e e' ∨ inner e e' → e'.attributes = e.attributes
  content : ∀ e e', inner e e' → e'.content = e.content
  scope : ∀ e e', outer e e' → e.tag.OpensScope → List.Forall₂ outer e.elements e'.elements
  record : ∀ e e', outer e e' → ElementKind.ofName e.name = .record →
    List.Forall₂ inner e.elements e'.elements

namespace Resemblance

def Resembles (S : Resemblance) (e e' : Element) : Prop := S.outer e e' ∨ S.inner e e'

end Resemblance

namespace Lexical

variable {sec : Section} {limit : Option Nat} {level : Nat} {around : Surroundings}

theorem ofNodes_eq_foldr (ns : List Node) :
    ofNodes sec limit level around ns =
      (ns.filterMap Node.element?).foldr
        (fun e reading => (ofNode sec limit level around e.node).followedBy reading) {} := by
  induction ns with
  | nil => rfl
  | cons n ns ih =>
    rw [ofNodes, ih]
    cases n with
    | element tag children => rfl
    | text s => rfl
    | comment s => rfl
    | instruction target data => rfl

variable (S : Resemblance) {e e' : Element}

theorem agree_record (h : S.outer e e') (hkind : ElementKind.ofName e.name = .record) :
    Agree S.Resembles (record sec around e) (record sec around e') := by
  unfold record
  rw [S.attributes e e' (.inl h)]
  apply Agree.bind
  · apply Agree.of_with (.inl h)
    · simp only [mapM_mapError, Environment.ownAttribute_with]
    · simp only [mapM_mapError, Environment.ownAttribute_with]
  · intro own
    apply Agree.bind
    · apply Agree.bind
      · apply Agree.mapM (S.record e e' h hkind)
        intro child child' hchild
        apply Agree.ofChild _ (.inr hchild)
        · exact S.name _ _ (.inr hchild)
        · exact S.attributes _ _ (.inr hchild)
        · exact S.content _ _ hchild
      · intro commands
        exact .ok _
    · intro commands
      exact .ok _

theorem alike_ofRecord (h : S.outer e e') (hkind : ElementKind.ofName e.name = .record) :
    Reading.Alike S.Resembles (ofRecord sec around e) (ofRecord sec around e') := by
  have hagree : Agree S.Resembles (record sec around e) (record sec around e') :=
    agree_record S h hkind
  unfold ofRecord
  generalize record sec around e = made at hagree
  generalize record sec around e' = made' at hagree
  cases hagree with
  | ok r =>
    constructor
    · exact .cons ⟨rfl, .inl h⟩ .nil
    · exact .none
  | error hfault => exact .of_fault hfault [] []

theorem alike_ofScope {x x' : Except Fault (Surroundings × List ScopeKind)}
    (helements : List.Forall₂ S.outer e.elements e'.elements) (hopened : Agree S.Resembles x x')
    {inside inside' : Surroundings → Reading}
    (hinside : ∀ around, Reading.Alike S.Resembles (inside around) (inside' around)) :
    Reading.Alike S.Resembles (ofScope limit level e x inside)
      (ofScope limit level e' x' inside') := by
  unfold ofScope
  generalize e.elements = es at helements
  generalize e'.elements = es' at helements
  cases helements with
  | nil => exact .nothing
  | cons hfirst _ =>
    cases hopened with
    | error hfault => exact .of_fault hfault [] []
    | ok p =>
      obtain ⟨inner, scopes⟩ := p
      have hopen : Reading.Alike S.Resembles
          { inside inner with scopes := scopes ++ (inside inner).scopes }
          { inside' inner with scopes := scopes ++ (inside' inner).scopes } :=
        (hinside inner).with_scopes _ _
      cases limit with
      | none => exact hopen
      | some n =>
        simp only
        split
        · exact hopen
        · apply Reading.Alike.of_fault
          exact ⟨rfl, rfl, .inl hfirst⟩

theorem alike_ofNode_node (h : S.outer e e')
    (hinside : e.tag.OpensScope → ∀ (level : Nat) (around : Surroundings),
      Reading.Alike S.Resembles (ofNodes sec limit level around e.children)
        (ofNodes sec limit level around e'.children))
    (level : Nat) (around : Surroundings) :
    Reading.Alike S.Resembles (ofNode sec limit level around e.node)
      (ofNode sec limit level around e'.node) := by
  have hresembles : S.Resembles e e' := .inl h
  have hname : e'.name = e.name := S.name e e' hresembles
  have hattributes : e'.attributes = e.attributes := S.attributes e e' hresembles
  have hkind : ElementKind.ofName e'.tag.name = ElementKind.ofName e.tag.name :=
    congrArg ElementKind.ofName hname
  unfold Element.node ofNode
  rw [hkind]
  cases hfound : ElementKind.ofName e.tag.name with
  | record => exact alike_ofRecord S h hfound
  | command =>
    apply alike_ofScope S (S.scope e e' h (.inl hfound))
    · exact (Agree.ofCommandElement _ hresembles hname hattributes).map _
    · intro inner
      exact hinside (.inl hfound) (level + 1) inner
  | «variable» =>
    apply alike_ofScope S (S.scope e e' h (.inr hfound))
    · exact (Agree.ofVariableElement _ hresembles hattributes).map _
    · intro inner
      exact hinside (.inr hfound) (level + 1) inner
  | unknown =>
    rw [show e'.tag.name = e.tag.name from hname]
    apply Reading.Alike.of_fault
    exact ⟨rfl, rfl, hresembles⟩

theorem alike_ofNodes_of_elements {ns ns' : List Node}
    (h : List.Forall₂
      (fun e e' => Reading.Alike S.Resembles (ofNode sec limit level around e.node)
        (ofNode sec limit level around e'.node))
      (ns.filterMap Node.element?) (ns'.filterMap Node.element?)) :
    Reading.Alike S.Resembles (ofNodes sec limit level around ns)
      (ofNodes sec limit level around ns') := by
  rw [ofNodes_eq_foldr, ofNodes_eq_foldr]
  generalize ns.filterMap Node.element? = es at h
  generalize ns'.filterMap Node.element? = es' at h
  induction h with
  | nil => exact .nothing
  | cons hfirst _ ih => exact hfirst.followedBy ih

theorem alike_ofNode (e : Element) :
    ∀ e', S.outer e e' → ∀ (level : Nat) (around : Surroundings),
      Reading.Alike S.Resembles (ofNode sec limit level around e.node)
        (ofNode sec limit level around e'.node) := by
  induction e using Element.induction with
  | h e ih =>
    intro e' h
    apply alike_ofNode_node S h
    intro hopens level around
    apply alike_ofNodes_of_elements
    have hchildren := (List.forall₂_and_left _ _).mpr ⟨ih, S.scope e e' h hopens⟩
    apply hchildren.imp
    rintro child child' ⟨hchild, houter⟩
    exact hchild child' houter level around

theorem alike_read {sec' : Section} (hentity : sec'.entity = sec.entity)
    (hsubstitute : sec'.settings.substitute = sec.settings.substitute)
    (h : List.Forall₂ S.outer sec.element.elements sec'.element.elements) (limit : Option Nat) :
    Reading.Alike S.Resembles (read sec limit) (read sec' limit) := by
  unfold read
  rw [ofNodes_congr hentity hsubstitute]
  apply alike_ofNodes_of_elements
  apply h.imp
  intro e e' houter
  exact alike_ofNode S e e' houter 1 {}

end Lexical
end Catalog
