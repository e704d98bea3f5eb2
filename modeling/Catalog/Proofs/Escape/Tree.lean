import Catalog.Proofs.Translation.Same
import Catalog.Proofs.Value.Rendering
/-!
This module contains trees in which every `$` of a value or a text is written twice. Resolving their
values comes to what the values of the original tree are as they stand.
-/

namespace Catalog

namespace Value

def escape (s : String) : String := String.ofList (Token.renderAll (s.toList.map .char))

theorem escape_append (s t : String) : escape (s ++ t) = escape s ++ escape t := by
  unfold escape
  rw [String.toList_append, List.map_append, Token.renderAll_append, String.ofList_append]

theorem proper_of_mem_chars {cs : List Char} {t : Token} (h : t ∈ cs.map Token.char) :
    t.IsProper := by
  obtain ⟨c, -, rfl⟩ := List.mem_map.mp h
  trivial

theorem resolve?_escape (lookup : String → Option String) (s : String) :
    resolve? lookup (escape s) = .ok s := by
  rw [resolve?_eq_ok_iff]
  refine ⟨s.toList.map .char, ?_, rfl, ?_⟩
  · intro t
    apply proper_of_mem_chars
  · apply Token.meaning?_chars

end Value

namespace Xml

open Value (escape escape_append)

def Attribute.escape (a : Attribute) : Attribute :=
  { a with value := Value.escape a.value, spelled := Value.escape a.spelled }

def Tag.escape (t : Tag) : Tag := { t with attributes := t.attributes.map Attribute.escape }

namespace Node

mutual

def escape : Node → Node
  | .element tag children => .element tag.escape (escapeAll children)
  | .text s => .text (Value.escape s)
  | .comment s => .comment s
  | .instruction target data => .instruction target data

def escapeAll : List Node → List Node
  | [] => []
  | n :: ns => n.escape :: escapeAll ns

end

mutual

theorem content_escape (n : Node) : n.escape.content = Value.escape n.content := by
  cases n with
  | element tag children =>
    unfold escape content
    apply contents_escapeAll
  | text s => rfl
  | comment s => rfl
  | instruction target data => rfl

theorem contents_escapeAll (ns : List Node) :
    contents (escapeAll ns) = Value.escape (contents ns) := by
  cases ns with
  | nil => rfl
  | cons n ns =>
    unfold escapeAll contents
    rw [escape_append, content_escape, contents_escapeAll]

end

end Node

namespace Element

def escape (e : Element) : Element := ⟨e.tag.escape, Node.escapeAll e.children⟩

theorem content_escape (e : Element) : e.escape.content = Value.escape e.content := by
  apply Node.contents_escapeAll

theorem elements_escape (e : Element) : e.escape.elements = e.elements.map Element.escape := by
  obtain ⟨tag, children⟩ := e
  simp only [elements, escape]
  induction children with
  | nil => rfl
  | cons n ns ih =>
    cases n with
    | element tag children =>
      simp only [Node.escapeAll, Node.escape, List.filterMap_cons, Node.element?, List.map_cons,
        ih]
      rfl
    | text s => exact ih
    | comment s => exact ih
    | instruction target data => exact ih

theorem attribute?_escape (e : Element) (name : String) :
    e.escape.attribute? name = (e.attribute? name).map (Option.map Value.escape) := by
  apply attribute?_of_map (g := Attribute.escape)
  · exact fun _ => rfl
  · exact fun _ => rfl
  · rfl

end Element
end Xml

def Fault.escape (f : Fault) : Fault := { f with element := f.element.escape }

def Variable.escape (v : Variable) : Variable := { v with name := Value.escape v.name }

open Xml (Element Attribute)

theorem Fault.mapError_escape {α : Type} {x y : Except Fault α} {e : Element}
    (h : x.mapError (Fault.with e) = x) (h' : x.mapError (Fault.with e.escape) = y) :
    y = x.mapError Fault.escape := by
  calc
    y = x.mapError (Fault.escape ∘ Fault.with e) := h'.symm
    _ = (x.mapError (Fault.with e)).mapError Fault.escape := (mapError_mapError _ _ x).symm
    _ = x.mapError Fault.escape := by rw [h]

structure Environment.Escapes (resolving plain : Environment) : Prop where
  entity : resolving.entity = plain.entity
  resolving : resolving.substitute = true
  plain : plain.substitute = false

namespace Environment

theorem retells_escape (a : Attribute) : a.Retells Value.escape a.escape where
  name := rfl
  value := rfl

theorem retellsChild_escape (e : Element) : RetellsChild Value.escape e e.escape where
  toRetells := Retells.of_map rfl retells_escape rfl
  content _ := e.content_escape

namespace Escapes

variable {env plain : Environment}

theorem transfersFaults (h : env.Escapes plain) : TransfersFaults Value.escape plain env where
  findProperty? := by rw [h.entity]
  resolves := by
    intro raw value hvalue
    unfold Resolves at hvalue ⊢
    rw [h.plain] at hvalue
    obtain rfl : raw = value := hvalue
    rw [h.resolving]
    exact Value.resolve?_escape env.lookup raw
  spoils := by
    intro raw err hsubstitute
    simp [h.plain] at hsubstitute

theorem ofCommandElement (h : env.Escapes plain) (e : Element) :
    env.ofCommandElement e.escape = (plain.ofCommandElement e).mapError Fault.escape := by
  apply Fault.mapError_escape
  · exact plain.ofCommandElement_same rfl rfl
  · exact h.transfersFaults.ofCommandElement (retellsChild_escape e).toRetells

theorem ofChildren (h : env.Escapes plain) (e : Element) :
    env.ofChildren e.escape = (plain.ofChildren e).mapError Fault.escape := by
  exact (h.transfersFaults.ofChildren retellsChild_escape e.elements_escape).symm

theorem ofVariableElement (h : env.Escapes plain) (e : Element) :
    env.ofVariableElement e.escape =
      ((plain.ofVariableElement e).map Variable.escape).mapError Fault.escape := by
  apply Fault.mapError_escape (e := e)
  · rw [mapError_map, plain.ofVariableElement_same rfl]
  · exact h.transfersFaults.ofVariableElement (e.attribute?_escape "name")
      (e.attribute?_escape "value")

theorem ownAttribute (h : env.Escapes plain) (e : Element) (a : Attribute) :
    Lexical.ofAttribute env e.escape a.escape =
      (Lexical.ofAttribute plain e a).mapError Fault.escape := by
  apply Fault.mapError_escape
  · exact plain.ownAttribute_with e e a
  · exact h.transfersFaults.ownAttribute (retells_escape a) e e.escape

end Escapes
end Environment
end Catalog
