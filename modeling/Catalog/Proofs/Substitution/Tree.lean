import Catalog.Environment
import Catalog.Proofs.Attribute
import Catalog.Proofs.Value.Rendering
/-!
This module contains trees in which the references to a variable are replaced by its value, with
every `$` of the value written twice. What is changed are the values that reading resolves where the
variable can be seen; resolving them without the variable comes to the same.
-/

namespace Catalog

namespace Value

def Token.replace (v : Variable) : Token → List Token
  | .char c => [.char c]
  | .reference name =>
    if String.ofList name = v.name then v.value.toList.map .char else [.reference name]

def replace (v : Variable) (raw : String) : String :=
  match Token.read raw.toList with
  | (ts, none) => String.ofList (Token.renderAll (ts.flatMap (Token.replace v)))
  | (_, some _) => raw

theorem replace_of_proper (v : Variable) {ts : List Token} (h : ∀ t ∈ ts, t.IsProper) :
    replace v (String.ofList (Token.renderAll ts)) =
      String.ofList (Token.renderAll (ts.flatMap (Token.replace v))) := by
  unfold replace
  rw [String.toList_ofList, Token.read_renderAll h]

namespace Token

variable {v : Variable}

theorem proper_of_mem_replace {t u : Token} (h : t.IsProper) (hu : u ∈ t.replace v) :
    u.IsProper := by
  match t with
  | .char c =>
    obtain rfl := List.mem_singleton.mp hu
    trivial
  | .reference name =>
    rw [replace] at hu
    split at hu
    · obtain ⟨c, -, rfl⟩ := List.mem_map.mp hu
      trivial
    · obtain rfl := List.mem_singleton.mp hu
      exact h

theorem meaning?_flatMap_replace {lookup lookup' : String → Option String}
    (hv : lookup v.name = some v.value)
    (hothers : ∀ name, name ≠ v.name → lookup' name = lookup name) (ts : List Token) :
    meaning? lookup' (ts.flatMap (replace v)) = meaning? lookup ts := by
  induction ts with
  | nil => rfl
  | cons t ts ih =>
    rw [List.flatMap_cons]
    match t with
    | .char c =>
      rw [replace, List.singleton_append, meaning?, meaning?, ih]
    | .reference name =>
      rw [replace, meaning?]
      by_cases hname : String.ofList name = v.name
      · rw [if_pos hname, meaning?_append_chars, ih, hname, hv]
        cases meaning? lookup ts with
        | none => rfl
        | some text => rfl
      · rw [if_neg hname, List.singleton_append, meaning?, ih, hothers _ hname]

end Token

theorem resolve?_replace {v : Variable} {lookup lookup' : String → Option String}
    (hv : lookup v.name = some v.value)
    (hothers : ∀ name, name ≠ v.name → lookup' name = lookup name) (raw : String) :
    Yields (resolve? lookup raw) (resolve? lookup' (replace v raw)) := by
  intro text htext
  rw [resolve?_eq_ok_iff] at htext ⊢
  obtain ⟨ts, hproper, rfl, hmeaning⟩ := htext
  refine ⟨ts.flatMap (Token.replace v), ?_, replace_of_proper v hproper, ?_⟩
  · intro u hu
    obtain ⟨t, ht, hu⟩ := List.mem_flatMap.mp hu
    exact Token.proper_of_mem_replace (hproper t ht) hu
  · rw [Token.meaning?_flatMap_replace hv hothers]
    exact hmeaning

end Value

namespace Xml

def Attribute.replace (v : Variable) (a : Attribute) : Attribute :=
  { a with value := Value.replace v a.value, spelled := Value.replace v a.spelled }

def replaceFirst (v : Variable) (name : String) : List Attribute → List Attribute
  | [] => []
  | a :: as => if a.name = name then a.replace v :: as else a :: replaceFirst v name as

theorem map_name_replace (v : Variable) (as : List Attribute) :
    (as.map (Attribute.replace v)).map (·.name) = as.map (·.name) := by
  rw [List.map_map]
  rfl

theorem map_name_replaceFirst (v : Variable) (name : String) (as : List Attribute) :
    (replaceFirst v name as).map (·.name) = as.map (·.name) := by
  induction as with
  | nil => rfl
  | cons a as ih =>
    unfold replaceFirst
    split
    · rfl
    · rw [List.map_cons, List.map_cons, ih]

namespace Tag

def replace (v : Variable) (t : Tag) : Tag :=
  { t with attributes := t.attributes.map (Attribute.replace v) }

def replaceValue (v : Variable) (t : Tag) : Tag :=
  { t with attributes := replaceFirst v "value" t.attributes }

def replaceCommand (v : Variable) (t : Tag) : Tag :=
  -- Of the attributes of an element that adds a tag, only its value is resolved.
  if CommandElement.ofName? t.name = some .tag then t.replaceValue v else t.replace v

theorem name_replaceCommand (v : Variable) (t : Tag) : (t.replaceCommand v).name = t.name := by
  unfold replaceCommand
  split
  · rfl
  · rfl

theorem names_replaceCommand (v : Variable) (t : Tag) :
    (t.replaceCommand v).attributes.map (·.name) = t.attributes.map (·.name) := by
  unfold replaceCommand
  split
  · apply map_name_replaceFirst
  · apply map_name_replace

end Tag

structure Retext where
  write : List Node → String → List Node
  contents_write : ∀ ns s, Node.contents (write ns s) = s

namespace Element

variable (v : Variable) (w : Retext)

def replaceInRecord (e : Element) : Element :=
  -- Without attributes it is the text of the element that is resolved, as one value.
  if e.attributes.isEmpty then
    ⟨e.tag, w.write e.children (Value.replace v e.content)⟩
  else
    ⟨e.tag.replaceCommand v, e.children⟩

def binds (e : Element) (name : String) : Bool :=
  match e.attribute? "name" with
  | .ok (some found) => found == name
  | _ => false

theorem attribute?_replaceValue (tag : Tag) (children children' : List Node) :
    Element.attribute? ⟨tag.replaceValue v, children'⟩ "value" =
      (Element.attribute? ⟨tag, children⟩ "value").map (Option.map (Value.replace v)) := by
  simp only [attribute?, attributes, Tag.replaceValue]
  induction tag.attributes with
  | nil => rfl
  | cons a as ih =>
    unfold replaceFirst
    split
    · next hname =>
      simp only [attribute?.go]
      have hname' : (a.replace v).name = a.name := rfl
      rw [hname', hname]
      rfl
    · next hname =>
      simp only [attribute?.go]
      cases hfound : comparable a.name with
      | error n => rfl
      | ok found =>
        obtain rfl := eq_of_comparable hfound
        simp only [bind, Except.bind]
        rw [if_neg hname, if_neg hname]
        exact ih

theorem attribute?_replaceValue_of_ne {name : String} (h : name ≠ "value") (tag : Tag)
    (children children' : List Node) :
    Element.attribute? ⟨tag.replaceValue v, children'⟩ name =
      Element.attribute? ⟨tag, children⟩ name := by
  simp only [attribute?, attributes, Tag.replaceValue]
  induction tag.attributes with
  | nil => rfl
  | cons a as ih =>
    unfold replaceFirst
    split
    · next hname =>
      simp only [attribute?.go]
      have hname' : (a.replace v).name = a.name := rfl
      rw [hname', hname]
      have hvalue : comparable "value" = .ok "value" := rfl
      rw [hvalue]
      simp only [bind, Except.bind]
      rw [if_neg (Ne.symm h), if_neg (Ne.symm h)]
    · simp only [attribute?.go, ih]

end Element

namespace Node

variable (v : Variable) (w : Retext)

def ofElement (e : Element) : Node := .element e.tag e.children

def replaceInRecord : Node → Node
  | .element tag children => ofElement (Element.replaceInRecord v w ⟨tag, children⟩)
  | .text s => .text s
  | .comment s => .comment s
  | .instruction target data => .instruction target data

mutual

def replace : Node → Node
  | .element tag children =>
    match ElementKind.ofName tag.name with
    | .record => .element (tag.replace v) (children.map (replaceInRecord v w))
    | .command =>
      if (Element.mk tag children).elements.isEmpty then
        .element tag children
      else
        .element (tag.replaceCommand v) (replaceAll children)
    | .variable =>
      if (Element.mk tag children).elements.isEmpty then
        .element tag children
      else if (Element.mk tag children).binds v.name then
        .element (tag.replaceValue v) children
      else
        .element (tag.replaceValue v) (replaceAll children)
    | .unknown => .element tag children
  | .text s => .text s
  | .comment s => .comment s
  | .instruction target data => .instruction target data

def replaceAll : List Node → List Node
  | [] => []
  | n :: ns => replace n :: replaceAll ns

end

theorem element?_replace_eq_none_iff (n : Node) :
    (n.replace v w).element? = none ↔ n.element? = none := by
  cases n with
  | element tag children =>
    unfold replace
    split
    · simp [element?]
    · split
      · simp [element?]
      · simp [element?]
    · split
      · simp [element?]
      · split
        · simp [element?]
        · simp [element?]
    · simp [element?]
  | text s => simp [replace]
  | comment s => simp [replace]
  | instruction target data => simp [replace]

theorem replaceAll_eq_map (ns : List Node) : replaceAll v w ns = ns.map (replace v w) := by
  induction ns with
  | nil => rfl
  | cons n ns ih =>
    unfold replaceAll
    rw [ih, List.map_cons]

end Node

theorem Element.isEmpty_elements_replaceAll (v : Variable) (w : Retext) (tag tag' : Tag)
    (children : List Node) :
    (Element.mk tag' (Node.replaceAll v w children)).elements.isEmpty =
      (Element.mk tag children).elements.isEmpty := by
  rw [Bool.eq_iff_iff, List.isEmpty_iff, List.isEmpty_iff]
  unfold elements
  rw [List.filterMap_eq_nil_iff, List.filterMap_eq_nil_iff, Node.replaceAll_eq_map]
  simp only [List.mem_map, forall_exists_index, and_imp, forall_apply_eq_imp_iff₂,
    Node.element?_replace_eq_none_iff]

end Xml
end Catalog
