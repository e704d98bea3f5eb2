import Catalog.Text.Blank
/-!
This module contains records: an id, named values in the order in which the names were first given a
value, and tags. A value is a text or, for collections, a list of texts.
-/

namespace Catalog

inductive Content where
  | text (s : String)
  | items (xs : List String)
deriving DecidableEq, Repr, Inhabited

namespace Content

def addItem (x : String) : Option Content → Content
  | none => .items [x]
  | some (.text s) => .items [s, x]
  | some (.items xs) => .items (xs ++ [x])

def mapText (f : String → String) : Option Content → Content
  | none => .text (f "")
  | some (.text s) => .text (f s)
  | some (.items xs) => .items (xs.map f)

end Content

structure Record where
  id : Option String := none
  properties : List (String × Content) := []
  tags : List String := []
deriving DecidableEq, Repr, Inhabited

namespace Record

def get? (r : Record) (name : String) : Option Content := r.properties.lookup name

def contains (r : Record) (name : String) : Bool := (r.get? name).isSome

def alter (r : Record) (name : String) (f : Option Content → Content) : Record :=
  { r with properties := go r.properties }
where
  go : List (String × Content) → List (String × Content)
    | [] => [(name, f none)]
    | (n, c) :: ps => if n = name then (n, f (some c)) :: ps else (n, c) :: go ps

theorem get?_alter (r : Record) (name other : String) (f : Option Content → Content) :
    (r.alter name f).get? other =
      if other = name then some (f (r.get? name)) else r.get? other := by
  obtain ⟨id, ps, tags⟩ := r
  simp only [get?, alter]
  induction ps with
  | nil =>
    by_cases h : other = name
    · simp [alter.go, h]
    · simp [alter.go, List.lookup_cons, beq_eq_false_iff_ne.mpr h, h]
  | cons p ps ih =>
    obtain ⟨n, c⟩ := p
    by_cases hn : n = name
    · subst hn
      by_cases h : other = n
      · simp [alter.go, h]
      · simp [alter.go, List.lookup_cons, beq_eq_false_iff_ne.mpr h, h]
    · by_cases h : other = n
      · subst h
        simp [alter.go, hn]
      · simp [alter.go, hn, List.lookup_cons, beq_eq_false_iff_ne.mpr h,
          beq_eq_false_iff_ne.mpr (Ne.symm hn), ih]

def set (r : Record) (name : String) (c : Content) : Record := r.alter name fun _ => c

def addItem (r : Record) (name item : String) : Record := r.alter name (Content.addItem item)

def append (r : Record) (name text : String) : Record :=
  r.alter name (Content.mapText (· ++ text))

def prepend (r : Record) (name text : String) : Record :=
  r.alter name (Content.mapText (text ++ ·))

def addTag (r : Record) (tag : String) : Record :=
  if tag ∈ r.tags then r else { r with tags := r.tags ++ [tag] }

def hasTag (r : Record) (tag : String) : Bool := tag ∈ r.tags

def text? (r : Record) (name : String) : Option String :=
  (r.get? name).map fun
    | .text s => s
    | .items xs => ", ".intercalate xs

def items (r : Record) (name : String) : List String :=
  match r.get? name with
  | none => []
  | some (.text s) => [s]
  | some (.items xs) => xs

structure TruthError where
  property : String
  value : String
deriving DecidableEq, Repr, Inhabited

def TruthError.message (e : TruthError) : String :=
  "Property '" ++ e.property ++ "' value '" ++ e.value ++ "' is not a boolean"

def truth (r : Record) (name : String) (absent : Bool) : Except TruthError Bool :=
  match r.text? name with
  | none => .ok absent
  | some s =>
    let word := Text.trim Text.isBlank s.toList
    if Text.isWord "true" word then .ok true
    else if Text.isWord "false" word then .ok false
    else .error ⟨name, s⟩

def same (r s : Record) : Bool :=
  -- The order of the tags counts, that of the properties does not.
  r.id == s.id && r.tags == s.tags && r.properties.length == s.properties.length
    && r.properties.all fun (n, c) => s.get? n == some c

def ofList (id : Option String) (values : List (String × Content)) (tags : List String) : Record :=
  let filled : Record := values.foldl (fun (r : Record) (n, c) => r.set n c) {}
  { filled with id, tags }

end Record
end Catalog
