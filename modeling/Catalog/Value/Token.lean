/-!
This module contains the tokens that a raw value is made of: characters that stand for themselves
and references to variables. `Token.read` splits a raw value into tokens up to the first mistake,
and `Token.render` writes a token back; a `$` that stands for itself is written twice.
-/

namespace Catalog.Value

inductive Reason where
  | strayMarker
  | unclosed
  | emptyName
  | badName (name : String)
  | undefined (name : String)
  | stated (text : String)
deriving DecidableEq, Repr, Inhabited

def Reason.message : Reason → String
  | .strayMarker => "'$' must be followed by '(' or '$'"
  | .unclosed => "variable reference is not closed with ')'"
  | .emptyName => "variable name is empty"
  | .badName name => "'" ++ name ++ "' is not a valid variable name"
  | .undefined name => "variable '" ++ name ++ "' is not defined"
  | .stated text => text

def isNameStart (c : Char) : Bool := c.isAlpha || c == '_'

def isNameChar (c : Char) : Bool := c.isAlphanum || c == '_' || c == '.' || c == '-'

def isNameTail : List Char → Bool
  | [] => true
  | ['\n'] => true
  | c :: cs => isNameChar c && isNameTail cs

def isName : List Char → Bool
  -- A line feed at the very end belongs to the name.
  | [] => false
  | c :: cs => isNameStart c && isNameTail cs

inductive Token where
  | char (c : Char)
  | reference (name : List Char)
deriving DecidableEq, Repr, Inhabited

namespace Token

def render : Token → List Char
  | .char c => if c = '$' then ['$', '$'] else [c]
  | .reference name => '$' :: '(' :: name ++ [')']

def width (t : Token) : Nat := t.render.length

def splitName : List Char → Option (List Char × List Char)
  | [] => none
  | c :: cs =>
    if c = ')' then
      some ([], cs)
    else
      match splitName cs with
      | none => none
      | some (name, rest) => some (c :: name, rest)

theorem splitName_eq_some {cs name rest : List Char} (h : splitName cs = some (name, rest)) :
    cs = name ++ ')' :: rest ∧ ')' ∉ name := by
  induction cs generalizing name rest with
  | nil => simp [splitName] at h
  | cons c cs ih =>
    by_cases hc : c = ')'
    · obtain ⟨rfl, rfl⟩ : [] = name ∧ cs = rest := by simpa [splitName, hc] using h
      simp [hc]
    · cases hs : splitName cs with
      | none => simp [splitName, hc, hs] at h
      | some p =>
        simp [splitName, hc, hs] at h
        have := ih hs
        simp [← h.1, ← h.2, this, Ne.symm hc]

theorem length_lt_of_splitName {cs name rest : List Char} (h : splitName cs = some (name, rest)) :
    rest.length < cs.length := by
  rw [(splitName_eq_some h).1]
  simp
  omega

/--
The tokens of a raw value up to its first mistake, if it has one.
-/
def read : List Char → List Token × Option Reason
  | [] => ([], none)
  | '$' :: '$' :: rest => push (.char '$') (read rest)
  | '$' :: '(' :: rest =>
    match h : splitName rest with
    | none => ([], some .unclosed)
    | some ([], _) => ([], some .emptyName)
    | some (name, rest') =>
      have := length_lt_of_splitName h
      if isName name then
        push (.reference name) (read rest')
      else
        ([], some (.badName (String.ofList name)))
  | c :: rest =>
    if c = '$' then ([], some .strayMarker) else push (.char c) (read rest)
termination_by cs => cs.length
where
  push (t : Token) (r : List Token × Option Reason) : List Token × Option Reason :=
    (t :: r.1, r.2)

end Token
end Catalog.Value
