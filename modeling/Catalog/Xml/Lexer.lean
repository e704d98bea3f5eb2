import Catalog.Xml.Encoding
/-!
This module contains the pieces that a document is made of: tags, runs of text, comments,
processing instructions and the document type declaration. Reading a piece takes at least one
character, so a document is a finite list of pieces. The declaration may name a document type and
where it is found; entities and attributes that it declares itself are not supported.
-/

namespace Catalog.Xml

inductive Piece where
  | start (name : QName) (attributes : List (QName × String)) (closed : Bool)
  | finish (raw : List Char)
  | text (raw : List Char)
  | literal (text : List Char)
  | comment (text : List Char)
  | instruction (target : List Char) (data : Option (List Char))
  | doctype
  | broken (rest : List Char)
deriving Repr, Inhabited

namespace Lexer

def lineEnds : List Char → List Char
  | '\r' :: '\n' :: cs => '\n' :: lineEnds cs
  | '\r' :: cs => '\n' :: lineEnds cs
  | c :: cs => c :: lineEnds cs
  | [] => []

def digit? (base : Nat) (c : Char) : Option Nat :=
  if c.isDigit then some (c.toNat - '0'.toNat)
  else if base = 16 ∧ 'a' ≤ c ∧ c ≤ 'f' then some (c.toNat - 'a'.toNat + 10)
  else if base = 16 ∧ 'A' ≤ c ∧ c ≤ 'F' then some (c.toNat - 'A'.toNat + 10)
  else none

def numbered? (base : Nat) (digits : List Char) : Option Char := do
  if digits.isEmpty then none
  let n ← digits.foldlM (fun n c => (digit? base c).map (n * base + ·)) 0
  let c := Char.ofNat n
  if isChar c then some c else none

def reference? : List Char → Option Char
  | '#' :: 'x' :: digits => numbered? 16 digits
  | '#' :: digits => numbered? 10 digits
  | ['a', 'm', 'p'] => some '&'
  | ['l', 't'] => some '<'
  | ['g', 't'] => some '>'
  | ['q', 'u', 'o', 't'] => some '"'
  | ['a', 'p', 'o', 's'] => some '\''
  | _ => none

def expand (plain : Char → Option Char) (name : Option (List Char)) : List Char → Option (List Char)
  | [] => if name.isNone then some [] else none
  | c :: cs =>
    match name with
    | none =>
      if c = '&' then expand plain (some []) cs
      else (plain c).bind fun c => (expand plain none cs).map (c :: ·)
    | some name =>
      if c = ';' then
        (reference? name.reverse).bind fun c => (expand plain none cs).map (c :: ·)
      else
        expand plain (some (c :: name)) cs

def plainText (c : Char) : Option Char := if isChar c then some c else none

def plainValue (c : Char) : Option Char :=
  if c = '<' then none
  else if isBlank c then some ' '
  else if isChar c then some c
  else none

def split? (mark : List Char) : List Char → Option (List Char × List Char)
  | [] => none
  | c :: cs =>
    if mark.isPrefixOf (c :: cs) then
      some ([], (c :: cs).drop mark.length)
    else
      (split? mark cs).map fun (front, rest) => (c :: front, rest)

theorem length_le_of_split? {mark cs front rest : List Char}
    (h : split? mark cs = some (front, rest)) : rest.length ≤ cs.length := by
  induction cs generalizing front with
  | nil => simp [split?] at h
  | cons c cs ih =>
    by_cases hm : mark.isPrefixOf (c :: cs)
    · simp only [split?, hm, ↓reduceIte, Option.some.injEq, Prod.mk.injEq] at h
      simp [← h.2]
    · simp only [split?, hm, Bool.false_eq_true, ↓reduceIte, Option.map_eq_some_iff, Prod.mk.injEq,
        Prod.exists] at h
      obtain ⟨front', rest', h, _, rfl⟩ := h
      have := ih h
      simp
      omega

def dropBlanks (cs : List Char) : List Char := cs.dropWhile isBlank

theorem length_dropBlanks_le (cs : List Char) : (dropBlanks cs).length ≤ cs.length :=
  (List.dropWhile_suffix isBlank).length_le

def isQNameChar (c : Char) : Bool := isNameChar c || c == ':'

def isOpenEnded (run : List Char) : Bool :=
  -- Names take in half of the line end behind them unless they are proper ones.
  run.isEmpty || (QName.ofList? run).any QName.isMalformed

def name? (cs : List Char) : Option (QName × List Char) :=
  let run := cs.takeWhile isQNameChar
  match cs.dropWhile isQNameChar with
  | '\r' :: '\n' :: rest =>
    if isOpenEnded run then some (⟨none, String.ofList (run ++ ['\r'])⟩, '\n' :: rest)
    else (QName.ofList? run).map (·, '\r' :: '\n' :: rest)
  | rest => (QName.ofList? run).map (·, rest)

theorem length_le_of_name? {cs rest : List Char} {name : QName}
    (h : name? cs = some (name, rest)) : rest.length ≤ cs.length := by
  have hs := (List.dropWhile_suffix isQNameChar (l := cs)).length_le
  unfold name? at h
  split at h
  · rename_i hd
    rw [hd] at hs
    dsimp only at h
    split at h
    · simp only [Option.some.injEq, Prod.mk.injEq] at h
      rw [← h.2]
      simp only [List.length_cons] at hs ⊢
      omega
    · simp only [Option.map_eq_some_iff, Prod.mk.injEq] at h
      obtain ⟨_, _, _, rfl⟩ := h
      exact hs
  · simp only [Option.map_eq_some_iff, Prod.mk.injEq] at h
    obtain ⟨_, _, _, rfl⟩ := h
    exact hs

def attribute? (cs : List Char) : Option ((QName × String) × List Char) :=
  match name? cs with
  | none => none
  | some (name, rest) =>
    match dropBlanks rest with
    | '=' :: rest =>
      match dropBlanks rest with
      | quote :: rest =>
        if quote = '"' || quote = '\'' then
          match split? [quote] rest with
          | none => none
          | some (raw, rest) =>
            (expand plainValue none (lineEnds raw)).map fun value =>
              ((name, String.ofList value), rest)
        else
          none
      | [] => none
    | _ => none

theorem length_lt_of_attribute? {cs rest : List Char} {a : QName × String}
    (h : attribute? cs = some (a, rest)) : rest.length < cs.length := by
  unfold attribute? at h
  split at h
  · contradiction
  · rename_i name rest₁ hname
    split at h
    · rename_i rest₂ heq
      split at h
      · rename_i quote rest₃ hquote
        split at h
        · split at h
          · contradiction
          · rename_i raw rest₄ hsplit
            simp only [Option.map_eq_some_iff, Prod.mk.injEq] at h
            obtain ⟨_, _, _, rfl⟩ := h
            have h₁ := length_le_of_name? hname
            have h₂ := length_dropBlanks_le rest₁
            have h₃ := length_dropBlanks_le rest₂
            have h₄ := length_le_of_split? hsplit
            simp only [heq, hquote, List.length_cons] at h₂ h₃
            omega
        · contradiction
      · contradiction
    · contradiction

def attributes? (cs : List Char) : Option (List (QName × String) × Bool) :=
  match hd : dropBlanks cs with
  | [] => some ([], false)
  | ['/'] => some ([], true)
  | c :: rest =>
    if cs.head?.any isBlank then
      match h : attribute? (c :: rest) with
      | none => none
      | some (a, rest') =>
        have : rest'.length < cs.length := by
          have h₁ := length_dropBlanks_le cs
          have h₂ := length_lt_of_attribute? h
          rw [hd] at h₁
          omega
        (attributes? rest').map fun (as, closed) => (a :: as, closed)
    else
      none
termination_by cs.length

def tag? (quote : Option Char) : List Char → Option (List Char × List Char)
  -- Brackets in quotes, here behind the one that is given, end no tag.
  | [] => none
  | c :: cs =>
    if quote.isNone && c = '>' then
      some ([], cs)
    else
      let quote' :=
        match quote with
        | none => if c = '"' || c = '\'' then some c else none
        | some q => if c = q then none else some q
      (tag? quote' cs).map fun (raw, rest) => (c :: raw, rest)

theorem length_le_of_tag? {quote : Option Char} {cs raw rest : List Char}
    (h : tag? quote cs = some (raw, rest)) : rest.length ≤ cs.length := by
  induction cs generalizing quote raw with
  | nil => simp [tag?] at h
  | cons c cs ih =>
    unfold tag? at h
    split at h
    · simp only [Option.some.injEq, Prod.mk.injEq] at h
      simp [← h.2]
    · simp only [Option.map_eq_some_iff, Prod.mk.injEq, Prod.exists] at h
      obtain ⟨_, _, h, _, rfl⟩ := h
      have := ih h
      simp
      omega

def feeds (cs : List Char) : Nat := cs.count '\n'

def start? (cs : List Char) : Option ((Piece × Nat) × List Char) :=
  match tag? none cs with
  | none => none
  | some (raw, rest) =>
    match name? raw with
    | none => none
    | some (name, behind) =>
      (attributes? behind).map fun (as, closed) => ((.start name as closed, feeds raw), rest)

def finish? (cs : List Char) : Option ((Piece × Nat) × List Char) :=
  (split? ['>'] cs).map fun (raw, rest) => ((.finish raw, feeds raw), rest)

def isEndOf (name : QName) (raw : List Char) : Bool :=
  (Declaration.after? name.toString raw).any (·.all isBlank)

def comment? (cs : List Char) : Option ((Piece × Nat) × List Char) :=
  -- Two hyphens stand in a comment only where it ends.
  match split? ['-', '-'] cs with
  | some (text, '>' :: rest) =>
    if text.all isChar then some ((.comment (lineEnds text), feeds text), rest) else none
  | _ => none

def literal? (cs : List Char) : Option ((Piece × Nat) × List Char) :=
  match split? [']', ']', '>'] cs with
  | none => none
  | some (text, rest) =>
    if text.all isChar then some ((.literal (lineEnds text), feeds text), rest) else none

def isTarget (cs : List Char) : Bool :=
  -- The name of the XML declaration is refused in any case.
  isName cs && cs.map Char.toLower != ['x', 'm', 'l']

def instruction? (cs : List Char) : Option ((Piece × Nat) × List Char) :=
  match split? ['?', '>'] cs with
  | none => none
  | some (text, rest) =>
    let target := text.takeWhile isQNameChar
    let behind := text.dropWhile isQNameChar
    if isTarget target && text.all isChar then
      match behind with
      | [] => some ((.instruction target none, feeds text), rest)
      | c :: _ =>
        if isBlank c then
          some ((.instruction target (some (lineEnds (dropBlanks behind))), feeds text), rest)
        else
          none
    else
      none

def blanks? (cs : List Char) : Option (List Char) :=
  if cs.head?.any isBlank then some (dropBlanks cs) else none

def isPublicChar (c : Char) : Bool :=
  c.isAlphanum || [' ', '\r', '\n', '\''].contains c || "-()+,./:=?;!*#@$_%".toList.contains c

def afterQuoted? (isAllowed : Char → Bool) : List Char → Option (List Char)
  | [] => none
  | quote :: cs =>
    if quote = '"' || quote = '\'' then
      (split? [quote] cs).bind fun (text, rest) => if text.all isAllowed then some rest else none
    else
      none

def afterPlace? : List Char → Option (List Char)
  | 'S' :: 'Y' :: 'S' :: 'T' :: 'E' :: 'M' :: cs => (blanks? cs).bind (afterQuoted? isChar)
  | 'P' :: 'U' :: 'B' :: 'L' :: 'I' :: 'C' :: cs => do
    let cs ← (blanks? cs).bind (afterQuoted? isPublicChar)
    (blanks? cs).bind (afterQuoted? isChar)
  | cs => some cs

def declaresNothing (cs : List Char) : Bool :=
  match dropBlanks cs with
  | [] => true
  | '[' :: cs =>
    match dropBlanks cs with
    | ']' :: cs => cs.all isBlank
    | _ => false
  | _ => false

def isDoctype (raw : List Char) : Bool :=
  (blanks? raw).any fun cs =>
    isName (cs.takeWhile isQNameChar)
      && (afterPlace? (dropBlanks (cs.dropWhile isQNameChar))).any declaresNothing

def doctype? (cs : List Char) : Option ((Piece × Nat) × List Char) :=
  match tag? none cs with
  | none => none
  | some (raw, rest) => if isDoctype raw then some ((.doctype, feeds raw), rest) else none

def piece? : List Char → Option ((Piece × Nat) × List Char)
  | '<' :: '!' :: '-' :: '-' :: rest => comment? rest
  | '<' :: '!' :: '[' :: 'C' :: 'D' :: 'A' :: 'T' :: 'A' :: '[' :: rest => literal? rest
  | '<' :: '!' :: 'D' :: 'O' :: 'C' :: 'T' :: 'Y' :: 'P' :: 'E' :: rest => doctype? rest
  | '<' :: '?' :: rest => instruction? rest
  | '<' :: '/' :: rest => finish? rest
  | '<' :: rest => start? rest
  | [] => none
  | c :: rest =>
    let raw := c :: rest.takeWhile (· != '<')
    some ((.text raw, feeds raw), rest.dropWhile (· != '<'))

theorem length_le_of_comment? {cs rest : List Char} {p : Piece × Nat}
    (h : comment? cs = some (p, rest)) : rest.length ≤ cs.length := by
  unfold comment? at h
  split at h
  · rename_i hs
    have := length_le_of_split? hs
    simp only [Option.ite_none_right_eq_some, Option.some.injEq, Prod.mk.injEq] at h
    rw [← h.2.2]
    simp at this
    omega
  · contradiction

theorem length_le_of_literal? {cs rest : List Char} {p : Piece × Nat}
    (h : literal? cs = some (p, rest)) : rest.length ≤ cs.length := by
  unfold literal? at h
  split at h
  · contradiction
  · rename_i hs
    simp only [Option.ite_none_right_eq_some, Option.some.injEq, Prod.mk.injEq] at h
    rw [← h.2.2]
    exact length_le_of_split? hs

theorem length_le_of_instruction? {cs rest : List Char} {p : Piece × Nat}
    (h : instruction? cs = some (p, rest)) : rest.length ≤ cs.length := by
  unfold instruction? at h
  split at h
  · contradiction
  · rename_i hs
    have := length_le_of_split? hs
    grind

theorem length_le_of_doctype? {cs rest : List Char} {p : Piece × Nat}
    (h : doctype? cs = some (p, rest)) : rest.length ≤ cs.length := by
  unfold doctype? at h
  split at h
  · contradiction
  · rename_i ht
    simp only [Option.ite_none_right_eq_some, Option.some.injEq, Prod.mk.injEq] at h
    rw [← h.2.2]
    exact length_le_of_tag? ht

theorem length_le_of_finish? {cs rest : List Char} {p : Piece × Nat}
    (h : finish? cs = some (p, rest)) : rest.length ≤ cs.length := by
  simp only [finish?, Option.map_eq_some_iff, Prod.mk.injEq, Prod.exists] at h
  obtain ⟨_, _, hs, _, rfl⟩ := h
  exact length_le_of_split? hs

theorem length_le_of_start? {cs rest : List Char} {p : Piece × Nat}
    (h : start? cs = some (p, rest)) : rest.length ≤ cs.length := by
  unfold start? at h
  split at h
  · contradiction
  · rename_i ht
    have := length_le_of_tag? ht
    split at h
    · contradiction
    · simp only [Option.map_eq_some_iff, Prod.mk.injEq, Prod.exists] at h
      obtain ⟨_, _, _, _, rfl⟩ := h
      exact this

theorem length_lt_of_piece? {cs rest : List Char} {p : Piece × Nat}
    (h : piece? cs = some (p, rest)) : rest.length < cs.length := by
  unfold piece? at h
  split at h
  · have := length_le_of_comment? h
    simp
    omega
  · have := length_le_of_literal? h
    simp
    omega
  · have := length_le_of_doctype? h
    simp
    omega
  · have := length_le_of_instruction? h
    simp
    omega
  · have := length_le_of_finish? h
    simp
    omega
  · have := length_le_of_start? h
    simp
    omega
  · contradiction
  · rename_i c rest' _ _ _ _ _ _
    simp only [Option.some.injEq, Prod.mk.injEq] at h
    have := (List.dropWhile_suffix (· != '<') (l := rest')).length_le
    rw [← h.2]
    simp
    omega

/--
The pieces of a text that begins on the given line, each with the line on which it ends.
-/
def pieces (line : Nat) (cs : List Char) : List (Piece × Nat) :=
  if cs.isEmpty then
    []
  else
    match h : piece? cs with
    | none => [(.broken cs, line)]
    | some ((p, n), rest) =>
      have := length_lt_of_piece? h
      (p, line + n) :: pieces (line + n) rest
termination_by cs.length

end Lexer
end Catalog.Xml
