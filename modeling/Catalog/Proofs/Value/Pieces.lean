import Catalog.Proofs.Value.Rendering
/-!
This module contains the grammar of raw values: texts that stand for themselves and references to
variables, written one after the other. A raw value can be resolved just if it is written like this
and all its variables are defined; then they are asked for in the order of their references.
-/

namespace Catalog.Value

def IsVariableName (name : List Char) : Prop :=
  ∃ (first : Char) (others ending : List Char), name = first :: others ++ ending ∧
    (first.isAlpha ∨ first = '_') ∧
    (∀ c ∈ others, c.isAlphanum ∨ c = '_' ∨ c = '.' ∨ c = '-') ∧
    (ending = [] ∨ ending = ['\n'])

theorem isNameChar_iff {c : Char} :
    isNameChar c = true ↔ c.isAlphanum ∨ c = '_' ∨ c = '.' ∨ c = '-' := by
  simp [isNameChar, or_assoc]

theorem isNameTail_iff {cs : List Char} :
    isNameTail cs = true ↔ ∃ others ending, cs = others ++ ending ∧
      (∀ c ∈ others, isNameChar c = true) ∧ (ending = [] ∨ ending = ['\n']) := by
  induction cs with
  | nil =>
    constructor
    · intro _
      exact ⟨[], [], rfl, by simp, .inl rfl⟩
    · intro _
      rfl
  | cons c cs ih =>
    by_cases hline : c :: cs = ['\n']
    · rw [hline]
      constructor
      · intro _
        exact ⟨[], ['\n'], rfl, by simp, .inr rfl⟩
      · intro _
        rfl
    · rw [isNameTail.eq_3 c cs (fun hc hcs => hline (by rw [hc, hcs])), Bool.and_eq_true, ih]
      constructor
      · rintro ⟨hc, others, ending, rfl, hothers, hending⟩
        exact ⟨c :: others, ending, rfl, List.forall_mem_cons.mpr ⟨hc, hothers⟩, hending⟩
      · rintro ⟨others, ending, hcs, hothers, hending⟩
        cases others with
        | nil =>
          -- What is at the end would be all there is.
          obtain rfl | rfl := hending
          · simp at hcs
          · exact absurd hcs hline
        | cons d others =>
          obtain ⟨rfl, rfl⟩ := List.cons.inj hcs
          rw [List.forall_mem_cons] at hothers
          exact ⟨hothers.1, others, ending, rfl, hothers.2, hending⟩

theorem isName_iff {name : List Char} : isName name = true ↔ IsVariableName name := by
  unfold IsVariableName
  cases name with
  | nil => simp [isName]
  | cons c cs =>
    simp only [isName, isNameStart, Bool.and_eq_true, Bool.or_eq_true, beq_iff_eq, isNameTail_iff,
      isNameChar_iff]
    constructor
    · rintro ⟨hc, others, ending, rfl, hothers, hending⟩
      exact ⟨c, others, ending, rfl, hc, hothers, hending⟩
    · rintro ⟨first, others, ending, hcs, hfirst, hothers, hending⟩
      obtain ⟨rfl, rfl⟩ := List.cons.inj hcs
      exact ⟨hfirst, others, ending, rfl, hothers, hending⟩

/--
A piece of a raw value: a text that stands for itself, or a reference to a variable.
-/
inductive Piece where
  | literal (text : List Char)
  | reference (name : List Char)
deriving DecidableEq, Repr, Inhabited

namespace Piece

def write : Piece → List Char
  | .literal text => text.flatMap fun c => if c = '$' then ['$', '$'] else [c]
  | .reference name => '$' :: '(' :: name ++ [')']

def IsProper : Piece → Prop
  | .literal _ => True
  | .reference name => IsVariableName name

def name? : Piece → Option String
  | .literal _ => none
  | .reference name => some (String.ofList name)

def text (lookup : String → Option String) : Piece → List Char
  | .literal text => text
  | .reference name => ((lookup (String.ofList name)).getD "").toList

def Defined (lookup : String → Option String) (ps : List Piece) : Prop :=
  ∀ name ∈ ps.filterMap name?, ∃ value, lookup name = some value

theorem defined_reference_cons {lookup : String → Option String} {name : List Char}
    {ps : List Piece} :
    Defined lookup (.reference name :: ps) ↔
      (∃ value, lookup (String.ofList name) = some value) ∧ Defined lookup ps := by
  exact List.forall_mem_cons

def tokens : Piece → List Token
  | .literal text => text.map .char
  | .reference name => [.reference name]

def ofToken : Token → Piece
  | .char c => .literal [c]
  | .reference name => .reference name

theorem renderAll_tokens (ps : List Piece) :
    Token.renderAll (ps.flatMap tokens) = ps.flatMap write := by
  induction ps with
  | nil => rfl
  | cons p ps ih =>
    rw [List.flatMap_cons, List.flatMap_cons, Token.renderAll_append, ih]
    congr 1
    cases p with
    | literal text =>
      unfold Token.renderAll tokens write
      rw [List.flatMap_map]
      rfl
    | reference name =>
      unfold tokens write
      rw [Token.renderAll_cons]
      simp [Token.renderAll, Token.render]

theorem proper_of_mem_tokens {ps : List Piece} (h : ∀ p ∈ ps, p.IsProper) {t : Token}
    (ht : t ∈ ps.flatMap tokens) : t.IsProper := by
  obtain ⟨p, hp, ht⟩ := List.mem_flatMap.mp ht
  cases p with
  | literal text =>
    obtain ⟨c, -, rfl⟩ := List.mem_map.mp ht
    trivial
  | reference name =>
    obtain rfl := List.mem_singleton.mp ht
    exact isName_iff.mpr (h _ hp)

theorem proper_ofToken {t : Token} (h : t.IsProper) : (ofToken t).IsProper := by
  cases t with
  | char c => trivial
  | reference name => exact isName_iff.mp h

theorem write_ofToken (t : Token) : (ofToken t).write = t.render := by
  cases t with
  | char c => simp [ofToken, write, Token.render]
  | reference name => rfl

theorem defined_of_meaning? {lookup : String → Option String} {ts : List Token} {text : List Char}
    (h : Token.meaning? lookup ts = some text) : Defined lookup (ts.map ofToken) := by
  have hdefined := Token.exists_meaning?_iff.mp ⟨text, h⟩
  intro name hname
  obtain ⟨p, hp, hpname⟩ := List.mem_filterMap.mp hname
  obtain ⟨t, ht, rfl⟩ := List.mem_map.mp hp
  cases t with
  | char c => simp [ofToken, name?] at hpname
  | reference name' =>
    obtain rfl := Option.some.inj hpname
    exact hdefined (.reference name') ht

theorem evaluate_tokens {lookup : String → Option String} {ps : List Piece}
    (h : Defined lookup ps) (position : Nat) :
    evaluate lookup none position (ps.flatMap tokens) =
      ⟨ps.filterMap name?, .ok (ps.flatMap (text lookup))⟩ := by
  induction ps generalizing position with
  | nil => rfl
  | cons p ps ih =>
    cases p with
    | literal cs =>
      rw [List.flatMap_cons, tokens, evaluate_append_chars, ih h]
      rfl
    | reference name =>
      obtain ⟨⟨value, hvalue⟩, hrest⟩ := defined_reference_cons.mp h
      rw [List.flatMap_cons, tokens, List.singleton_append, evaluate]
      simp only [hvalue, ih hrest]
      simp [Resolution.after, Resolution.asking, Except.map, name?, text, hvalue]

end Piece

/--
A raw value can be resolved just if it is written as pieces whose variables are all defined. Then it
comes to what these stand for, and the names asked for are those of its references, in their order.
That a value without a `$` is not looked through makes no difference.
-/
theorem resolve_iff_pieces (lookup : String → Option String) (raw : List Char) :
    ((∃ text, (resolve lookup raw).result = .ok text) ↔
      ∃ ps : List Piece, (∀ p ∈ ps, p.IsProper) ∧ raw = ps.flatMap Piece.write ∧
        Piece.Defined lookup ps) ∧
    (∀ ps : List Piece, (∀ p ∈ ps, p.IsProper) → raw = ps.flatMap Piece.write →
      Piece.Defined lookup ps →
        resolve lookup raw = ⟨ps.filterMap Piece.name?, .ok (ps.flatMap (Piece.text lookup))⟩) ∧
    resolve lookup raw = scan lookup raw := by
  have hpieces (ps : List Piece) (hproper : ∀ p ∈ ps, p.IsProper)
      (hraw : raw = ps.flatMap Piece.write) (hdefined : Piece.Defined lookup ps) :
      resolve lookup raw = ⟨ps.filterMap Piece.name?, .ok (ps.flatMap (Piece.text lookup))⟩ := by
    rw [resolve_eq_scan, scan, hraw, ← Piece.renderAll_tokens,
      Token.read_renderAll fun t => Piece.proper_of_mem_tokens hproper]
    exact Piece.evaluate_tokens hdefined 0
  refine ⟨?_, hpieces, resolve_eq_scan lookup raw⟩
  constructor
  · rintro ⟨text, htext⟩
    obtain ⟨ts, hproper, rfl, hmeaning⟩ := resolve_eq_ok_iff.mp htext
    refine ⟨ts.map Piece.ofToken, ?_, ?_, Piece.defined_of_meaning? hmeaning⟩
    · intro p hp
      obtain ⟨t, ht, rfl⟩ := List.mem_map.mp hp
      exact Piece.proper_ofToken (hproper t ht)
    · rw [List.flatMap_map]
      simp only [Piece.write_ofToken]
      rfl
  · rintro ⟨ps, hproper, hraw, hdefined⟩
    exact ⟨_, congrArg Resolution.result (hpieces ps hproper hraw hdefined)⟩

theorem resolve_iff_pieces_doubled :
    let lookup (name : String) : Option String := if name = "a.b\n" then some "$(x)" else none
    let raw := "$$$(a.b\n)($$)".toList
    let ps : List Piece :=
      [.literal ['$'], .reference ['a', '.', 'b', '\n'], .literal ['(', '$', ')']]
    (∀ p ∈ ps, p.IsProper) ∧ raw = ps.flatMap Piece.write ∧ Piece.Defined lookup ps ∧
      resolve lookup raw = ⟨["a.b\n"], .ok "$$(x)($)".toList⟩ := by
  intro lookup raw ps
  have hproper : ∀ p ∈ ps, p.IsProper := by
    have hname : IsVariableName ['a', '.', 'b', '\n'] := isName_iff.mp (by decide)
    simp [ps, Piece.IsProper, hname]
  have hraw : raw = ps.flatMap Piece.write := by
    decide
  have hdefined : Piece.Defined lookup ps := by
    apply Piece.defined_reference_cons.mpr
    exact ⟨⟨"$(x)", by decide⟩, by simp [Piece.Defined, Piece.name?]⟩
  have hasked : ps.filterMap Piece.name? = ["a.b\n"] := by
    decide
  have htext : ps.flatMap (Piece.text lookup) = "$$(x)($)".toList := by
    decide
  refine ⟨hproper, hraw, hdefined, ?_⟩
  rw [(resolve_iff_pieces lookup raw).2.1 ps hproper hraw hdefined, hasked, htext]

end Catalog.Value
