import Catalog.Value.Resolve
/-!
This module contains the proof that a raw value can be resolved just if it is made of tokens whose
references are all defined, and that it comes to what these tokens mean. No two lists of tokens are
written the same way.
-/

namespace Catalog.Value

theorem not_mem_of_isNameTail {cs : List Char} (h : isNameTail cs = true) : ')' ∉ cs := by
  induction cs with
  | nil => simp
  | cons c cs ih =>
    unfold isNameTail at h
    split at h
    · next heq => simp at heq
    · next heq =>
      rw [heq]
      decide
    · next d ds _ heq =>
      obtain ⟨rfl, rfl⟩ := List.cons.inj heq
      rw [Bool.and_eq_true] at h
      rw [List.mem_cons, not_or]
      refine ⟨?_, ih h.2⟩
      rintro rfl
      exact absurd h.1 (by decide)

theorem not_mem_of_isName {name : List Char} (h : isName name = true) : ')' ∉ name := by
  cases name with
  | nil => simp
  | cons c cs =>
    simp only [isName, Bool.and_eq_true] at h
    rw [List.mem_cons, not_or]
    refine ⟨?_, not_mem_of_isNameTail h.2⟩
    rintro rfl
    exact absurd h.1 (by decide)

namespace Token

def IsProper : Token → Prop
  | .char _ => True
  | .reference name => isName name = true

theorem render_ne_nil (t : Token) : t.render ≠ [] := by
  cases t with
  | char c => by_cases hc : c = '$' <;> simp [render, hc]
  | reference name => simp [render]

def renderAll (ts : List Token) : List Char := ts.flatMap render

theorem renderAll_cons (t : Token) (ts : List Token) :
    renderAll (t :: ts) = t.render ++ renderAll ts := by
  rfl

theorem renderAll_append (ts us : List Token) :
    renderAll (ts ++ us) = renderAll ts ++ renderAll us := by
  exact List.flatMap_append

theorem splitName_append {name : List Char} (h : ')' ∉ name) (rest : List Char) :
    splitName (name ++ ')' :: rest) = some (name, rest) := by
  induction name with
  | nil => rfl
  | cons c cs ih =>
    rw [List.mem_cons, not_or] at h
    rw [List.cons_append, splitName, if_neg (Ne.symm h.1), ih h.2]

theorem read_cons {c : Char} (h : c ≠ '$') (rest : List Char) :
    read (c :: rest) = read.push (.char c) (read rest) := by
  rw [read.eq_4, if_neg h]
  · intro rest' hc
    exact absurd hc h
  · intro rest' hc
    exact absurd hc h

theorem read_of_not_mem {cs : List Char} (h : '$' ∉ cs) : read cs = (cs.map .char, none) := by
  induction cs with
  | nil => apply read.eq_1
  | cons c cs ih =>
    rw [List.mem_cons, not_or] at h
    rw [read_cons (Ne.symm h.1), ih h.2]
    rfl

theorem read_reference {name : List Char} (h : isName name = true) (rest : List Char) :
    read ('$' :: '(' :: (name ++ ')' :: rest)) = read.push (.reference name) (read rest) := by
  have hsplit := splitName_append (not_mem_of_isName h) rest
  rw [read.eq_3]
  split
  · next heq =>
    rw [hsplit] at heq
    simp at heq
  · next heq =>
    rw [hsplit, Option.some.injEq, Prod.mk.injEq] at heq
    rw [heq.1] at h
    simp [isName] at h
  · next heq =>
    rw [hsplit, Option.some.injEq, Prod.mk.injEq] at heq
    obtain ⟨rfl, rfl⟩ := heq
    rw [if_pos h]

theorem read_render_append {t : Token} (h : t.IsProper) (rest : List Char) :
    read (t.render ++ rest) = read.push t (read rest) := by
  match t with
  | .char c =>
    by_cases hc : c = '$'
    · rw [hc]
      apply read.eq_2
    · simp only [render, if_neg hc, List.cons_append, List.nil_append]
      apply read_cons hc
  | .reference name =>
    have hrender : (reference name).render ++ rest = '$' :: '(' :: (name ++ ')' :: rest) := by
      simp [render]
    rw [hrender]
    apply read_reference h

theorem read_renderAll {ts : List Token} (h : ∀ t ∈ ts, t.IsProper) :
    read (renderAll ts) = (ts, none) := by
  induction ts with
  | nil => apply read.eq_1
  | cons t ts ih =>
    rw [List.forall_mem_cons] at h
    rw [renderAll_cons, read_render_append h.1, ih h.2]
    rfl

theorem read_push_eq {t : Token} {r : List Token × Option Reason} {ts : List Token}
    {mistake : Option Reason} (h : read.push t r = (ts, mistake)) :
    ∃ us, ts = t :: us ∧ r = (us, mistake) := by
  obtain ⟨us, mistake'⟩ := r
  obtain ⟨rfl, rfl⟩ := Prod.mk.inj h
  exact ⟨us, rfl, rfl⟩

theorem eq_renderAll_of_read {cs : List Char} {ts : List Token} (h : read cs = (ts, none)) :
    cs = renderAll ts ∧ ∀ t ∈ ts, t.IsProper := by
  fun_induction read cs generalizing ts with
  | case1 =>
    obtain ⟨rfl, -⟩ := Prod.mk.inj h
    simp [renderAll]
  | case2 rest ih =>
    obtain ⟨us, rfl, hus⟩ := read_push_eq h
    obtain ⟨hrest, hproper⟩ := ih hus
    rw [renderAll_cons, ← hrest, List.forall_mem_cons]
    exact ⟨rfl, trivial, hproper⟩
  | case3 => simp at h
  | case4 => simp at h
  | case5 rest name rest' _ hsplit _ hname ih =>
    obtain ⟨us, rfl, hus⟩ := read_push_eq h
    obtain ⟨hrest, hproper⟩ := ih hus
    rw [renderAll_cons, ← hrest, List.forall_mem_cons, (splitName_eq_some hsplit).1]
    refine ⟨?_, hname, hproper⟩
    simp [render]
  | case6 => simp at h
  | case7 => simp at h
  | case8 c rest _ _ hc ih =>
    obtain ⟨us, rfl, hus⟩ := read_push_eq h
    obtain ⟨hrest, hproper⟩ := ih hus
    rw [renderAll_cons, ← hrest, List.forall_mem_cons]
    refine ⟨?_, trivial, hproper⟩
    simp [render, hc]

def meaning? (lookup : String → Option String) : List Token → Option (List Char)
  | [] => some []
  | .char c :: ts => (meaning? lookup ts).map (c :: ·)
  | .reference name :: ts =>
    match lookup (String.ofList name), meaning? lookup ts with
    | some value, some text => some (value.toList ++ text)
    | _, _ => none

theorem meaning?_chars (lookup : String → Option String) (cs : List Char) :
    meaning? lookup (cs.map .char) = some cs := by
  induction cs with
  | nil => rfl
  | cons c cs ih =>
    rw [List.map_cons, meaning?, ih]
    rfl

theorem meaning?_append_chars (lookup : String → Option String) (cs : List Char)
    (ts : List Token) :
    meaning? lookup (cs.map .char ++ ts) = (meaning? lookup ts).map (cs ++ ·) := by
  induction cs with
  | nil => simp
  | cons c cs ih =>
    rw [List.map_cons, List.cons_append, meaning?, ih, Option.map_map]
    rfl

def IsDefined (lookup : String → Option String) : Token → Prop
  | .char _ => True
  | .reference name => ∃ value, lookup (String.ofList name) = some value

theorem exists_meaning?_iff {lookup : String → Option String} {ts : List Token} :
    (∃ text, meaning? lookup ts = some text) ↔ ∀ t ∈ ts, t.IsDefined lookup := by
  induction ts with
  | nil => simp [meaning?]
  | cons t ts ih =>
    rw [List.forall_mem_cons, ← ih]
    cases t with
    | char c =>
      cases hmeaning : meaning? lookup ts with
      | none => simp [meaning?, hmeaning]
      | some text => simp [meaning?, hmeaning, IsDefined]
    | reference name =>
      cases hvalue : lookup (String.ofList name) with
      | none => simp [meaning?, hvalue, IsDefined]
      | some value =>
        cases hmeaning : meaning? lookup ts with
        | none => simp [meaning?, hvalue, hmeaning]
        | some text => simp [meaning?, hvalue, hmeaning, IsDefined]

end Token

theorem Resolution.after_eq_ok_iff {before text : List Char} {r : Resolution} :
    (r.after before).result = .ok text ↔ ∃ rest, r.result = .ok rest ∧ before ++ rest = text := by
  unfold after
  cases r.result with
  | error f => simp [Except.map]
  | ok rest => simp [Except.map]

theorem evaluate_eq_ok_iff {lookup : String → Option String} {mistake : Option Reason}
    {position : Nat} {ts : List Token} {text : List Char} :
    (evaluate lookup mistake position ts).result = .ok text ↔
      mistake = none ∧ Token.meaning? lookup ts = some text := by
  induction ts generalizing position text with
  | nil =>
    cases mistake with
    | none => simp [evaluate, Token.meaning?]
    | some reason => simp [evaluate]
  | cons t ts ih =>
    match t with
    | .char c =>
      rw [evaluate, Resolution.after_eq_ok_iff, Token.meaning?, Option.map_eq_some_iff]
      simp only [ih, and_assoc, exists_and_left]
      rfl
    | .reference name =>
      rw [evaluate, Token.meaning?]
      cases lookup (String.ofList name) with
      | none => simp
      | some value =>
        simp only [Resolution.asking, Resolution.after_eq_ok_iff, ih, and_assoc, exists_and_left]
        cases Token.meaning? lookup ts with
        | none => simp
        | some rest => simp

theorem Resolution.after_nil (r : Resolution) : r.after [] = r := by
  obtain ⟨asked, result⟩ := r
  cases result with
  | error f => rfl
  | ok text => rfl

theorem Resolution.after_after (first second : List Char) (r : Resolution) :
    (r.after second).after first = r.after (first ++ second) := by
  obtain ⟨asked, result⟩ := r
  cases result with
  | error f => rfl
  | ok text => simp [after, Except.map]

theorem evaluate_append_chars (lookup : String → Option String) (mistake : Option Reason)
    (position : Nat) (cs : List Char) (ts : List Token) :
    evaluate lookup mistake position (cs.map .char ++ ts) =
      (evaluate lookup mistake (position + (Token.renderAll (cs.map .char)).length) ts).after
        cs := by
  induction cs generalizing position with
  | nil =>
    rw [List.map_nil, List.nil_append, Resolution.after_nil]
    rfl
  | cons c cs ih =>
    rw [List.map_cons, List.cons_append, evaluate, ih, Resolution.after_after, Token.renderAll_cons,
      List.length_append, Nat.add_assoc]
    rfl

theorem evaluate_chars (lookup : String → Option String) (position : Nat) (cs : List Char) :
    evaluate lookup none position (cs.map .char) = ⟨[], .ok cs⟩ := by
  rw [← List.append_nil (cs.map Token.char), evaluate_append_chars]
  simp [evaluate, Resolution.after, Except.map]

theorem resolve_eq_scan (lookup : String → Option String) (raw : List Char) :
    resolve lookup raw = scan lookup raw := by
  unfold resolve
  split
  · rfl
  · next h => rw [scan, Token.read_of_not_mem h, evaluate_chars]

theorem resolve_eq_ok_iff {lookup : String → Option String} {raw text : List Char} :
    (resolve lookup raw).result = .ok text ↔
      ∃ ts, (∀ t ∈ ts, t.IsProper) ∧ raw = Token.renderAll ts ∧
        Token.meaning? lookup ts = some text := by
  rw [resolve_eq_scan, scan, evaluate_eq_ok_iff]
  constructor
  · rintro ⟨hmistake, hmeaning⟩
    have hread : Token.read raw = ((Token.read raw).1, none) := by
      rw [← hmistake]
    obtain ⟨hraw, hproper⟩ := Token.eq_renderAll_of_read hread
    exact ⟨(Token.read raw).1, hproper, hraw, hmeaning⟩
  · rintro ⟨ts, hproper, rfl, hmeaning⟩
    rw [Token.read_renderAll hproper]
    exact ⟨rfl, hmeaning⟩

end Catalog.Value

namespace Catalog

variable {lookup : String → Option String} {raw : String}

theorem resolve?_eq_ok_iff_result {text : String} :
    resolve? lookup raw = .ok text ↔
      (Value.resolve lookup raw.toList).result = .ok text.toList := by
  unfold resolve?
  cases (Value.resolve lookup raw.toList).result with
  | error f => simp
  | ok cs =>
    rw [Except.ok.injEq, Except.ok.injEq]
    constructor
    · rintro rfl
      rw [String.toList_ofList]
    · rintro rfl
      rw [String.ofList_toList]

theorem resolve?_eq_error_iff_result {err : ValueError} :
    resolve? lookup raw = .error err ↔
      ∃ f, (Value.resolve lookup raw.toList).result = .error f ∧
        err = ⟨raw, f.reason, some f.position⟩ := by
  unfold resolve?
  cases (Value.resolve lookup raw.toList).result with
  | error f => simp [eq_comm]
  | ok cs => simp

theorem resolve?_eq_ok_iff {text : String} :
    resolve? lookup raw = .ok text ↔
      ∃ ts, (∀ t ∈ ts, t.IsProper) ∧ raw = String.ofList (Value.Token.renderAll ts) ∧
        Value.Token.meaning? lookup ts = some text.toList := by
  rw [resolve?_eq_ok_iff_result, Value.resolve_eq_ok_iff]
  constructor
  · rintro ⟨ts, hproper, hraw, hmeaning⟩
    refine ⟨ts, hproper, ?_, hmeaning⟩
    rw [← hraw, String.ofList_toList]
  · rintro ⟨ts, hproper, rfl, hmeaning⟩
    refine ⟨ts, hproper, ?_, hmeaning⟩
    rw [String.toList_ofList]

end Catalog
