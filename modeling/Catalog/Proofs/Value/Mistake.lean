import Catalog.Proofs.Value.Concatenation
import Catalog.Proofs.Value.Pieces
/-!
This module contains where the resolution of a raw value fails: at its first token that is wrong.
What stands in front of this token can be resolved, and unless the token only lacks its end, nothing
that may follow on it makes a difference.
-/

namespace Catalog.Value

def Reason.asked : Reason → List String
  | .undefined name => [name]
  | _ => []

/--
The tokens that are wrong, whatever comes behind them.
-/
inductive Wrong (lookup : String → Option String) : List Char → Reason → Prop where
  | stray {c : Char} (hmarker : c ≠ '$') (hbracket : c ≠ '(') : Wrong lookup ['$', c] .strayMarker
  | emptyName : Wrong lookup ['$', '(', ')'] .emptyName
  | badName {name : List Char} (hne : name ≠ []) (hclosed : ')' ∉ name)
    (hname : ¬ IsVariableName name) :
    Wrong lookup ('$' :: '(' :: name ++ [')']) (.badName (String.ofList name))
  | undefined {name : List Char} (hname : IsVariableName name)
    (hvalue : lookup (String.ofList name) = none) :
    Wrong lookup ('$' :: '(' :: name ++ [')']) (.undefined (String.ofList name))

/--
The ends of raw values that are wrong for what is missing behind them.
-/
inductive Unfinished : List Char → Reason → Prop where
  | marker : Unfinished ['$'] .strayMarker
  | reference {name : List Char} (hclosed : ')' ∉ name) : Unfinished ('$' :: '(' :: name) .unclosed

theorem Token.splitName_eq_none {cs : List Char} : splitName cs = none ↔ ')' ∉ cs := by
  induction cs with
  | nil => simp [splitName]
  | cons c cs ih =>
    unfold splitName
    by_cases hc : c = ')'
    · simp [hc]
    · rw [if_neg hc, List.mem_cons, not_or, ← ih]
      cases splitName cs with
      | none => simp [Ne.symm hc]
      | some p => simp

theorem Token.read_stray {c : Char} (hmarker : c ≠ '$') (hbracket : c ≠ '(') (rest : List Char) :
    read ('$' :: c :: rest) = ([], some .strayMarker) := by
  rw [read.eq_4]
  · rfl
  · rintro rest' - heq
    exact hmarker (List.cons.inj heq).1
  · rintro rest' - heq
    exact hbracket (List.cons.inj heq).1

theorem Token.read_marker : read ['$'] = ([], some .strayMarker) := by
  rw [read.eq_4]
  · rfl
  · rintro rest' - heq
    simp at heq
  · rintro rest' - heq
    simp at heq

theorem Token.read_unclosed {name : List Char} (h : ')' ∉ name) :
    read ('$' :: '(' :: name) = ([], some .unclosed) := by
  rw [read.eq_3]
  split
  · rfl
  · next hsplit => simp [splitName_eq_none.mpr h] at hsplit
  · next hsplit => simp [splitName_eq_none.mpr h] at hsplit

theorem Token.read_emptyName (rest : List Char) :
    read ('$' :: '(' :: ')' :: rest) = ([], some .emptyName) := by
  have hsplit : splitName (')' :: rest) = some ([], rest) := rfl
  rw [read.eq_3]
  split
  · next heq => simp [hsplit] at heq
  · rfl
  · next hne heq =>
    rw [hsplit] at heq
    obtain ⟨rfl, -⟩ := Prod.mk.inj (Option.some.inj heq)
    simp at hne

theorem Token.read_badName {name : List Char} (hne : name ≠ []) (hclosed : ')' ∉ name)
    (hname : isName name = false) (rest : List Char) :
    read ('$' :: '(' :: (name ++ ')' :: rest)) =
      ([], some (.badName (String.ofList name))) := by
  have hsplit := splitName_append hclosed rest
  rw [read.eq_3]
  split
  · next heq => simp [hsplit] at heq
  · next heq =>
    rw [hsplit] at heq
    obtain ⟨rfl, -⟩ := Prod.mk.inj (Option.some.inj heq)
    contradiction
  · next heq =>
    rw [hsplit] at heq
    obtain ⟨rfl, rfl⟩ := Prod.mk.inj (Option.some.inj heq)
    simp [hname]

variable {lookup : String → Option String}

theorem resolve_of_read {raw : List Char} {reason : Reason} (h : Token.read raw = ([], some reason)) :
    resolve lookup raw = ⟨[], .error ⟨reason, 0⟩⟩ := by
  rw [resolve_eq_scan, scan, h]
  rfl

theorem Wrong.resolve_append {token : List Char} {reason : Reason} (h : Wrong lookup token reason)
    (rest : List Char) :
    resolve lookup (token ++ rest) = ⟨reason.asked, .error ⟨reason, 0⟩⟩ := by
  cases h with
  | stray hmarker hbracket =>
    apply resolve_of_read
    apply Token.read_stray hmarker hbracket
  | emptyName =>
    apply resolve_of_read
    apply Token.read_emptyName
  | @badName name hne hclosed hname =>
    rw [← isName_iff, Bool.not_eq_true] at hname
    apply resolve_of_read
    rw [List.append_assoc, List.singleton_append]
    apply Token.read_badName hne hclosed hname
  | @undefined name hname hvalue =>
    rw [List.append_assoc, List.singleton_append, resolve_eq_scan, scan]
    have hread := Token.read_reference (isName_iff.mpr hname) rest
    simp only [List.cons_append, hread, Token.read.push, evaluate, hvalue]
    rfl

theorem Unfinished.resolve_eq {token : List Char} {reason : Reason} (h : Unfinished token reason) :
    resolve lookup token = ⟨reason.asked, .error ⟨reason, 0⟩⟩ := by
  cases h with
  | marker => exact resolve_of_read Token.read_marker
  | reference hclosed => exact resolve_of_read (Token.read_unclosed hclosed)

theorem resolve_render {t : Token} (h : t.IsProper) {text : List Char}
    (hmeaning : Token.meaning? lookup [t] = some text) :
    (resolve lookup t.render).result = .ok text := by
  apply resolve_eq_ok_iff.mpr
  refine ⟨[t], ?_, ?_, hmeaning⟩
  · simpa using h
  · simp [Token.renderAll]

theorem exists_beginning (lookup : String → Option String) {raw : List Char} (h : raw ≠ []) :
    (∃ token rest text, raw = token ++ rest ∧ token ≠ [] ∧
      (resolve lookup token).result = .ok text) ∨
    (∃ token rest reason, raw = token ++ rest ∧ Wrong lookup token reason) ∨
    ∃ reason, Unfinished raw reason := by
  have hrender {t : Token} (ht : t.IsProper) (rest : List Char) {text : List Char}
      (hmeaning : Token.meaning? lookup [t] = some text) (hraw : raw = t.render ++ rest) :
      ∃ token rest text, raw = token ++ rest ∧ token ≠ [] ∧
        (resolve lookup token).result = .ok text :=
    ⟨t.render, rest, text, hraw, t.render_ne_nil, resolve_render ht hmeaning⟩
  fun_cases Token.read raw with
  | case1 => contradiction
  | case2 rest =>
    left
    apply hrender (t := .char '$') trivial rest rfl rfl
  | case3 rest hsplit =>
    right; right
    exact ⟨_, .reference (Token.splitName_eq_none.mp hsplit)⟩
  | case4 rest rest' hsplit =>
    obtain ⟨rfl, -⟩ := Token.splitName_eq_some hsplit
    right; left
    exact ⟨_, rest', _, rfl, .emptyName⟩
  | case5 rest name rest' hne hsplit _ hname =>
    obtain ⟨rfl, -⟩ := Token.splitName_eq_some hsplit
    have hraw : '$' :: '(' :: (name ++ ')' :: rest') = ('$' :: '(' :: name ++ [')']) ++ rest' := by
      simp
    cases hvalue : lookup (String.ofList name) with
    | none =>
      right; left
      exact ⟨_, rest', _, hraw, .undefined (isName_iff.mp hname) hvalue⟩
    | some value =>
      left
      apply hrender (t := .reference name) hname rest' _ hraw
      · exact value.toList
      · simp [Token.meaning?, hvalue]
  | case6 rest name rest' hne hsplit _ hname =>
    obtain ⟨rfl, hclosed⟩ := Token.splitName_eq_some hsplit
    right; left
    refine ⟨'$' :: '(' :: name ++ [')'], rest', _, by simp, .badName hne hclosed ?_⟩
    rwa [← isName_iff]
  | case7 rest hmarker hbracket =>
    cases rest with
    | nil =>
      right; right
      exact ⟨_, .marker⟩
    | cons c rest =>
      right; left
      refine ⟨['$', c], rest, _, rfl, .stray ?_ ?_⟩
      · rintro rfl
        exact hmarker rest rfl rfl
      · rintro rfl
        exact hbracket rest rfl rfl
  | case8 c rest _ _ hc =>
    left
    apply hrender (t := .char c) trivial rest rfl
    simp [Token.render, hc]

theorem resolve_append_of_mistake {token rest : List Char} {reason : Reason}
    (h : Wrong lookup token reason ∨ Unfinished token reason ∧ rest = []) :
    resolve lookup (token ++ rest) = ⟨reason.asked, .error ⟨reason, 0⟩⟩ := by
  cases h with
  | inl hwrong => apply hwrong.resolve_append
  | inr hunfinished =>
    obtain ⟨hunfinished, rfl⟩ := hunfinished
    rw [List.append_nil, hunfinished.resolve_eq]

theorem head?_of_mistake {token rest : List Char} {reason : Reason}
    (h : Wrong lookup token reason ∨ Unfinished token reason ∧ rest = []) :
    (token ++ rest).head? = some '$' := by
  cases h with
  | inl hwrong => cases hwrong <;> rfl
  | inr hunfinished => cases hunfinished.1 <;> rfl

theorem resolve_append_of_error {before rest text : List Char} {reason : Reason}
    (hbefore : (resolve lookup before).result = .ok text)
    (h : resolve lookup rest = ⟨reason.asked, .error ⟨reason, 0⟩⟩) :
    resolve lookup (before ++ rest) =
      ⟨(resolve lookup before).asked ++ reason.asked, .error ⟨reason, before.length⟩⟩ := by
  rw [resolve_append hbefore, h]
  rfl

theorem exists_mistake {raw : List Char} {f : Failure} (h : (resolve lookup raw).result = .error f) :
    ∃ before token rest, raw = before ++ (token ++ rest) ∧
      (∃ text, (resolve lookup before).result = .ok text) ∧ f.position = before.length ∧
      (Wrong lookup token f.reason ∨ Unfinished token f.reason ∧ rest = []) := by
  induction hlength : raw.length using Nat.strongRecOn generalizing raw f with
  | ind n ih =>
    have hnil : resolve lookup [] = ⟨[], .ok []⟩ := by
      rw [resolve_eq_scan, scan, Token.read]
      rfl
    have hne : raw ≠ [] := by
      rintro rfl
      simp [hnil] at h
    obtain ⟨token, rest, text, rfl, htoken, htext⟩ | ⟨token, rest, reason, rfl, hwrong⟩ |
      ⟨reason, hunfinished⟩ := exists_beginning lookup hne
    -- A token that can be resolved is cut off, and the rest is shorter.
    · rw [resolve_append htext] at h
      obtain ⟨f', hf', rfl⟩ := Resolution.behind_moved_eq_error_iff.mp h
      have hshorter : rest.length < n := by
        have := List.length_pos_iff.mpr htoken
        simp only [List.length_append] at hlength
        omega
      obtain ⟨before, token', rest', rfl, ⟨text', htext'⟩, hposition, hmistake⟩ :=
        ih _ hshorter hf' rfl
      refine ⟨token ++ before, token', rest', by simp, ?_, by simp [hposition], hmistake⟩
      rw [resolve_append htext]
      exact ⟨text ++ text', by simp [Resolution.behind_eq_ok_iff, Resolution.moved_eq_ok_iff, htext']⟩
    · rw [hwrong.resolve_append] at h
      obtain rfl := Except.error.inj h
      exact ⟨[], token, rest, rfl, ⟨[], by rw [hnil]⟩, rfl, .inl hwrong⟩
    · rw [hunfinished.resolve_eq] at h
      obtain rfl := Except.error.inj h
      exact ⟨[], raw, [], by simp, ⟨[], by rw [hnil]⟩, rfl, .inr ⟨hunfinished, rfl⟩⟩

end Catalog.Value

namespace Catalog

open Value

variable {lookup : String → Option String}

theorem resolve?_append_of_error {before rest text : List Char} {reason : Reason}
    (hbefore : (resolve lookup before).result = .ok text)
    (h : resolve lookup rest = ⟨reason.asked, .error ⟨reason, 0⟩⟩) :
    resolve? lookup (String.ofList (before ++ rest)) =
      .error ⟨String.ofList (before ++ rest), reason, some (before.length : Int)⟩ := by
  apply resolve?_eq_error_iff_result.mpr
  refine ⟨⟨reason, before.length⟩, ?_, rfl⟩
  rw [String.toList_ofList, resolve_append_of_error hbefore h]

/--
A raw value cannot be resolved just if there is a part at its beginning that can be, with a `$`
behind it that begins a token that is wrong or lacks its end. The failure tells of the whole value
and of the place of this `$`, and the names asked for are those of the part in front of it, and one
more if this one is not defined. Whatever stands behind a token that is wrong, the failure is at the
same place and for the same reason.
-/
theorem resolve?_eq_error_iff {raw : String} {err : ValueError} :
    resolve? lookup raw = .error err ↔
      err.value = raw ∧ ∃ before token rest : List Char,
        raw.toList = before ++ (token ++ rest) ∧
        err.position = some (before.length : Int) ∧ raw.toList[before.length]? = some '$' ∧
        (∃ text, resolve? lookup (String.ofList before) = .ok text) ∧
        (resolve lookup raw.toList).asked = (resolve lookup before).asked ++ err.reason.asked ∧
        ((Wrong lookup token err.reason ∧ ∀ others : List Char,
            let raw' := String.ofList (before ++ (token ++ others))
            resolve? lookup raw' = .error ⟨raw', err.reason, err.position⟩) ∨
          Unfinished token err.reason ∧ rest = []) := by
  constructor
  · intro h
    obtain ⟨f, hf, rfl⟩ := resolve?_eq_error_iff_result.mp h
    obtain ⟨before, token, rest, hraw, ⟨text, htext⟩, hposition, hmistake⟩ := exists_mistake hf
    have hresolved : resolve? lookup (String.ofList before) = .ok (String.ofList text) := by
      rw [resolve?_eq_ok_iff_result, String.toList_ofList, String.toList_ofList, htext]
    refine ⟨rfl, before, token, rest, hraw, by rw [hposition], ?_, ⟨_, hresolved⟩, ?_, ?_⟩
    · rw [hraw, List.getElem?_append_right (Nat.le_refl _), Nat.sub_self, ← List.head?_eq_getElem?]
      exact head?_of_mistake hmistake
    · rw [hraw, resolve_append_of_error htext (resolve_append_of_mistake hmistake)]
    · refine hmistake.imp_left fun hwrong => ⟨hwrong, ?_⟩
      intro others
      rw [hposition]
      exact resolve?_append_of_error htext (hwrong.resolve_append others)
  · rintro ⟨hvalue, before, token, rest, hraw, hposition, -, ⟨text, htext⟩, -, hmistake⟩
    rw [resolve?_eq_ok_iff_result, String.toList_ofList] at htext
    have hfails := resolve_append_of_mistake (hmistake.imp_left And.left)
    have herror := resolve?_append_of_error htext hfails
    rw [← hraw, String.ofList_toList, ← hposition] at herror
    rw [herror, ← hvalue]

example : resolve? (fun _ => none) "$$ $(a) $(" = .error ⟨"$$ $(a) $(", .undefined "a", some 3⟩ := by
  cbv

end Catalog
