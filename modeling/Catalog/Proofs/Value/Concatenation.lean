import Catalog.Proofs.Result
import Catalog.Proofs.Value.Rendering
/-!
This module contains the proof that a raw value can be cut behind every part that can be resolved:
what stands behind it is resolved as if it stood alone.
-/

namespace Catalog.Value

namespace Resolution

def moved (width : Nat) (r : Resolution) : Resolution :=
  { r with result := r.result.mapError fun f => { f with position := width + f.position } }

def behind (names : List String) (text : List Char) (r : Resolution) : Resolution where
  asked := names ++ r.asked
  result := r.result.map (text ++ ·)

theorem moved_after (width : Nat) (text : List Char) (r : Resolution) :
    (r.after text).moved width = (r.moved width).after text := by
  obtain ⟨asked, result⟩ := r
  cases result with
  | error f => rfl
  | ok rest => rfl

theorem moved_asking (width : Nat) (name : String) (r : Resolution) :
    (r.asking name).moved width = (r.moved width).asking name := by
  rfl

theorem behind_nil (r : Resolution) : r.behind [] [] = r := by
  exact after_nil r

theorem behind_after (names : List String) (first second : List Char) (r : Resolution) :
    (r.behind names second).after first = r.behind names (first ++ second) := by
  obtain ⟨asked, result⟩ := r
  cases result with
  | error f => rfl
  | ok rest => simp [behind, after, Except.map]

theorem behind_asking (name : String) (names : List String) (text : List Char) (r : Resolution) :
    (r.behind names text).asking name = r.behind (name :: names) text := by
  rfl

theorem behind_eq_ok_iff {names : List String} {text whole : List Char} {r : Resolution} :
    (r.behind names text).result = .ok whole ↔
      ∃ rest, r.result = .ok rest ∧ text ++ rest = whole := by
  exact after_eq_ok_iff

theorem moved_eq_ok_iff {width : Nat} {text : List Char} {r : Resolution} :
    (r.moved width).result = .ok text ↔ r.result = .ok text := by
  exact mapError_eq_ok_iff

theorem behind_moved_eq_error_iff {width : Nat} {names : List String} {text : List Char}
    {r : Resolution} {f : Failure} :
    ((r.moved width).behind names text).result = .error f ↔
      ∃ f', r.result = .error f' ∧ f = { f' with position := width + f'.position } := by
  simp only [behind, moved, map_eq_error_iff, mapError_eq_error_iff, eq_comm (a := f)]

end Resolution

theorem evaluate_moved (lookup : String → Option String) (mistake : Option Reason)
    (width position : Nat) (ts : List Token) :
    evaluate lookup mistake (width + position) ts =
      (evaluate lookup mistake position ts).moved width := by
  induction ts generalizing position with
  | nil =>
    cases mistake with
    | none => rfl
    | some reason => rfl
  | cons t ts ih =>
    cases t with
    | char c =>
      unfold evaluate
      rw [Nat.add_assoc, ih, Resolution.moved_after]
    | reference name =>
      simp only [evaluate]
      cases lookup (String.ofList name) with
      | none => rfl
      | some value =>
        simp only
        rw [Nat.add_assoc, ih, Resolution.moved_asking, Resolution.moved_after]

theorem evaluate_append {lookup : String → Option String} {position : Nat} {ts : List Token}
    {text : List Char} (h : (evaluate lookup none position ts).result = .ok text)
    (mistake : Option Reason) (us : List Token) :
    evaluate lookup mistake position (ts ++ us) =
      (evaluate lookup mistake (position + (Token.renderAll ts).length) us).behind
        (evaluate lookup none position ts).asked text := by
  induction ts generalizing position text with
  | nil =>
    obtain rfl : [] = text := Except.ok.inj h
    exact (Resolution.behind_nil _).symm
  | cons t ts ih =>
    rw [Token.renderAll_cons, List.length_append, ← Nat.add_assoc]
    cases t with
    | char c =>
      unfold evaluate at h
      obtain ⟨rest, hrest, rfl⟩ := Resolution.after_eq_ok_iff.mp h
      rw [List.cons_append, evaluate, ih hrest, Resolution.behind_after]
      rfl
    | reference name =>
      unfold evaluate at h
      cases hvalue : lookup (String.ofList name) with
      | none => simp [hvalue] at h
      | some value =>
        simp only [hvalue] at h
        obtain ⟨rest, hrest, rfl⟩ := Resolution.after_eq_ok_iff.mp h
        rw [List.cons_append, evaluate, evaluate]
        simp only [hvalue]
        rw [ih hrest, Resolution.behind_after, Resolution.behind_asking]
        rfl

theorem Token.read_renderAll_append {ts : List Token} (h : ∀ t ∈ ts, t.IsProper)
    (rest : List Char) :
    read (renderAll ts ++ rest) = (ts ++ (read rest).1, (read rest).2) := by
  induction ts with
  | nil => rfl
  | cons t ts ih =>
    rw [List.forall_mem_cons] at h
    rw [renderAll_cons, List.append_assoc, read_render_append h.1, ih h.2]
    rfl

theorem resolve_append {lookup : String → Option String} {first text : List Char}
    (h : (resolve lookup first).result = .ok text) (second : List Char) :
    resolve lookup (first ++ second) =
      ((resolve lookup second).moved first.length).behind (resolve lookup first).asked text := by
  obtain ⟨ts, hproper, rfl, -⟩ := resolve_eq_ok_iff.mp h
  rw [resolve_eq_scan, scan, Token.read_renderAll hproper] at h
  rw [resolve_eq_scan, resolve_eq_scan, resolve_eq_scan, scan, scan, scan,
    Token.read_renderAll_append hproper, Token.read_renderAll hproper, evaluate_append h,
    Nat.add_comm, evaluate_moved]

end Catalog.Value

namespace Catalog

/--
Behind a part that can be resolved a raw value is resolved as what stands there would be alone. It
can be resolved just if that can, to what the two come to one after the other; if it cannot, the
reason is the same, and the position is as many characters farther on as the first part has. The
names asked for are those of the first part and then those of the second.
-/
theorem resolve?_append {lookup : String → Option String} {first text : String}
    (h : resolve? lookup first = .ok text) (second : String) :
    ((∃ whole, resolve? lookup (first ++ second) = .ok whole) ↔
      ∃ rest, resolve? lookup second = .ok rest) ∧
    (∀ rest, resolve? lookup second = .ok rest →
      resolve? lookup (first ++ second) = .ok (text ++ rest)) ∧
    (∀ err, resolve? lookup second = .error err → ∃ position : Nat,
      err.position = some (position : Int) ∧ resolve? lookup (first ++ second) =
        .error ⟨first ++ second, err.reason, some ((first.length + position : Nat) : Int)⟩) ∧
    (Value.resolve lookup (first ++ second).toList).asked =
      (Value.resolve lookup first.toList).asked ++ (Value.resolve lookup second.toList).asked := by
  have happend := Value.resolve_append (resolve?_eq_ok_iff_result.mp h) second.toList
  rw [← String.toList_append] at happend
  have hok (rest : String) (hrest : resolve? lookup second = .ok rest) :
      resolve? lookup (first ++ second) = .ok (text ++ rest) := by
    rw [resolve?_eq_ok_iff_result] at hrest ⊢
    rw [happend, String.toList_append]
    apply Value.Resolution.behind_eq_ok_iff.mpr
    exact ⟨rest.toList, Value.Resolution.moved_eq_ok_iff.mpr hrest, rfl⟩
  have herror (err : ValueError) (herr : resolve? lookup second = .error err) :
      ∃ position : Nat, err.position = some (position : Int) ∧ resolve? lookup (first ++ second) =
        .error ⟨first ++ second, err.reason, some ((first.length + position : Nat) : Int)⟩ := by
    obtain ⟨f, hf, rfl⟩ := resolve?_eq_error_iff_result.mp herr
    refine ⟨f.position, rfl, ?_⟩
    rw [resolve?_eq_error_iff_result]
    refine ⟨{ f with position := first.length + f.position }, ?_, rfl⟩
    rw [happend]
    apply Value.Resolution.behind_moved_eq_error_iff.mpr
    exact ⟨f, hf, by rw [String.length_toList]⟩
  refine ⟨?_, hok, herror, congrArg Value.Resolution.asked happend⟩
  cases hsecond : resolve? lookup second with
  | ok rest => simp [hok rest hsecond]
  | error err =>
    obtain ⟨position, -, hwhole⟩ := herror err hsecond
    simp [hwhole]

theorem resolve?_append_unclosed :
    let lookup (name : String) : Option String := if name = "a" then some "$(" else none
    resolve? lookup "x$(a)$$" = .ok "x$($" ∧
      resolve? lookup "x$(a)$$y$(b" = .error ⟨"x$(a)$$y$(b", .unclosed, some 8⟩ ∧
      (Value.resolve lookup "x$(a)$$y$(b".toList).asked = ["a"] := by
  intro lookup
  have hfirst : resolve? lookup "x$(a)$$" = .ok "x$($" := by
    with_unfolding_all rfl
  have hsecond : resolve? lookup "y$(b" = .error ⟨"y$(b", .unclosed, some 1⟩ := by
    with_unfolding_all rfl
  obtain ⟨-, -, herror, hasked⟩ := resolve?_append hfirst "y$(b"
  obtain ⟨position, hposition, hwhole⟩ := herror _ hsecond
  obtain rfl : 1 = position := Int.ofNat.inj (Option.some.inj hposition)
  refine ⟨hfirst, hwhole, hasked.trans ?_⟩
  with_unfolding_all rfl

end Catalog
