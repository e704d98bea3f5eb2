import Mathlib.Data.List.Forall2
/-!
This module contains how results that may be errors are taken apart: those that come one behind the
other, those that are changed afterwards, and those of all members of a list.
-/

namespace Catalog

variable {ε ε' ε'' α β γ : Type}

theorem return_ne_error (a : α) (e : ε) : (pure a : Except ε α) ≠ .error e := by
  simp [pure, Except.pure]

theorem throw_ne_ok (e : ε) (a : α) : (throw e : Except ε α) ≠ .ok a := by
  simp [throw, throwThe, MonadExceptOf.throw]

theorem bind_eq_ok_iff {x : Except ε α} {f : α → Except ε β} {b : β} :
    x >>= f = .ok b ↔ ∃ a, x = .ok a ∧ f a = .ok b := by
  cases x with
  | error e =>
    have hbind : (Except.error e >>= f) = .error e := rfl
    simp [hbind]
  | ok a =>
    have hbind : (Except.ok a >>= f) = f a := rfl
    simp [hbind]

theorem bind_eq_error_iff {x : Except ε α} {f : α → Except ε β} {e : ε} :
    x >>= f = .error e ↔ x = .error e ∨ ∃ a, x = .ok a ∧ f a = .error e := by
  cases x with
  | error e' =>
    have hbind : (Except.error e' >>= f) = .error e' := rfl
    simp [hbind]
  | ok a =>
    have hbind : (Except.ok a >>= f) = f a := rfl
    simp [hbind]

theorem map_eq_ok_iff {x : Except ε α} {f : α → β} {b : β} :
    x.map f = .ok b ↔ ∃ a, x = .ok a ∧ f a = b := by
  cases x with
  | error e => simp [Except.map]
  | ok a => simp [Except.map]

theorem map_eq_error_iff {x : Except ε α} {f : α → β} {e : ε} :
    x.map f = .error e ↔ x = .error e := by
  cases x with
  | error e' => simp [Except.map]
  | ok a => simp [Except.map]

theorem mapError_eq_ok_iff {x : Except ε α} {g : ε → ε'} {a : α} :
    x.mapError g = .ok a ↔ x = .ok a := by
  cases x with
  | error e => simp [Except.mapError]
  | ok b => simp [Except.mapError]

theorem mapError_eq_error_iff {x : Except ε α} {g : ε → ε'} {e : ε'} :
    x.mapError g = .error e ↔ ∃ e', x = .error e' ∧ g e' = e := by
  cases x with
  | error e' => simp [Except.mapError]
  | ok a => simp [Except.mapError]

theorem mapError_eq_of {x : Except ε α} {y : Except ε' α} {g : ε → ε'}
    (hok : ∀ a, x = .ok a → y = .ok a) (herror : ∀ e, x = .error e → y = .error (g e)) :
    x.mapError g = y := by
  cases x with
  | error e => exact (herror e rfl).symm
  | ok a => exact (hok a rfl).symm

theorem mapError_bind (g : ε → ε') (x : Except ε α) (f : α → Except ε β) :
    (x >>= f).mapError g = x.mapError g >>= fun a => (f a).mapError g := by
  cases x with
  | error e => rfl
  | ok a => rfl

theorem mapError_mapError (g : ε → ε') (g' : ε' → ε'') (x : Except ε α) :
    (x.mapError g).mapError g' = x.mapError (g' ∘ g) := by
  cases x with
  | error e => rfl
  | ok a => rfl

theorem mapError_map (g : ε → ε') (f : α → β) (x : Except ε α) :
    (x.map f).mapError g = (x.mapError g).map f := by
  cases x with
  | error e => rfl
  | ok a => rfl

theorem map_mapError_map (g : ε → ε') (f : α → β) (f' : β → γ) (x : Except ε α) :
    ((x.map f).mapError g).map f' = (x.mapError g).map fun a => f' (f a) := by
  cases x with
  | error e => rfl
  | ok a => rfl

theorem mapM_mapError (g : ε → ε') (f : α → Except ε β) (xs : List α) :
    (xs.mapM f).mapError g = xs.mapM fun x => (f x).mapError g := by
  induction xs with
  | nil => rfl
  | cons x xs ih =>
    rw [List.mapM_cons, List.mapM_cons, mapError_bind, ← ih]
    congr 1
    funext y
    rw [mapError_bind]
    rfl

theorem mapM_eq_ok_iff {f : α → Except ε β} {xs : List α} {ys : List β} :
    xs.mapM f = .ok ys ↔ List.Forall₂ (fun x y => f x = .ok y) xs ys := by
  induction xs generalizing ys with
  | nil =>
    rw [List.forall₂_nil_left_iff]
    exact ⟨fun h => (Except.ok.inj h).symm, fun h => h ▸ rfl⟩
  | cons x xs ih =>
    rw [List.mapM_cons, List.forall₂_cons_left_iff]
    constructor
    · intro h
      obtain ⟨y, hy, h⟩ := bind_eq_ok_iff.mp h
      obtain ⟨ys', hys', h⟩ := bind_eq_ok_iff.mp h
      exact ⟨y, ys', hy, ih.mp hys', (Except.ok.inj h).symm⟩
    · rintro ⟨y, ys', hy, hys', rfl⟩
      rw [hy, ih.mpr hys']
      rfl

theorem exists_of_mem_forall₂ {R : α → β → Prop} {xs : List α} {ys : List β}
    (h : List.Forall₂ R xs ys) {y : β} (hy : y ∈ ys) : ∃ x ∈ xs, R x y := by
  induction h with
  | nil => simp at hy
  | @cons x y' xs ys hx _ ih =>
    rw [List.mem_cons] at hy
    obtain rfl | hy := hy
    · exact ⟨x, List.mem_cons_self, hx⟩
    · obtain ⟨x', hx', hxy⟩ := ih hy
      exact ⟨x', List.mem_cons_of_mem x hx', hxy⟩

theorem mapM_eq_error_iff {f : α → Except ε β} {xs : List α} {e : ε} :
    xs.mapM f = .error e ↔ ∃ before x after, xs = before ++ x :: after ∧
      (∀ x' ∈ before, ∃ y, f x' = .ok y) ∧ f x = .error e := by
  induction xs with
  | nil =>
    constructor
    · intro h
      have hok : Except.ok [] = .error e := h
      simp at hok
    · rintro ⟨before, x, after, h, -⟩
      simp at h
  | cons x xs ih =>
    rw [List.mapM_cons]
    cases hx : f x with
    | error e' =>
      constructor
      · intro h
        obtain rfl : e' = e := Except.error.inj h
        exact ⟨[], x, xs, rfl, by simp, hx⟩
      · rintro ⟨before, x', after, hxs, hbefore, herror⟩
        cases before with
        | nil =>
          obtain ⟨rfl, rfl⟩ := List.cons.inj hxs
          exact congrArg (Except.error ·) (Except.error.inj (hx.symm.trans herror))
        | cons first before =>
          obtain ⟨rfl, -⟩ := List.cons.inj hxs
          obtain ⟨y, hy⟩ := hbefore x List.mem_cons_self
          simp [hx] at hy
    | ok y =>
      have hbind : (Except.ok y >>= fun y => do
          let ys ← xs.mapM f
          return y :: ys) = (xs.mapM f).map (y :: ·) := by
        cases xs.mapM f with
        | error e => rfl
        | ok ys => rfl
      rw [hbind]
      constructor
      · intro h
        cases hxs : xs.mapM f with
        | ok ys => simp [hxs, Except.map] at h
        | error e' =>
          rw [hxs] at h ih
          obtain rfl : e' = e := Except.error.inj h
          obtain ⟨before, x', after, rfl, hbefore, herror⟩ := ih.mp rfl
          exact ⟨x :: before, x', after, rfl, List.forall_mem_cons.mpr ⟨⟨y, hx⟩, hbefore⟩, herror⟩
      · rintro ⟨before, x', after, hxs, hbefore, herror⟩
        cases before with
        | nil =>
          obtain ⟨rfl, rfl⟩ := List.cons.inj hxs
          simp [hx] at herror
        | cons first before =>
          obtain ⟨rfl, rfl⟩ := List.cons.inj hxs
          have hrest := ih.mpr ⟨before, x', after, rfl,
            fun b hb => hbefore b (List.mem_cons_of_mem x hb), herror⟩
          rw [hrest]
          rfl

theorem exists_mapM_eq_ok_iff {f : α → Except ε β} {xs : List α} :
    (∃ ys, xs.mapM f = .ok ys) ↔ ∀ x ∈ xs, ∃ y, f x = .ok y := by
  constructor
  · rintro ⟨ys, hys⟩
    have hboth : List.Forall₂ (fun x y => (∃ y, f x = .ok y) ∧ f x = .ok y) xs ys :=
      (mapM_eq_ok_iff.mp hys).imp fun x y hy => ⟨⟨y, hy⟩, hy⟩
    exact ((List.forall₂_and_left xs ys).mp hboth).1
  · intro h
    cases hmapM : xs.mapM f with
    | ok ys => exact ⟨ys, rfl⟩
    | error e =>
      obtain ⟨before, x, after, rfl, -, hx⟩ := mapM_eq_error_iff.mp hmapM
      obtain ⟨y, hy⟩ := h x (by simp)
      simp [hx] at hy

theorem foldlM_map (f : α → Except ε β) (g : γ → β → γ) (s : γ) (xs : List α) :
    xs.foldlM (fun s x => (f x).map (g s)) s = (xs.mapM f).map (List.foldl g s) := by
  induction xs generalizing s with
  | nil => rfl
  | cons x xs ih =>
    rw [List.foldlM_cons, List.mapM_cons]
    cases f x with
    | error e => rfl
    | ok y =>
      have := ih (g s y)
      simp only [Except.map, bind, Except.bind] at this ⊢
      rw [this]
      cases xs.mapM f with
      | error e => rfl
      | ok ys => rfl

def Yields (x : Except ε α) (y : Except ε' α) : Prop := ∀ a, x = .ok a → y = .ok a

section

variable {x : Except ε α} {y : Except ε' α}

theorem yields_ok (a : α) : Yields (.ok a : Except ε α) (.ok a : Except ε' α) := by
  intro b hb
  exact congrArg Except.ok (Except.ok.inj hb)

theorem yields_refl (x : Except ε α) : Yields x x := by
  intro a ha
  exact ha

theorem yields_bind {f : α → Except ε β} {g : α → Except ε' β} (h : Yields x y)
    (hfg : ∀ a, Yields (f a) (g a)) : Yields (x >>= f) (y >>= g) := by
  intro b hb
  obtain ⟨a, ha, hb⟩ := bind_eq_ok_iff.mp hb
  rw [h a ha]
  exact hfg a b hb

theorem yields_mapM {γ' : Type} {f : γ → Except ε α} {g : γ' → Except ε' α} {h : γ → γ'}
    (hfg : ∀ c, Yields (f c) (g (h c))) (cs : List γ) :
    Yields (cs.mapM f) ((cs.map h).mapM g) := by
  induction cs with
  | nil =>
    intro as has
    obtain rfl : [] = as := Except.ok.inj has
    rfl
  | cons c cs ih =>
    rw [List.map_cons, List.mapM_cons, List.mapM_cons]
    apply yields_bind (hfg c)
    intro a
    apply yields_bind ih
    intro as
    apply yields_ok

end

end Catalog
