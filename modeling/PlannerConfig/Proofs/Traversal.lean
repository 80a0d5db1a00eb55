import Mathlib.Tactic.Lemma

/-!
Computations that may fail, and traversals of lists by them. A traversal succeeds if each of its steps
does, and else it fails as the first step that fails.
-/
namespace PlannerConfig

variable {ε α β : Type} {f g : α → Except ε β} {xs : List α} {ys : List β}

lemma bind_eq_ok {x : Except ε α} {k : α → Except ε β} {b : β} :
    (x >>= k) = .ok b ↔ ∃ a, x = .ok a ∧ k a = .ok b := by
  cases x <;> simp [bind, Except.bind]

lemma mapError_eq_ok {δ : Type} {x : Except ε β} {wrap : ε → δ} {b : β} :
    x.mapError wrap = .ok b ↔ x = .ok b := by
  cases x with
  | error e => exact ⟨nofun, nofun⟩
  | ok a =>
    exact ⟨fun h => congrArg Except.ok (Except.ok.inj h),
      fun h => congrArg Except.ok (Except.ok.inj h)⟩

lemma mapM_eq_ok_iff : xs.mapM f = .ok ys ↔ xs.map f = ys.map .ok := by
  induction xs generalizing ys with
  | nil => cases ys <;> simp [pure, Except.pure]
  | cons x xs ih =>
    rw [List.mapM_cons, List.map_cons, bind_eq_ok]
    constructor
    · rintro ⟨y, hy, h⟩
      obtain ⟨rest, hrest, h⟩ := bind_eq_ok.mp h
      cases h
      rw [hy, ih.mp hrest, List.map_cons]
    · intro h
      obtain ⟨y, rest, rfl⟩ : ∃ y rest, ys = y :: rest := by
        cases ys with
        | nil => simp at h
        | cons y rest => exact ⟨y, rest, rfl⟩
      obtain ⟨hy, hrest⟩ := List.cons.inj h
      exact ⟨y, hy, bind_eq_ok.mpr ⟨rest, ih.mpr hrest, rfl⟩⟩

/-- Only where they succeed do functions have to be the same. -/
lemma map_eq_map_ok_congr (h : ∀ x b, f x = .ok b ↔ g x = .ok b) :
    xs.map f = ys.map .ok ↔ xs.map g = ys.map .ok := by
  induction xs generalizing ys with
  | nil => exact Iff.rfl
  | cons x xs ih =>
    cases ys with
    | nil => simp
    | cons y ys => simp only [List.map_cons, List.cons.injEq, h, ih]

/-- A traversal fails at the first element that fails. -/
lemma mapM_eq_error {e : ε} {rest : List (Except ε β)}
    (h : xs.map f = ys.map .ok ++ .error e :: rest) : xs.mapM f = .error e := by
  induction ys generalizing xs with
  | nil =>
    obtain ⟨x, xs, rfl, hx, -⟩ := List.map_eq_cons_iff.mp h
    rw [List.mapM_cons, hx]
    rfl
  | cons y ys ih =>
    obtain ⟨x, xs, rfl, hx, hxs⟩ := List.map_eq_cons_iff.mp h
    rw [List.mapM_cons, hx, ih hxs]
    rfl

lemma exists_map_eq_map_ok (h : ∀ x ∈ xs, ∃ b, f x = .ok b) :
    ∃ ys : List β, xs.map f = ys.map .ok := by
  induction xs with
  | nil => exact ⟨[], rfl⟩
  | cons x xs ih =>
    obtain ⟨b, hb⟩ := h x (by simp)
    obtain ⟨ys, hys⟩ := ih fun y hy => h y (by simp [hy])
    exact ⟨b :: ys, by rw [List.map_cons, List.map_cons, hb, hys]⟩

end PlannerConfig
