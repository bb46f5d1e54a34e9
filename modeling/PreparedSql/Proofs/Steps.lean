import Mathlib.Data.List.Forall2

/-!
# Steps that can fail

What is known of a sequence of steps that can fail if it succeeds, and what its errors are.

## Main definitions

* `FailsWith`: a property of the error of a step, if it fails.
* `Simulates`: a step that succeeds where another one does.

## Main statements

* `bind_eq_ok_iff`, `mapM_eq_ok_iff`: a sequence succeeds if each of its steps does.
-/

namespace PreparedSql

variable {ε α β : Type} {x : Except ε α}

theorem exists_of_bind_eq_ok {f : α → Except ε β} {b : β} (h : x >>= f = .ok b) :
    ∃ a, x = .ok a ∧ f a = .ok b := by
  cases x with
  | error => exact nomatch h
  | ok a => exact ⟨a, rfl, h⟩

theorem bind_eq_ok_iff {f : α → Except ε β} {b : β} :
    x >>= f = .ok b ↔ ∃ a, x = .ok a ∧ f a = .ok b := by
  refine ⟨exists_of_bind_eq_ok, ?_⟩
  rintro ⟨a, rfl, h⟩
  exact h

theorem bind_pure_eq_ok_iff {f : α → β} {b : β} :
    (do return f (← x)) = Except.ok b ↔ ∃ a, x = .ok a ∧ f a = b := by
  rw [bind_eq_ok_iff]
  exact exists_congr fun a ↦ and_congr_right fun _ ↦ Except.ok.injEq (f a) b ▸ Iff.rfl

theorem map_eq_ok_iff {f : α → β} {b : β} : x.map f = .ok b ↔ ∃ a, x = .ok a ∧ f a = b := by
  cases x with
  | error => exact iff_of_false nofun nofun
  | ok a => simp [Except.map]

theorem mapM_eq_ok_iff {f : α → Except ε β} {xs : List α} {ys : List β} :
    xs.mapM f = .ok ys ↔ List.Forall₂ (fun x y ↦ f x = .ok y) xs ys := by
  induction xs generalizing ys with
  | nil =>
    rw [List.mapM_nil, List.forall₂_nil_left_iff]
    exact ⟨fun h ↦ (Except.ok.inj h).symm, fun h ↦ congrArg Except.ok h.symm⟩
  | cons x xs ih =>
    rw [List.mapM_cons, List.forall₂_cons_left_iff, bind_eq_ok_iff]
    refine exists_congr fun y ↦ ?_
    rw [bind_pure_eq_ok_iff]
    constructor
    · rintro ⟨first, rest, hRest, rfl⟩
      exact ⟨rest, first, ih.mp hRest, rfl⟩
    · rintro ⟨rest, first, hRest, rfl⟩
      exact ⟨first, rest, ih.mpr hRest, rfl⟩

theorem exists_forall₂_iff {R : α → β → Prop} {xs : List α} :
    (∃ ys, List.Forall₂ R xs ys) ↔ ∀ x ∈ xs, ∃ y, R x y := by
  induction xs with
  | nil => exact iff_of_true ⟨[], .nil⟩ nofun
  | cons x xs ih =>
    rw [List.forall_mem_cons, ← ih]
    constructor
    · rintro ⟨ys, h⟩
      cases h with
      | cons first rest => exact ⟨⟨_, first⟩, _, rest⟩
    · rintro ⟨⟨y, first⟩, ys, rest⟩
      exact ⟨y :: ys, .cons first rest⟩

theorem forall₂_imp_mem {R S : α → β → Prop} {xs : List α} {ys : List β}
    (h : ∀ x ∈ xs, ∀ y, R x y → S x y) (hxs : List.Forall₂ R xs ys) : List.Forall₂ S xs ys := by
  induction hxs with
  | nil => exact .nil
  | cons first _ ih =>
    rw [List.forall_mem_cons] at h
    exact .cons (h.1 _ first) (ih h.2)

theorem forall₂_congr_mem {R S : α → β → Prop} {xs : List α} {ys : List β}
    (h : ∀ x ∈ xs, ∀ y, R x y ↔ S x y) : List.Forall₂ R xs ys ↔ List.Forall₂ S xs ys :=
  ⟨forall₂_imp_mem fun x hx y ↦ (h x hx y).mp, forall₂_imp_mem fun x hx y ↦ (h x hx y).mpr⟩

theorem mapM_eq_of_forall₂ {m : Type → Type} [Monad m] [LawfulMonad m] {γ : Type} {f : α → m γ}
    {g : β → m γ} {xs : List α} {ys : List β} (h : List.Forall₂ (fun x y ↦ f x = g y) xs ys) :
    xs.mapM f = ys.mapM g := by
  induction h with
  | nil => rfl
  | cons first _ ih => rw [List.mapM_cons, List.mapM_cons, first, ih]

/-- If the step fails, its error has the property. -/
def FailsWith (P : ε → Prop) (x : Except ε α) : Prop := ∀ e, x = .error e → P e

namespace FailsWith

variable {P : ε → Prop}

theorem ok (a : α) : FailsWith P (.ok a) := fun _ h ↦ nomatch h

theorem error {e : ε} (h : P e) : FailsWith P (.error e : Except ε α) := by
  intro e' same
  cases same
  exact h

theorem bind {f : α → Except ε β} (h : FailsWith P x) (step : ∀ a, FailsWith P (f a)) :
    FailsWith P (x >>= f) := by
  cases x with
  | error e => exact error (h e rfl)
  | ok a => exact step a

theorem of_bind {f : α → Except ε β} (h : FailsWith P (x >>= f)) : FailsWith P x := by
  rintro e rfl
  exact h e rfl

theorem map {f : α → β} (h : FailsWith P x) : FailsWith P (x.map f) := by
  cases x with
  | error e => exact error (h e rfl)
  | ok a => exact ok (f a)

theorem mapM {f : α → Except ε β} {xs : List α} (h : ∀ x ∈ xs, FailsWith P (f x)) :
    FailsWith P (xs.mapM f) := by
  induction xs with
  | nil => exact ok []
  | cons x xs ih =>
    rw [List.forall_mem_cons] at h
    rw [List.mapM_cons]
    exact h.1.bind fun _ ↦ (ih h.2).bind fun _ ↦ ok _

end FailsWith

/-- If the first step succeeds, then so does the second one, with a related result. -/
def Simulates (P : α → β → Prop) (x : Except ε α) (y : Except ε β) : Prop :=
  ∀ a, x = .ok a → ∃ b, y = .ok b ∧ P a b

namespace Simulates

variable {γ δ : Type} {P : α → β → Prop} {Q : γ → δ → Prop} {y : Except ε β}

theorem ok {a : α} {b : β} (h : P a b) : Simulates P (.ok a : Except ε α) (.ok b) := by
  intro a' same
  obtain rfl := Except.ok.inj same
  exact ⟨b, rfl, h⟩

theorem error (e : ε) (y : Except ε β) : Simulates P (.error e) y := fun _ h ↦ nomatch h

theorem refl {P : α → α → Prop} (h : ∀ a, P a a) (x : Except ε α) : Simulates P x x :=
  fun a ha ↦ ⟨a, ha, h a⟩

theorem bind {f : α → Except ε γ} {g : β → Except ε δ} (h : Simulates P x y)
    (step : ∀ a b, P a b → Simulates Q (f a) (g b)) : Simulates Q (x >>= f) (y >>= g) := by
  intro c hc
  obtain ⟨a, ha, hc⟩ := exists_of_bind_eq_ok hc
  obtain ⟨b, hb, hab⟩ := h a ha
  obtain ⟨d, hd, hcd⟩ := step a b hab c hc
  exact ⟨d, bind_eq_ok_iff.mpr ⟨b, hb, hd⟩, hcd⟩

theorem map {f : α → γ} {g : β → δ} (h : Simulates P x y) (step : ∀ a b, P a b → Q (f a) (g b)) :
    Simulates Q (x.map f) (y.map g) := by
  intro c hc
  obtain ⟨a, ha, rfl⟩ := map_eq_ok_iff.mp hc
  obtain ⟨b, hb, hab⟩ := h a ha
  exact ⟨g b, map_eq_ok_iff.mpr ⟨b, hb, rfl⟩, step a b hab⟩

theorem mapM {f : α → Except ε γ} {g : β → Except ε δ} {xs : List α} {ys : List β}
    (h : List.Forall₂ (fun x y ↦ Simulates Q (f x) (g y)) xs ys) :
    Simulates (List.Forall₂ Q) (xs.mapM f) (ys.mapM g) := by
  induction h with
  | nil => exact ok .nil
  | cons first _ ih =>
    rw [List.mapM_cons, List.mapM_cons]
    exact first.bind fun _ _ hab ↦ ih.bind fun _ _ rest ↦ ok (.cons hab rest)

theorem mapError {ε' : Type} (f : ε → ε') (h : Simulates P x y) :
    Simulates P (x.mapError f) (y.mapError f) := by
  cases x with
  | error e => exact error _ _
  | ok a =>
    obtain ⟨b, rfl, hab⟩ := h a rfl
    exact ok hab

end Simulates

end PreparedSql
