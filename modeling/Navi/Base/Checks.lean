import Mathlib.Data.List.Basic

/-!
# Checks that raise

A program that checks its input raises at the first check that fails, so what it returns
is read back from all its checks at once.
-/

namespace Navi.Base

variable {ε α β : Type*}

/-- A check, with what is raised where it fails. -/
def require (p : Prop) [Decidable p] (raised : ε) : Except ε Unit :=
  if p then .ok () else .error raised

@[simp] theorem require_eq_ok {p : Prop} [Decidable p] {raised : ε} {u : Unit} :
    require p raised = .ok u ↔ p := by
  unfold require
  split
  next h => exact ⟨fun _ => h, fun _ => rfl⟩
  next h =>
    constructor
    · intro heq
      cases heq
    · intro hp
      exact absurd hp h

theorem bind_eq_ok {α β : Type _} {x : Except ε α} {f : α → Except ε β} {b : β} :
    (x >>= f) = .ok b ↔ ∃ a, x = .ok a ∧ f a = .ok b := by
  cases x with
  | error e =>
      constructor
      · intro h
        cases h
      · rintro ⟨a, ha, -⟩
        cases ha
  | ok a =>
      constructor
      · intro h
        exact ⟨a, rfl, h⟩
      · rintro ⟨a', ha, h⟩
        obtain rfl := Except.ok.inj ha
        exact h

theorem bind_of_eq_ok {α β : Type _} {x : Except ε α} {a : α} {rest : α → Except ε β}
    (h : x = .ok a) : (x >>= rest) = rest a := by
  rw [h]
  rfl

theorem bind_eq_error {α β : Type _} {x : Except ε α} {f : α → Except ε β} {e : ε} :
    (x >>= f) = .error e ↔ x = .error e ∨ ∃ a, x = .ok a ∧ f a = .error e := by
  cases x with
  | error raised =>
      constructor
      · intro h
        obtain rfl := Except.error.inj (show Except.error raised = Except.error e from h)
        exact .inl rfl
      · rintro (h | ⟨a, ha, -⟩)
        · obtain rfl := Except.error.inj h
          rfl
        · cases ha
  | ok a =>
      constructor
      · intro h
        exact .inr ⟨a, rfl, h⟩
      · rintro (h | ⟨a', ha, h⟩)
        · cases h
        · obtain rfl := Except.ok.inj ha
          exact h

theorem map_eq_ok {α β : Type _} {x : Except ε α} {f : α → β} {b : β} :
    x.map f = .ok b ↔ ∃ a, x = .ok a ∧ f a = b := by
  cases x with
  | error e => simp [Except.map]
  | ok a => simp [Except.map]

theorem mapError_eq_ok {α ε' : Type _} {x : Except ε α} {f : ε → ε'} {a : α} :
    x.mapError f = .ok a ↔ x = .ok a := by
  cases x with
  | error e => simp [Except.mapError]
  | ok a => simp [Except.mapError]

theorem mapError_eq_error {α ε' : Type _} {x : Except ε α} {f : ε → ε'} {e : ε'} :
    x.mapError f = .error e ↔ ∃ raised, x = .error raised ∧ f raised = e := by
  cases x with
  | error raised => simp [Except.mapError]
  | ok a => simp [Except.mapError]

theorem pure_eq_ok {a b : α} : (pure a : Except ε α) = .ok b ↔ a = b := by
  constructor
  · intro h
    exact Except.ok.inj h
  · rintro rfl
    rfl

theorem mem_of_mapM_eq_ok {ε α β : Type _} {f : α → Except ε β} {items : List α}
    {values : List β} (h : items.mapM f = .ok values) (value : β) :
    value ∈ values ↔ ∃ item ∈ items, f item = .ok value := by
  induction items generalizing values with
  | nil =>
      obtain rfl := pure_eq_ok.mp h
      simp
  | cons item rest ih =>
      rw [List.mapM_cons] at h
      obtain ⟨head, hhead, h⟩ := bind_eq_ok.mp h
      obtain ⟨tail, htail, h⟩ := bind_eq_ok.mp h
      obtain rfl := pure_eq_ok.mp h
      simp [ih htail, hhead, eq_comm]

theorem forM_eq_ok {ε α : Type _} {f : α → Except ε Unit} {items : List α}
    (h : items.forM f = .ok ()) : ∀ item ∈ items, f item = .ok () := by
  induction items with
  | nil => simp
  | cons item rest ih =>
      rw [List.forM_eq_forM, List.forM_cons] at h
      obtain ⟨_, hhead, h⟩ := bind_eq_ok.mp h
      simpa [hhead] using ih (by rwa [List.forM_eq_forM])

end Navi.Base
