import Mathlib

/-!
# Rounding to decimals

Rounding to the nearest number with a given number of decimals, ties to the even one. What lies
between two such numbers is rounded to one between them.
-/

namespace Navi.Base

/-- The integer next to a number, and the even one of two. -/
def halfEven (x : Rat) : Int :=
  let below := ⌊x⌋
  if x - below < 1 / 2 ∨ x - below = 1 / 2 ∧ below % 2 = 0 then below else below + 1

/-- `round(x, digits)` of an exact number. -/
def roundTo (digits : Nat) (x : Rat) : Rat := halfEven (x * 10 ^ digits) / 10 ^ digits

/-- A number with this many decimals. -/
def OnGrid (digits : Nat) (x : Rat) : Prop := ∃ n : Int, x * 10 ^ digits = n

instance decidableOnGrid (digits : Nat) (x : Rat) : Decidable (OnGrid digits x) :=
  decidable_of_iff ((x * 10 ^ digits).den = 1)
    ⟨fun h => ⟨_, ((Rat.den_eq_one_iff _).mp h).symm⟩,
      fun ⟨n, hn⟩ => by rw [hn]; exact Rat.den_intCast n⟩

theorem halfEven_intCast (n : Int) : halfEven n = n := by
  unfold halfEven
  simp

theorem le_halfEven {n : Int} {x : Rat} (h : (n : Rat) ≤ x) : n ≤ halfEven x := by
  have hfloor : n ≤ ⌊x⌋ := Int.le_floor.mpr h
  unfold halfEven
  dsimp only
  split
  · exact hfloor
  · omega

theorem halfEven_le {n : Int} {x : Rat} (h : x ≤ n) : halfEven x ≤ n := by
  rcases h.eq_or_lt with rfl | hlt
  · rw [halfEven_intCast]
  · have hfloor : ⌊x⌋ < n := Int.floor_lt.mpr hlt
    unfold halfEven
    dsimp only
    split
    · omega
    · omega

theorem le_halfEven_add_half (x : Rat) : x ≤ halfEven x + 1 / 2 := by
  have hlt : x < ⌊x⌋ + 1 := Int.lt_floor_add_one x
  unfold halfEven
  dsimp only
  split
  next h =>
    rcases h with h | ⟨h, -⟩
    · linarith
    · linarith
  next h =>
    push_cast
    linarith

theorem halfEven_le_add_half (x : Rat) : halfEven x ≤ x + 1 / 2 := by
  have hle : (⌊x⌋ : Rat) ≤ x := Int.floor_le x
  unfold halfEven
  dsimp only
  split
  next h => linarith
  next h =>
    push_cast
    rcases not_or.mp h with ⟨hhalf, -⟩
    linarith

theorem halfEven_le_iff {n : Int} (heven : n % 2 = 0) {x : Rat} :
    halfEven x ≤ n ↔ x ≤ n + 1 / 2 := by
  constructor
  · intro h
    have hcast : (halfEven x : Rat) ≤ n := by exact_mod_cast h
    linarith [le_halfEven_add_half x]
  · intro h
    rcases le_or_gt x n with hle | hlt
    · exact halfEven_le hle
    · have hfloor : ⌊x⌋ = n := Int.floor_eq_iff.mpr ⟨hlt.le, by linarith⟩
      have hround : x - n < 1 / 2 ∨ x - n = 1 / 2 ∧ n % 2 = 0 := by
        rcases h.lt_or_eq with hbelow | hat
        · exact .inl (by linarith)
        · exact .inr ⟨by linarith, heven⟩
      unfold halfEven
      rw [hfloor]
      exact (if_pos hround).le

theorem le_halfEven_iff {n : Int} (heven : n % 2 = 0) {x : Rat} :
    n ≤ halfEven x ↔ n - 1 / 2 ≤ x := by
  constructor
  · intro h
    have hcast : (n : Rat) ≤ halfEven x := by exact_mod_cast h
    linarith [halfEven_le_add_half x]
  · intro h
    rcases le_or_gt (n : Rat) x with hle | hlt
    · exact le_halfEven hle
    · have hfloor : ⌊x⌋ = n - 1 := by
        refine Int.floor_eq_iff.mpr ⟨?_, ?_⟩
        · push_cast
          linarith
        · push_cast
          linarith
      have hround :
          ¬ (x - (n - 1 : Int) < 1 / 2 ∨ x - (n - 1 : Int) = 1 / 2 ∧ (n - 1) % 2 = 0) := by
        push_cast
        rintro (hbelow | ⟨-, hodd⟩)
        · linarith
        · omega
      unfold halfEven
      rw [hfloor]
      dsimp only
      rw [if_neg hround]
      omega

section

variable {digits : Nat} {x low high : Rat}

theorem pow_ten_pos (digits : Nat) : (0 : Rat) < 10 ^ digits := by positivity

theorem roundTo_onGrid (digits : Nat) (x : Rat) : OnGrid digits (roundTo digits x) := by
  refine ⟨halfEven (x * 10 ^ digits), ?_⟩
  unfold roundTo
  exact div_mul_cancel₀ _ (pow_ten_pos digits).ne'

theorem roundTo_of_onGrid (h : OnGrid digits x) : roundTo digits x = x := by
  obtain ⟨n, hn⟩ := h
  unfold roundTo
  rw [hn, halfEven_intCast, ← hn]
  exact mul_div_cancel_right₀ _ (pow_ten_pos digits).ne'

theorem le_roundTo (hlow : OnGrid digits low) (h : low ≤ x) : low ≤ roundTo digits x := by
  obtain ⟨n, hn⟩ := hlow
  have hpos := pow_ten_pos digits
  unfold roundTo
  rw [le_div_iff₀ hpos, hn]
  have hle : (n : Rat) ≤ x * 10 ^ digits := by
    rw [← hn]
    exact mul_le_mul_of_nonneg_right h hpos.le
  exact_mod_cast le_halfEven hle

theorem roundTo_le (hhigh : OnGrid digits high) (h : x ≤ high) : roundTo digits x ≤ high := by
  obtain ⟨n, hn⟩ := hhigh
  have hpos := pow_ten_pos digits
  unfold roundTo
  rw [div_le_iff₀ hpos, hn]
  have hle : x * 10 ^ digits ≤ n := by
    rw [← hn]
    exact mul_le_mul_of_nonneg_right h hpos.le
  exact_mod_cast halfEven_le hle

theorem OnGrid.add (hlow : OnGrid digits low) (hhigh : OnGrid digits high) :
    OnGrid digits (low + high) := by
  obtain ⟨n, hn⟩ := hlow
  obtain ⟨m, hm⟩ := hhigh
  refine ⟨n + m, ?_⟩
  push_cast
  rw [add_mul, hn, hm]

theorem onGrid_min (hlow : OnGrid digits low) (hhigh : OnGrid digits high) :
    OnGrid digits (min low high) := by
  rcases min_choice low high with h | h
  · rwa [h]
  · rwa [h]

theorem onGrid_max (hlow : OnGrid digits low) (hhigh : OnGrid digits high) :
    OnGrid digits (max low high) := by
  rcases max_choice low high with h | h
  · rwa [h]
  · rwa [h]

theorem roundTo_le_add (digits : Nat) (x : Rat) :
    roundTo digits x ≤ x + 1 / 2 / 10 ^ digits := by
  have hpos := pow_ten_pos digits
  have hround := halfEven_le_add_half (x * 10 ^ digits)
  unfold roundTo
  rw [div_le_iff₀ hpos, add_mul, div_mul_cancel₀ _ hpos.ne']
  exact hround

end

end Navi.Base
