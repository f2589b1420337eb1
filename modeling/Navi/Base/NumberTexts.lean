import Mathlib.Data.Int.Log
import Mathlib.Data.Rat.Floor
import Navi.Base.JsonText

/-!
# Numbers in texts

What `float` reads and what the format `g` writes. The numbers are finite: the texts of
the infinities and of NaN are read as none. The text of an integer is read as the integer.
-/

namespace Navi.Base

/-! ## `float` of a text -/

/-- The digits of a numeral; a single `_` may stand between two of them. -/
def digitGroup (cs : List Char) : Option (List Char) :=
  if (cs.splitOn '_').all fun part => !part.isEmpty && part.all Char.isDigit then
    some (cs.filter (· ≠ '_'))
  else none

def readSign : List Char → Int × List Char
  | '-' :: cs => (-1, cs)
  | '+' :: cs => (1, cs)
  | cs => (1, cs)

/-- The digits before the point and those after it; one of the two may be missing. -/
def readMantissa (cs : List Char) : Option (List Char × List Char) :=
  let whole := cs.takeWhile (· ≠ '.')
  match cs.dropWhile (· ≠ '.') with
  | [] => (digitGroup whole).map (·, [])
  | _ :: fraction =>
      if whole = [] then (digitGroup fraction).map ([], ·)
      else if fraction = [] then (digitGroup whole).map (·, [])
      else (digitGroup whole).bind fun digits => (digitGroup fraction).map (digits, ·)

def readExponent : List Char → Option Int
  | [] => some 0
  | _ :: cs =>
      (digitGroup (readSign cs).2).map fun digits =>
        (readSign cs).1 * Nat.ofDigitChars 10 digits 0

/-- `float(text)`, of ASCII digits. -/
def floatOfText (s : String) : Option Rat :=
  let (sign, cs) := readSign (strip s).toList
  let inMantissa : Char → Bool := fun c => c ≠ 'e' && c ≠ 'E'
  (readMantissa (cs.takeWhile inMantissa)).bind fun (whole, fraction) =>
    (readExponent (cs.dropWhile inMantissa)).map fun exponent =>
      sign * Nat.ofDigitChars 10 (whole ++ fraction) 0
        * (10 : Rat) ^ (exponent - (fraction.length : Int))

/-! ## Reading integers back -/

theorem digitGroup_of_digits {digits : List Char} (hne : digits ≠ [])
    (h : ∀ c ∈ digits, c.isDigit = true) : digitGroup digits = some digits := by
  have hmark : ∀ c ∈ digits, c ≠ '_' := by
    rintro c hc rfl
    exact absurd (h _ hc) (by decide)
  have hsplit : digits.splitOn '_' = [digits] :=
    List.splitOnP_eq_singleton fun c hc => beq_eq_false_iff_ne.mpr (hmark c hc)
  have hparts : ((digits.splitOn '_').all fun part => !part.isEmpty && part.all Char.isDigit)
      = true := by
    rw [hsplit]
    simpa [hne] using h
  rw [digitGroup, if_pos hparts, List.filter_eq_self.mpr fun c hc => decide_eq_true (hmark c hc)]

theorem readMantissa_of_digits {digits : List Char} (hne : digits ≠ [])
    (h : ∀ c ∈ digits, c.isDigit = true) : readMantissa digits = some (digits, []) := by
  have hpoint : ∀ c ∈ digits, decide (c ≠ '.') = true := by
    rintro c hc
    refine decide_eq_true ?_
    rintro rfl
    exact absurd (h _ hc) (by decide)
  rw [readMantissa, List.takeWhile_eq_self_iff.mpr hpoint, List.dropWhile_eq_nil_iff.mpr hpoint,
    digitGroup_of_digits hne h]
  rfl

theorem floatOfText_of_digits {s : String} {sign : Int} {digits : List Char}
    (hs : readSign (strip s).toList = (sign, digits)) (hne : digits ≠ [])
    (h : ∀ c ∈ digits, c.isDigit = true) :
    floatOfText s = some (sign * Nat.ofDigitChars 10 digits 0) := by
  have hletters : ∀ c ∈ digits, (decide (c ≠ 'e') && decide (c ≠ 'E')) = true := by
    intro c hc
    rw [Bool.and_eq_true, decide_eq_true_iff, decide_eq_true_iff]
    constructor <;> (rintro rfl; exact absurd (h _ hc) (by decide))
  simp only [floatOfText, hs, List.takeWhile_eq_self_iff.mpr hletters,
    List.dropWhile_eq_nil_iff.mpr hletters, readMantissa_of_digits hne h]
  simp [readExponent]

theorem digits_of_toDigits {n : Nat} : ∀ c ∈ Nat.toDigits 10 n, c.isDigit = true :=
  fun _ hc => Nat.isDigit_of_mem_toDigits (by decide) (by decide) hc

theorem readSign_renderInt (n : Int) :
    readSign (Json.renderInt n) = (if n < 0 then -1 else 1, Nat.toDigits 10 n.natAbs) := by
  cases n with
  | ofNat n =>
      have hsign : readSign (Nat.toDigits 10 n) = (1, Nat.toDigits 10 n) := by
        unfold readSign
        split
        · next heq => exact absurd (digits_of_toDigits '-' (heq ▸ List.mem_cons_self)) (by decide)
        · next heq => exact absurd (digits_of_toDigits '+' (heq ▸ List.mem_cons_self)) (by decide)
        · rfl
      exact hsign
  | negSucc n =>
      rw [if_pos (Int.negSucc_lt_zero n)]
      rfl

theorem floatOfText_renderInt (n : Int) :
    floatOfText (String.ofList (Json.renderInt n)) = some n := by
  have hspaces : ∀ c ∈ Json.renderInt n, isSpace c = false := by
    intro c hc
    refine Json.isSpace_of_numberChar ?_
    rcases Json.mem_renderInt hc with hdigit | rfl
    · simp [Json.numberChar, hdigit]
    · rfl
  have hsign := readSign_renderInt n
  rw [← String.toList_ofList (l := Json.renderInt n), ← strip_eq_self hspaces] at hsign
  rw [floatOfText_of_digits hsign Nat.toDigits_ne_nil digits_of_toDigits,
    Nat.ofDigitChars_ten_toDigits]
  refine congrArg some ?_
  split
  · next hneg => exact_mod_cast (by omega : (-1 : Int) * n.natAbs = n)
  · next hneg => exact_mod_cast (by omega : (1 : Int) * n.natAbs = n)

example : floatOfText " -1_0.5E+1 " = some (-105) := by decide +kernel

/-! ## The format `g` -/

/-- The digits without the zeros at their end. -/
def dropZeros (digits : List Char) : List Char := digits.rdropWhile (· = '0')

def withFraction (whole fraction : List Char) : List Char :=
  if dropZeros fraction = [] then whole else whole ++ '.' :: dropZeros fraction

/-- `f"{x:g}"`: six significant digits, in scientific notation where the number is
small or large. -/
def generalText (x : Rat) : String :=
  if x = 0 then "0"
  else
    let top := Int.log 10 |x|
    let scaled := |x| * (10 : Rat) ^ (5 - top)
    let floor := scaled.floor.toNat
    let rest := scaled - floor
    let rounded := if rest < 1 / 2 ∨ rest = 1 / 2 ∧ floor % 2 = 0 then floor else floor + 1
    -- rounding up may reach the next power of ten
    let exponent := if rounded = 10 ^ 6 then top + 1 else top
    let digits := Nat.toDigits 10 (if rounded = 10 ^ 6 then 10 ^ 5 else rounded)
    let text :=
      if 6 ≤ exponent ∨ exponent < -4 then
        withFraction (digits.take 1) (digits.drop 1)
          ++ (if exponent < 0 then ['e', '-'] else ['e', '+'])
          ++ (if exponent.natAbs < 10 then ['0'] else []) ++ Nat.toDigits 10 exponent.natAbs
      else if exponent < 0 then
        withFraction ['0'] (List.replicate (exponent.natAbs - 1) '0' ++ digits)
      else withFraction (digits.take (exponent.toNat + 1)) (digits.drop (exponent.toNat + 1))
    String.ofList (if x < 0 then '-' :: text else text)

example : generalText 1731024000 = "1.73102e+09" := by decide +kernel

end Navi.Base
