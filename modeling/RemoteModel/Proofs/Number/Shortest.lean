import Mathlib.Data.Nat.Cast.Order.Field
import RemoteModel.Number.Decimal
import RemoteModel.Proofs.Number.Rounding

/-!
# Shortest decimals

**Main statement.** `shortest_rounds`: the shortest decimal of a double is in the interval of the
double, so it is rounded to the double again.

* *Comparing*: the interval that is computed, with its exact test, is the interval of the double
  (`holds_iff`).
* *Finding*: on a grid that is fine enough, one of the two neighbours of the double is in the
  interval (`onGrid?_of_fine`). The grid of seventeen digits is fine enough: a step of it is at most
  `10 ^ -16` of the double, and a significand has 53 bits.
* *Scaling*: the search for the number of digits in front of the point begins low enough and has
  enough steps, because `2 ^ 10` is about `10 ^ 3` (`ten_zpow_le`, `le_ten_zpow`).
-/

namespace RemoteModel.Decimal

open Double (Canonical Near Rounds below zpow_of_nonneg zpow_of_neg below_le below_pos)

variable {m : Nat} {e g : Int} {d : Decimal}

/-- The number that a decimal is. -/
def value (d : Decimal) : ℚ := d.digits * 10 ^ d.exponent

/-! ## Intervals -/

theorem interval_den_pos (m : Nat) (e : Int) : 0 < (interval m e).den := by
  unfold interval
  simp only
  split
  · decide
  · exact Nat.mul_pos (by decide) (Nat.pow_pos (by decide))

theorem interval_quarters (m : Nat) (e : Int) (k : Nat) :
    ((k * (if e ≥ 0 then Nat.pow 2 e.toNat else 1) : Nat) : ℚ) / (interval m e).den =
      k / 4 * 2 ^ e := by
  unfold interval
  simp only
  by_cases he : 0 ≤ e
  · have hpow : (2 : ℚ) ^ e = (Nat.pow 2 e.toNat : Nat) := zpow_of_nonneg 2 he
    rw [if_pos he, if_pos he, hpow]
    push_cast
    ring
  · have hpow : (2 : ℚ) ^ e = ((Nat.pow 2 (-e).toNat : Nat) : ℚ)⁻¹ := zpow_of_neg 2 he
    rw [if_neg he, if_neg he, hpow]
    push_cast
    field_simp

theorem interval_middle (m : Nat) (e : Int) :
    ((interval m e).middle : ℚ) / (interval m e).den = m * 2 ^ e := by
  refine (interval_quarters m e (4 * m)).trans ?_
  push_cast
  ring

theorem interval_high (m : Nat) (e : Int) :
    ((interval m e).high : ℚ) / (interval m e).den = (m + 1 / 2) * 2 ^ e := by
  refine (interval_quarters m e (4 * m + 2)).trans ?_
  push_cast
  ring

theorem interval_low (hm : m ≠ 0) (e : Int) :
    ((interval m e).low : ℚ) / (interval m e).den = (m - below m e) * 2 ^ e := by
  refine (interval_quarters m e _).trans ?_
  unfold below
  have hfour : 2 ≤ 4 * m := by omega
  have hsame : m = Nat.pow 2 52 ∧ e > Double.leastExponent ↔
      m = 2 ^ 52 ∧ Double.leastExponent < e := Iff.rfl
  by_cases hnarrow : m = 2 ^ 52 ∧ Double.leastExponent < e
  · rw [if_pos (hsame.2 hnarrow), if_pos hnarrow, Nat.cast_sub (by omega)]
    push_cast
    ring
  · rw [if_neg (mt hsame.1 hnarrow), if_neg hnarrow, Nat.cast_sub hfour]
    push_cast
    ring

/-- The exact test compares numerators over a common denominator. -/
theorem exists_holds_eq (m : Nat) (e : Int) (d : Decimal) :
    ∃ num scale : Nat, (num : ℚ) = d.value * (interval m e).den * scale ∧ (0 : ℚ) < scale ∧
      (interval m e).holds d =
        if (interval m e).closed then
          decide ((interval m e).low * scale ≤ num) && decide (num ≤ (interval m e).high * scale)
        else decide ((interval m e).low * scale < num) &&
          decide (num < (interval m e).high * scale) := by
  unfold value
  by_cases hexp : 0 ≤ d.exponent
  · have hten : (10 : ℚ) ^ d.exponent = (Nat.pow 10 d.exponent.toNat : Nat) :=
      zpow_of_nonneg 10 hexp
    refine ⟨d.digits * Nat.pow 10 d.exponent.toNat * (interval m e).den, 1, ?_, by norm_num, ?_⟩
    · rw [hten]
      push_cast
      ring
    · unfold Interval.holds
      simp only [ge_iff_le, hexp, if_true]
  · have hten : (10 : ℚ) ^ d.exponent = ((Nat.pow 10 (-d.exponent).toNat : Nat) : ℚ)⁻¹ :=
      zpow_of_neg 10 hexp
    have hpos : 0 < Nat.pow 10 (-d.exponent).toNat := Nat.pow_pos (by decide)
    have hpos' : (0 : ℚ) < (Nat.pow 10 (-d.exponent).toNat : Nat) := by exact_mod_cast hpos
    refine ⟨d.digits * (interval m e).den, Nat.pow 10 (-d.exponent).toNat, ?_, hpos', ?_⟩
    · rw [hten, mul_right_comm, inv_mul_cancel_right₀ hpos'.ne', Nat.cast_mul]
    · unfold Interval.holds
      simp only [ge_iff_le, hexp, if_false]

/-- **The exact test** tells whether a decimal is in the interval of a double. -/
theorem holds_iff (hm : m ≠ 0) (e : Int) (d : Decimal) :
    (interval m e).holds d = true ↔ Rounds m e d.value := by
  have hden : (0 : ℚ) < (interval m e).den := by exact_mod_cast interval_den_pos m e
  have hpow : (0 : ℚ) < 2 ^ e := by positivity
  obtain ⟨num, scale, hnum, hscale, hholds⟩ := exists_holds_eq m e d
  have hfactor : (0 : ℚ) < (interval m e).den * scale := mul_pos hden hscale
  -- A number of the same denominator is compared without the common factors.
  have hcompare : ∀ (c : Nat) (y : ℚ), (c : ℚ) / (interval m e).den = y * 2 ^ e →
      (c * scale ≤ num ↔ y ≤ d.value / 2 ^ e) ∧ (num ≤ c * scale ↔ d.value / 2 ^ e ≤ y) := by
    intro c y hc
    rw [div_eq_iff hden.ne'] at hc
    have hcast : ((c * scale : Nat) : ℚ) = y * 2 ^ e * ((interval m e).den * scale) := by
      rw [Nat.cast_mul, hc, mul_assoc]
    have hnum' : (num : ℚ) = d.value * ((interval m e).den * scale) := by rw [hnum, mul_assoc]
    rw [le_div_iff₀ hpow, div_le_iff₀ hpow, ← Nat.cast_le (α := ℚ), ← Nat.cast_le (α := ℚ), hcast,
      hnum', mul_le_mul_iff_left₀ hfactor, mul_le_mul_iff_left₀ hfactor]
    exact ⟨Iff.rfl, Iff.rfl⟩
  obtain ⟨hlow, hlow'⟩ := hcompare _ _ (interval_low hm e)
  obtain ⟨hhigh', hhigh⟩ := hcompare _ _ (interval_high m e)
  rw [hholds]
  by_cases heven : m % 2 = 0
  · have hclosed : (interval m e).closed = true := decide_eq_true heven
    rw [if_pos hclosed, Bool.and_eq_true, decide_eq_true_eq, decide_eq_true_eq, hlow, hhigh]
    exact ⟨fun h => ⟨h.1, h.2, fun hodd => by omega⟩, fun h => ⟨h.low, h.high⟩⟩
  · have hopen : (interval m e).closed = false := decide_eq_false heven
    rw [if_neg (by simp [hopen]), Bool.and_eq_true, decide_eq_true_eq, decide_eq_true_eq,
      ← Nat.not_le, ← Nat.not_le, hlow', hhigh', not_le, not_le]
    exact ⟨fun h => ⟨h.1.le, h.2.le, fun _ => h⟩, fun h => h.strict (by omega)⟩

/-! ## Grids -/

theorem natDiv_spec {a b : Nat} (hb : 0 < b) :
    ((a / b : Nat) : ℚ) ≤ a / b ∧ (a : ℚ) / b < (a / b : Nat) + 1 := by
  have hb' : (0 : ℚ) < b := by exact_mod_cast hb
  refine ⟨Nat.cast_div_le, ?_⟩
  rw [div_lt_iff₀ hb']
  have hlt : a < (a / b + 1) * b := Nat.lt_mul_of_div_lt (Nat.lt_succ_self _) hb
  exact_mod_cast hlt

/-- The floor on a grid is the neighbour of the double on it. -/
theorem floor_spec (m : Nat) (e g : Int) :
    ((interval m e).floor g : ℚ) ≤ m * 2 ^ e / 10 ^ g ∧
      (m : ℚ) * 2 ^ e / 10 ^ g < (interval m e).floor g + 1 := by
  have hden := interval_den_pos m e
  have hmiddle := interval_middle m e
  unfold Interval.floor
  by_cases hg : 0 ≤ g
  · have hten : (10 : ℚ) ^ g = (Nat.pow 10 g.toNat : Nat) := zpow_of_nonneg 10 hg
    have hspec := natDiv_spec (a := (interval m e).middle)
      (Nat.mul_pos hden (Nat.pow_pos (n := g.toNat) (by decide : 0 < 10)))
    rw [Nat.cast_mul, ← div_div, hmiddle] at hspec
    rw [if_pos hg, hten]
    exact hspec
  · have hten : (10 : ℚ) ^ g = ((Nat.pow 10 (-g).toNat : Nat) : ℚ)⁻¹ := zpow_of_neg 10 hg
    have hspec := natDiv_spec (a := (interval m e).middle * Nat.pow 10 (-g).toNat) hden
    rw [Nat.cast_mul, mul_div_right_comm, hmiddle] at hspec
    rw [if_neg hg, hten, div_inv_eq_mul]
    exact hspec

theorem holds_of_onGrid? {i : Interval} (h : i.onGrid? g = some d) : i.holds d = true := by
  unfold Interval.onGrid? at h
  simp only at h
  split at h
  · rename_i hbelow habove
    cases h
    split
    · exact habove
    · exact hbelow
  · cases h
    assumption
  · cases h
    assumption
  · cases h

/-- A number less than half a step away is in the interval, also below a power of two. -/
theorem near_of_close {x δ : ℚ} (hc : Canonical m e) (hδ : δ ≤ m / 10 ^ 16)
    (h : |x - m| ≤ δ / 2) : Near m e x := by
  obtain ⟨hlow, hhigh⟩ := abs_le.1 h
  have hm : (m : ℚ) + 1 ≤ 2 ^ 53 := by exact_mod_cast hc.lt
  have hhalf : δ / 2 < 1 / 2 := by
    rw [le_div_iff₀ (by norm_num)] at hδ
    norm_num at hδ hm
    linarith
  have hbelow : δ / 2 < below m e := by
    unfold below
    split
    · rename_i hpower
      rw [hpower.1, le_div_iff₀ (by norm_num)] at hδ
      norm_num at hδ
      linarith
    · exact hhalf
  exact ⟨by linarith, by linarith, fun _ => ⟨by linarith, by linarith⟩⟩

/-- On a grid that is fine enough, a number at most half a step away is in the interval. -/
theorem holds_of_close (hc : Canonical m e) (hm : m ≠ 0)
    (hfine : (10 : ℚ) ^ g ≤ m * 2 ^ e / 10 ^ 16) {k : Nat}
    (h : |(k : ℚ) * 10 ^ g - m * 2 ^ e| ≤ 10 ^ g / 2) : (interval m e).holds ⟨k, g⟩ = true := by
  have hpow : (0 : ℚ) < 2 ^ e := by positivity
  -- The step of the grid and the number, measured in steps of the double.
  have hstep : (10 : ℚ) ^ g / 2 ^ e ≤ m / 10 ^ 16 := by
    rwa [div_le_iff₀ hpow, ← mul_div_right_comm]
  have hnumber : (k : ℚ) * 10 ^ g / 2 ^ e - m = (k * 10 ^ g - m * 2 ^ e) / 2 ^ e := by
    rw [sub_div, mul_div_cancel_right₀ _ hpow.ne']
  refine (holds_iff hm e _).2 (near_of_close hc hstep ?_)
  rw [value, hnumber, abs_div, abs_of_pos hpow, div_right_comm]
  exact div_le_div_of_nonneg_right h hpow.le

/-- **A grid that is fine enough** has a number of the interval. -/
theorem onGrid?_of_fine (hc : Canonical m e) (hm : m ≠ 0)
    (hfine : (10 : ℚ) ^ g ≤ m * 2 ^ e / 10 ^ 16) : ((interval m e).onGrid? g).isSome := by
  have hten : (0 : ℚ) < 10 ^ g := by positivity
  obtain ⟨hlow, hhigh⟩ := floor_spec m e g
  rw [le_div_iff₀ hten] at hlow
  rw [div_lt_iff₀ hten] at hhigh
  unfold Interval.onGrid?
  simp only
  generalize (interval m e).floor g = n at hlow hhigh
  rcases le_total ((m : ℚ) * 2 ^ e - n * 10 ^ g) (10 ^ g / 2) with hnear | hfar
  · have hbelow : (interval m e).holds ⟨n, g⟩ = true :=
      holds_of_close hc hm hfine (abs_le.2 ⟨by linarith, by linarith⟩)
    rw [hbelow]
    split <;> simp_all
  · have habove : (interval m e).holds ⟨n + 1, g⟩ = true := by
      refine holds_of_close hc hm hfine (abs_le.2 ?_)
      rw [Nat.cast_add, Nat.cast_one]
      exact ⟨by linarith, by linarith⟩
    rw [habove]
    split <;> simp_all

/-! ## Searching -/

/-- The first grid on which something is found. -/
theorem search_spec {i : Interval} {top : Int} {fuel n : Nat}
    (h : ∃ j < fuel, (i.onGrid? (top - (n + j : Nat))).isSome) :
    ∃ d, i.search top fuel n = some d ∧ i.holds d = true := by
  induction fuel generalizing n with
  | zero =>
    obtain ⟨j, hj, -⟩ := h
    exact absurd hj (Nat.not_lt_zero j)
  | succ fuel ih =>
    rw [Interval.search]
    cases hgrid : i.onGrid? (top - n) with
    | some d => exact ⟨d, rfl, holds_of_onGrid? hgrid⟩
    | none =>
      obtain ⟨j, hj, hsome⟩ := h
      refine ih ?_
      obtain ⟨k, rfl⟩ : ∃ k, j = k + 1 := by
        refine ⟨j - 1, ?_⟩
        have hne : j ≠ 0 := by
          rintro rfl
          simp [hgrid] at hsome
        omega
      refine ⟨k, by omega, ?_⟩
      rwa [Nat.add_right_comm, Nat.add_assoc]

/-- Zeros at the end of the digits go into the exponent. -/
theorem value_strip (fuel : Nat) (d : Decimal) : (strip fuel d).value = d.value := by
  induction fuel generalizing d with
  | zero => rfl
  | succ fuel ih =>
    rw [strip]
    split
    · rename_i hzero
      obtain ⟨k, hk⟩ := Nat.dvd_of_mod_eq_zero hzero.2
      rw [ih, value, value, hk, Nat.mul_div_cancel_left _ (by decide),
        zpow_add_one₀ (by norm_num)]
      push_cast
      ring
    · rfl

/-! ## Scaling -/

/-- `10 ^ 3` is at most `2 ^ 10`. -/
theorem ten_zpow_le {a k : Int} (ha : 0 ≤ a) (h : 10 * k ≤ 3 * a) : (10 : ℚ) ^ k ≤ 2 ^ a := by
  have htenth : ((10 : ℚ) ^ k) ^ 10 ≤ ((2 : ℚ) ^ a) ^ 10 :=
    calc ((10 : ℚ) ^ k) ^ 10 = 10 ^ (k * 10) := by rw [zpow_mul]; rfl
      _ ≤ 10 ^ (3 * a) := zpow_le_zpow_right₀ (by norm_num) (by omega)
      _ = (10 ^ (3 : Int)) ^ a := by rw [zpow_mul]
      _ ≤ (2 ^ (10 : Int)) ^ a := zpow_le_zpow_left₀ ha (by norm_num) (by norm_num)
      _ = 2 ^ (a * 10) := by rw [← zpow_mul, mul_comm]
      _ = (2 ^ a) ^ 10 := by rw [zpow_mul]; rfl
  exact (pow_le_pow_iff_left₀ (by positivity) (by positivity) (by norm_num)).1 htenth

/-- `2 ^ 100` is at most `10 ^ 31`. -/
theorem le_ten_zpow {a k : Int} (ha : 0 ≤ a) (h : 31 * a ≤ 100 * k) : (2 : ℚ) ^ a ≤ 10 ^ k := by
  have hhundredth : ((2 : ℚ) ^ a) ^ 100 ≤ ((10 : ℚ) ^ k) ^ 100 :=
    calc ((2 : ℚ) ^ a) ^ 100 = 2 ^ (a * 100) := by rw [zpow_mul]; rfl
      _ = (2 ^ (100 : Int)) ^ a := by rw [← zpow_mul, mul_comm]
      _ ≤ (10 ^ (31 : Int)) ^ a := zpow_le_zpow_left₀ ha (by norm_num) (by norm_num)
      _ = 10 ^ (31 * a) := by rw [← zpow_mul]
      _ ≤ 10 ^ (k * 100) := zpow_le_zpow_right₀ (by norm_num) (by omega)
      _ = (10 ^ k) ^ 100 := by rw [zpow_mul]; rfl
  exact (pow_le_pow_iff_left₀ (by positivity) (by positivity) (by norm_num)).1 hhundredth

/-- From a power of ten that is not too large the search finds the least one above the double. -/
theorem scaleFrom_spec {fuel : Nat} {k : Int} (hlow : (10 : ℚ) ^ (k - 1) ≤ m * 2 ^ e)
    (hhigh : (m : ℚ) * 2 ^ e < 10 ^ (k + fuel)) :
    (10 : ℚ) ^ ((interval m e).scaleFrom fuel k - 1) ≤ m * 2 ^ e ∧
      (m : ℚ) * 2 ^ e < 10 ^ (interval m e).scaleFrom fuel k := by
  induction fuel generalizing k with
  | zero =>
    rw [Interval.scaleFrom]
    exact ⟨hlow, by simpa using hhigh⟩
  | succ fuel ih =>
    have hten : (0 : ℚ) < 10 ^ k := by positivity
    obtain ⟨hfloor, hfloor'⟩ := floor_spec m e k
    rw [Interval.scaleFrom]
    split
    · rename_i hzero
      rw [hzero, div_lt_iff₀ hten] at hfloor'
      exact ⟨hlow, by simpa using hfloor'⟩
    · rename_i hne
      have hone : (1 : ℚ) ≤ (interval m e).floor k := by
        exact_mod_cast Nat.one_le_iff_ne_zero.2 hne
      refine ih ?_ ?_
      · rw [add_sub_cancel_right]
        have := (le_div_iff₀ hten).1 (hone.trans hfloor)
        linarith
      · rw [add_assoc, add_comm (1 : Int)]
        exact_mod_cast hhigh

theorem two_zpow_log2 (hm : m ≠ 0) (e : Int) :
    (2 : ℚ) ^ ((m.log2 : Int) + e) ≤ m * 2 ^ e ∧
      (m : ℚ) * 2 ^ e < 2 ^ ((m.log2 : Int) + e + 1) := by
  have hpow : (0 : ℚ) < 2 ^ e := by positivity
  have hlow : (2 : ℚ) ^ m.log2 ≤ m := by exact_mod_cast Nat.log2_self_le hm
  have hhigh : (m : ℚ) < 2 ^ (m.log2 + 1) := by exact_mod_cast Nat.lt_log2_self
  constructor
  · rw [zpow_add₀ (by norm_num), zpow_natCast]
    exact mul_le_mul_of_nonneg_right hlow hpow.le
  · rw [add_right_comm, zpow_add₀ (by norm_num)]
    have hcast : (2 : ℚ) ^ ((m.log2 : Int) + 1) = 2 ^ (m.log2 + 1) := zpow_natCast 2 (m.log2 + 1)
    rw [hcast]
    exact mul_lt_mul_of_pos_right hhigh hpow

/-- The guess of the search is low enough, and not too low. -/
theorem guess_spec (hc : Canonical m e) (hm : m ≠ 0) :
    let bits : Int := (m.log2 : Int) + e
    let guess := if bits ≥ 0 then bits * 3 / 10 - 1 else bits * 31 / 100 - 2
    (10 : ℚ) ^ (guess - 1) ≤ m * 2 ^ e ∧ (m : ℚ) * 2 ^ e < 10 ^ (guess + (64 : Nat)) := by
  intro bits guess
  obtain ⟨hlow, hhigh⟩ := two_zpow_log2 hm e
  have hlog : m.log2 < 53 := (Nat.log2_lt hm).2 hc.lt
  have hleast : -1074 ≤ e := hc.least
  have hgreatest : e ≤ 971 := hc.greatest
  have hbits : -1074 ≤ bits ∧ bits ≤ 1023 := by omega
  by_cases hsign : bits ≥ 0
  · have hguess : guess = bits * 3 / 10 - 1 := if_pos hsign
    refine ⟨le_trans (ten_zpow_le hsign ?_) hlow,
      hhigh.trans_le (le_ten_zpow (by omega) ?_)⟩
    · omega
    · show 31 * (bits + 1) ≤ 100 * (guess + (64 : Nat))
      omega
  · have hguess : guess = bits * 31 / 100 - 2 := if_neg hsign
    -- Below one the comparisons are those of the inverse numbers.
    constructor
    · refine le_trans ?_ hlow
      have hinv : (2 : ℚ) ^ (-bits) ≤ 10 ^ (-(guess - 1)) := le_ten_zpow (by omega) (by omega)
      rw [zpow_neg, zpow_neg] at hinv
      exact (inv_le_inv₀ (by positivity) (by positivity)).1 hinv
    · refine hhigh.trans_le ?_
      have hinv : (10 : ℚ) ^ (-(guess + (64 : Nat))) ≤ 2 ^ (-(bits + 1)) :=
        ten_zpow_le (by omega) (by omega)
      rw [zpow_neg, zpow_neg] at hinv
      exact (inv_le_inv₀ (by positivity) (by positivity)).1 hinv

/-! ## The main statement -/

/-- **The shortest decimal of a double is rounded to the double.** -/
theorem shortest_rounds (hc : Canonical m e) (hm : m ≠ 0) : Rounds m e (shortest m e).value := by
  obtain ⟨hguess, hguess'⟩ := guess_spec hc hm
  obtain ⟨hlow, -⟩ := scaleFrom_spec hguess hguess'
  unfold shortest
  simp only
  generalize (interval m e).scaleFrom 64 _ = top at hlow
  have hfine : (10 : ℚ) ^ (top - 17) ≤ m * 2 ^ e / 10 ^ 16 := by
    rw [le_div_iff₀ (by norm_num)]
    calc (10 : ℚ) ^ (top - 17) * 10 ^ 16 = 10 ^ (top - 17) * 10 ^ (16 : Int) := by rfl
      _ = 10 ^ (top - 1) := by rw [← zpow_add₀ (by norm_num)]; congr 1; omega
      _ ≤ m * 2 ^ e := hlow
  have hsome : ∃ j < 17, ((interval m e).onGrid? (top - (1 + j : Nat))).isSome :=
    ⟨16, by decide, onGrid?_of_fine hc hm hfine⟩
  obtain ⟨d, hsearch, hholds⟩ := search_spec hsome
  rw [hsearch]
  simp only
  rw [value_strip]
  exact (holds_iff hm e d).1 hholds

end RemoteModel.Decimal
