import Mathlib.Algebra.Order.Field.Power
import Mathlib.Tactic.FieldSimp
import Mathlib.Tactic.Linarith
import Mathlib.Tactic.NormNum
import Mathlib.Tactic.Positivity
import Mathlib.Tactic.Ring
import RemoteModel.Number.Double

/-!
# Rounding to doubles

A double `m · 2 ^ e` in canonical form is the nearest one to every number of an interval around it:
from half a step below to half a step above, where the step below a power of two is only half as
wide, and with its ends if `m` is even (`Rounds`).

**Main statement.** `ofQuotient_of_rounds`: a quotient in the interval of a double is rounded to
that double.

The quotient has the exponent of the double, and then its scaled significand is rounded to `m`; or
it lies below the power of two that the double is, has the exponent before, and its significand is
rounded up to the next power.
-/

namespace RemoteModel.Double

variable {num den m : Nat} {e : Int} {q : ℚ}

/-! ## Powers -/

theorem zpow_of_nonneg (b : Nat) (h : 0 ≤ e) : (b : ℚ) ^ e = (Nat.pow b e.toNat : Nat) := by
  obtain ⟨n, rfl⟩ := Int.eq_ofNat_of_zero_le h
  simp

theorem zpow_of_neg (b : Nat) (h : ¬ 0 ≤ e) : (b : ℚ) ^ e = ((Nat.pow b (-e).toNat : Nat) : ℚ)⁻¹ := by
  obtain ⟨n, rfl⟩ : ∃ n : Nat, e = -n := ⟨(-e).toNat, by omega⟩
  simp

theorem two_zpow_succ (e : Int) : (2 : ℚ) ^ (e + 1) = 2 * 2 ^ e := by
  rw [zpow_add_one₀ (by norm_num)]
  ring

theorem two_zpow_add (e : Int) (n : Nat) : (2 : ℚ) ^ (e + n) = 2 ^ n * 2 ^ e := by
  rw [zpow_add₀ (by norm_num), zpow_natCast]
  ring

/-! ## Scaling -/

theorem scaled_eq (num : Nat) (hden : 0 < den) (e : Int) :
    0 < (scaled num den e).2 ∧
      ((scaled num den e).1 : ℚ) / (scaled num den e).2 = num / den / 2 ^ e := by
  unfold scaled
  by_cases he : 0 ≤ e
  · have hpow : (2 : ℚ) ^ e = (Nat.pow 2 e.toNat : Nat) := zpow_of_nonneg 2 he
    rw [if_pos he, hpow]
    refine ⟨Nat.mul_pos hden (Nat.pow_pos (by decide)), ?_⟩
    rw [Nat.cast_mul, div_div]
  · have hpow : (2 : ℚ) ^ e = ((Nat.pow 2 (-e).toNat : Nat) : ℚ)⁻¹ := zpow_of_neg 2 he
    rw [if_neg he, hpow]
    refine ⟨hden, ?_⟩
    rw [Nat.cast_mul, div_inv_eq_mul]
    ring

theorem log2Quotient_spec (hnum : 0 < num) (hden : 0 < den) :
    (2 : ℚ) ^ log2Quotient num den ≤ num / den ∧
      (num : ℚ) / den < 2 ^ (log2Quotient num den + 1) := by
  have hden' : (0 : ℚ) < den := by exact_mod_cast hden
  have hnumlow : (2 : ℚ) ^ num.log2 ≤ num := by exact_mod_cast Nat.log2_self_le hnum.ne'
  have hnumhigh : (num : ℚ) < 2 ^ (num.log2 + 1) := by exact_mod_cast Nat.lt_log2_self
  have hdenlow : (2 : ℚ) ^ den.log2 ≤ den := by exact_mod_cast Nat.log2_self_le hden.ne'
  have hdenhigh : (den : ℚ) < 2 ^ (den.log2 + 1) := by exact_mod_cast Nat.lt_log2_self
  -- The difference of the logarithms is the one that is looked for, or it is one too much.
  have hsplit : (2 : ℚ) ^ ((num.log2 : Int) - den.log2) = 2 ^ num.log2 / 2 ^ den.log2 := by
    rw [zpow_sub₀ (by norm_num), zpow_natCast, zpow_natCast]
  have hpos : (0 : ℚ) < 2 ^ den.log2 := by positivity
  have hpos' : (0 : ℚ) < 2 ^ num.log2 := by positivity
  have hlow : (2 : ℚ) ^ ((num.log2 : Int) - den.log2) < 2 * (num / den) := by
    rw [hsplit, ← mul_div_assoc, div_lt_div_iff₀ hpos hden']
    rw [pow_succ] at hdenhigh
    nlinarith
  have hhigh : (num : ℚ) / den < 2 * 2 ^ ((num.log2 : Int) - den.log2) := by
    rw [hsplit, ← mul_div_assoc, div_lt_div_iff₀ hden' hpos]
    rw [pow_succ] at hnumhigh
    nlinarith
  obtain ⟨hscaled, heq⟩ := scaled_eq num hden ((num.log2 : Int) - den.log2)
  have hscaled' : (0 : ℚ) < (scaled num den ((num.log2 : Int) - den.log2)).2 := by
    exact_mod_cast hscaled
  have hpow : (0 : ℚ) < 2 ^ ((num.log2 : Int) - den.log2) := by positivity
  unfold log2Quotient
  simp only
  split
  · rename_i hlt
    have hbelow : (num : ℚ) / den < 2 ^ ((num.log2 : Int) - den.log2) := by
      rw [← div_lt_one hpow, ← heq, div_lt_one hscaled']
      exact_mod_cast hlt
    rw [sub_add_cancel, zpow_sub_one₀ (by norm_num)]
    exact ⟨by linarith, hbelow⟩
  · rename_i hle
    have habove : (2 : ℚ) ^ ((num.log2 : Int) - den.log2) ≤ num / den := by
      rw [← one_le_div hpow, ← heq, one_le_div hscaled']
      exact_mod_cast Nat.le_of_not_lt hle
    rw [two_zpow_succ]
    exact ⟨habove, hhigh⟩

/-! ## Rounding to integers -/

/-- A quotient is rounded to the integer that is at most half away, and to an even one if two are. -/
theorem divRound_eq (hden : 0 < den) (hlow : 2 * (m * den) ≤ 2 * num + den)
    (hhigh : 2 * num ≤ 2 * (m * den) + den)
    (hodd : m % 2 = 1 → 2 * (m * den) ≠ 2 * num + den ∧ 2 * num ≠ 2 * (m * den) + den) :
    divRound num den = m := by
  have hsplit : num = num / den * den + num % den := by
    rw [Nat.mul_comm]
    exact (Nat.div_add_mod num den).symm
  have hrest := Nat.mod_lt num hden
  unfold divRound
  simp only [Bool.or_eq_true, Bool.and_eq_true, decide_eq_true_eq, beq_iff_eq]
  generalize num / den = q at hsplit ⊢
  generalize num % den = r at hsplit hrest ⊢
  rcases Nat.lt_trichotomy q m with hlt | rfl | hgt
  · -- Only the integer above can be meant.
    have hle : (q + 1) * den ≤ m * den := Nat.mul_le_mul_right den hlt
    have hnext : m = q + 1 := by
      by_contra hne
      have hle' : (q + 2) * den ≤ m * den := Nat.mul_le_mul_right den (by omega)
      rw [Nat.add_mul] at hle'
      omega
    subst hnext
    rw [Nat.add_mul] at hlow hhigh hodd
    rw [if_pos]
    by_cases hmore : 2 * r > den
    · exact .inl hmore
    · exact .inr ⟨by omega, by omega⟩
  · rw [if_neg]
    omega
  · have hle : (m + 1) * den ≤ q * den := Nat.mul_le_mul_right den hgt
    rw [Nat.add_mul] at hle
    omega

/-! ## Intervals -/

/-- A significand and an exponent in canonical form. -/
structure Canonical (m : Nat) (e : Int) : Prop where
  lt : m < 2 ^ 53
  least : leastExponent ≤ e
  greatest : e ≤ greatestExponent
  full : e ≠ leastExponent → 2 ^ 52 ≤ m

theorem Canonical.eq_leastExponent (hc : Canonical 0 e) : e = leastExponent := by
  by_contra hne
  exact absurd (hc.full hne) (by decide)

/-- A double in canonical form. -/
def IsCanonical : Double → Prop
  | .finite _ m e => Canonical m e
  | _ => True

/-- How far below a double the numbers are that are rounded to it, in steps. -/
def below (m : Nat) (e : Int) : ℚ := if m = 2 ^ 52 ∧ leastExponent < e then 1 / 4 else 1 / 2

/-- The number, divided by `2 ^ e`, is in the interval of the double `m · 2 ^ e`. -/
structure Near (m : Nat) (e : Int) (x : ℚ) : Prop where
  low : m - below m e ≤ x
  high : x ≤ m + 1 / 2
  strict : m % 2 = 1 → m - below m e < x ∧ x < m + 1 / 2

/-- The number is in the interval of the double `m · 2 ^ e`. -/
def Rounds (m : Nat) (e : Int) (q : ℚ) : Prop := Near m e (q / 2 ^ e)

theorem below_pos (m : Nat) (e : Int) : 0 < below m e := by
  unfold below
  split <;> norm_num

theorem below_le (m : Nat) (e : Int) : below m e ≤ 1 / 2 := by
  unfold below
  split <;> norm_num

/-- Rounding at the exponent of the double. -/
theorem divRound_of_near (hden : 0 < den) (h : Near m e (num / den)) :
    divRound num den = m := by
  have hden' : (0 : ℚ) < den := by exact_mod_cast hden
  have hle := below_le m e
  have hlow : (m : ℚ) - 1 / 2 ≤ num / den := by linarith [h.low]
  have hhigh : (num : ℚ) / den ≤ m + 1 / 2 := h.high
  rw [le_div_iff₀ hden'] at hlow
  rw [div_le_iff₀ hden'] at hhigh
  refine divRound_eq hden ?_ ?_ fun hodd => ?_
  · have hcast : (2 * (m * den) : ℚ) ≤ 2 * num + den := by linarith
    exact_mod_cast hcast
  · have hcast : (2 * num : ℚ) ≤ 2 * (m * den) + den := by linarith
    exact_mod_cast hcast
  · obtain ⟨hlow, hhigh⟩ := h.strict hodd
    have hlow : (m : ℚ) - 1 / 2 < num / den := by linarith
    rw [lt_div_iff₀ hden'] at hlow
    rw [div_lt_iff₀ hden'] at hhigh
    constructor
    · intro heq
      have hcast : (2 * (m * den) : ℚ) = 2 * num + den := by exact_mod_cast heq
      linarith
    · intro heq
      have hcast : (2 * num : ℚ) = 2 * (m * den) + den := by exact_mod_cast heq
      linarith

/-! ## Quotients -/

theorem pos_of_quotient_pos (h : (0 : ℚ) < num / den) : 0 < num := by
  refine Nat.pos_of_ne_zero fun hzero => ?_
  rw [hzero, Nat.cast_zero, zero_div] at h
  exact lt_irrefl _ h

theorem le_of_zpow {a b : Int} (h : (2 : ℚ) ^ a ≤ q) (h' : q < 2 ^ (b + 1)) : a ≤ b := by
  have hlt := (zpow_lt_zpow_iff_right₀ (by norm_num : (1 : ℚ) < 2)).1 (h.trans_lt h')
  omega

theorem ofQuotient_of_exponent_eq (hc : Canonical m e) (negative : Bool) (hnum : num ≠ 0)
    (hden : 0 < den) (h : Rounds m e (num / den))
    (hsame : max leastExponent (log2Quotient num den - 52) = e) :
    ofQuotient negative num den = .finite negative m e := by
  obtain ⟨hscaled, heq⟩ := scaled_eq num hden e
  have hround : divRound (scaled num den e).1 (scaled num den e).2 = m := by
    refine divRound_of_near (e := e) hscaled ?_
    rw [heq]
    exact h
  have hne : m ≠ Nat.pow 2 53 := Nat.ne_of_lt hc.lt
  unfold ofQuotient
  rw [if_neg hnum]
  simp only [hsame, hround, if_neg hne]
  rw [if_neg (Int.not_lt.2 hc.greatest)]

/-- A quotient a quarter of a step below a power of two, at most, has the exponent before. -/
theorem ofQuotient_of_lt (negative : Bool) (hden : 0 < den) (hleast : leastExponent < e)
    (hgreatest : e ≤ greatestExponent) (hlow : (2 ^ 52 - 1 / 4) * 2 ^ e ≤ (num : ℚ) / den)
    (hhigh : (num : ℚ) / den < 2 ^ 52 * 2 ^ e) :
    ofQuotient negative num den = .finite negative (2 ^ 52) e := by
  have hpow : (0 : ℚ) < 2 ^ e := by positivity
  have hnum : 0 < num := pos_of_quotient_pos (lt_of_lt_of_le (by positivity) hlow)
  obtain ⟨hloglow, hloghigh⟩ := log2Quotient_spec hnum hden
  have hlog : log2Quotient num den = e + 51 := by
    refine le_antisymm (le_of_zpow hloglow ?_) (le_of_zpow (q := (num : ℚ) / den) ?_ hloghigh)
    · rw [add_assoc]
      exact hhigh.trans_eq (two_zpow_add e 52).symm
    · refine (two_zpow_add e 51).trans_le (le_trans ?_ hlow)
      nlinarith
  have hbefore : max leastExponent (log2Quotient num den - 52) = e - 1 := by omega
  obtain ⟨hscaled, heq⟩ := scaled_eq num hden (e - 1)
  have hround : divRound (scaled num den (e - 1)).1 (scaled num den (e - 1)).2 = 2 ^ 53 := by
    have hdouble : (num : ℚ) / den / 2 ^ (e - 1) = 2 * (num / den) / 2 ^ e := by
      rw [zpow_sub_one₀ (by norm_num)]
      field_simp
    refine divRound_of_near (e := 0) hscaled ?_
    rw [heq, hdouble]
    refine ⟨?_, ?_, fun hodd => absurd hodd (by decide)⟩
    · rw [le_div_iff₀ hpow]
      norm_num [below]
      linarith
    · rw [div_le_iff₀ hpow]
      norm_num
      linarith
  unfold ofQuotient
  rw [if_neg hnum.ne']
  have hcarry : 2 ^ 53 = Nat.pow 2 53 := rfl
  simp only [hbefore, hround, if_pos hcarry, Int.sub_add_cancel]
  rw [if_neg (Int.not_lt.2 hgreatest)]
  rfl

/-- **A quotient in the interval of a double is rounded to it.** -/
theorem ofQuotient_of_rounds (hc : Canonical m e) (hm : m ≠ 0) (negative : Bool) (hden : 0 < den)
    (h : Rounds m e (num / den)) : ofQuotient negative num den = .finite negative m e := by
  have hpow : (0 : ℚ) < 2 ^ e := by positivity
  have hm' : (1 : ℚ) ≤ m := by exact_mod_cast Nat.one_le_iff_ne_zero.2 hm
  have hbelow := below_le m e
  have hlow : (m - below m e) * 2 ^ e ≤ num / den := (le_div_iff₀ hpow).1 h.low
  have hhigh : (num : ℚ) / den ≤ (m + 1 / 2) * 2 ^ e := (div_le_iff₀ hpow).1 h.high
  have hnum : 0 < num := by
    refine pos_of_quotient_pos (lt_of_lt_of_le (mul_pos ?_ hpow) hlow)
    linarith
  obtain ⟨hloglow, hloghigh⟩ := log2Quotient_spec hnum hden
  have hlog : log2Quotient num den ≤ e + 52 := by
    have hlt : (m : ℚ) + 1 ≤ 2 ^ 53 := by exact_mod_cast hc.lt
    have htop : (2 : ℚ) ^ (e + 52 + 1) = 2 ^ 53 * 2 ^ e := by
      rw [add_assoc]
      exact two_zpow_add e 53
    refine le_of_zpow hloglow (hhigh.trans_lt ?_)
    rw [htop]
    nlinarith
  by_cases hsame : max leastExponent (log2Quotient num den - 52) = e
  · exact ofQuotient_of_exponent_eq hc negative hnum.ne' hden h hsame
  · -- The quotient is below the power of two that the double is.
    have hleast := hc.least
    have hlt : log2Quotient num den < e + 52 ∧ leastExponent < e := by omega
    have hunder : (num : ℚ) / den < 2 ^ 52 * 2 ^ e :=
      calc (num : ℚ) / den < 2 ^ (log2Quotient num den + 1) := hloghigh
        _ ≤ 2 ^ (e + 52) := zpow_le_zpow_right₀ (by norm_num) (by omega)
        _ = 2 ^ 52 * 2 ^ e := two_zpow_add e 52
    have hfull : 2 ^ 52 ≤ m := hc.full (by omega)
    have hpower : m = 2 ^ 52 := by
      by_contra hne
      have hmore : (2 : ℚ) ^ 52 + 1 ≤ m := by exact_mod_cast Nat.lt_of_le_of_ne hfull (Ne.symm hne)
      nlinarith
    subst hpower
    have hquarter : below (2 ^ 52) e = 1 / 4 := if_pos ⟨rfl, hlt.2⟩
    rw [hquarter] at hlow
    refine ofQuotient_of_lt negative hden hlt.2 hc.greatest ?_ hunder
    exact_mod_cast hlow

theorem divRound_bounds (num den : Nat) :
    num / den ≤ divRound num den ∧ divRound num den ≤ num / den + 1 := by
  unfold divRound
  simp only
  split <;> omega

/-- At its exponent a quotient has at most 53 bits in front of the point, and all of them above the
least exponent. -/
theorem floor_scaled (hnum : 0 < num) (hden : 0 < den)
    (he : max leastExponent (log2Quotient num den - 52) = e) :
    (scaled num den e).1 / (scaled num den e).2 < 2 ^ 53 ∧
      (e ≠ leastExponent → 2 ^ 52 ≤ (scaled num den e).1 / (scaled num den e).2) := by
  obtain ⟨hlow, hhigh⟩ := log2Quotient_spec hnum hden
  obtain ⟨hscaled, heq⟩ := scaled_eq num hden e
  have hscaled' : (0 : ℚ) < (scaled num den e).2 := by exact_mod_cast hscaled
  have hpow : (0 : ℚ) < 2 ^ e := by positivity
  constructor
  · have hbound : (num : ℚ) / den < 2 ^ 53 * 2 ^ e :=
      calc (num : ℚ) / den < 2 ^ (log2Quotient num den + 1) := hhigh
        _ ≤ 2 ^ (e + 53) := zpow_le_zpow_right₀ (by norm_num) (by omega)
        _ = 2 ^ 53 * 2 ^ e := two_zpow_add e 53
    rw [Nat.div_lt_iff_lt_mul hscaled]
    rw [← div_lt_iff₀ hpow, ← heq, div_lt_iff₀ hscaled'] at hbound
    exact_mod_cast hbound
  · intro hne
    have hbound : 2 ^ 52 * 2 ^ e ≤ (num : ℚ) / den :=
      calc (2 : ℚ) ^ 52 * 2 ^ e = 2 ^ (e + 52) := (two_zpow_add e 52).symm
        _ ≤ 2 ^ log2Quotient num den := zpow_le_zpow_right₀ (by norm_num) (by omega)
        _ ≤ num / den := hlow
    rw [Nat.le_div_iff_mul_le hscaled]
    rw [← le_div_iff₀ hpow, ← heq, le_div_iff₀ hscaled'] at hbound
    exact_mod_cast hbound

/-- **Rounding gives doubles in canonical form.** -/
theorem isCanonical_ofQuotient (negative : Bool) (num : Nat) (hden : 0 < den) :
    IsCanonical (ofQuotient negative num den) := by
  unfold ofQuotient
  by_cases hnum : num = 0
  · rw [if_pos hnum]
    exact ⟨by decide, by decide, by decide, fun hne => absurd rfl hne⟩
  · rw [if_neg hnum]
    simp only
    generalize hexponent : max leastExponent (log2Quotient num den - 52) = e
    have hleast : leastExponent ≤ e := hexponent ▸ le_max_left _ _
    obtain ⟨hlt, hfull⟩ := floor_scaled (Nat.pos_of_ne_zero hnum) hden hexponent
    obtain ⟨hfloor, hfloor'⟩ := divRound_bounds (scaled num den e).1 (scaled num den e).2
    generalize divRound (scaled num den e).1 (scaled num den e).2 = k at hfloor hfloor'
    by_cases hcarry : k = Nat.pow 2 53
    · rw [if_pos hcarry]
      simp only
      split
      · trivial
      · rename_i hgreatest
        exact ⟨by decide, by omega, Int.not_lt.1 hgreatest, fun _ => Nat.le_refl _⟩
    · rw [if_neg hcarry]
      simp only
      split
      · trivial
      · rename_i hgreatest
        have hne : k ≠ 2 ^ 53 := hcarry
        exact ⟨by omega, hleast, Int.not_lt.1 hgreatest, fun he => (hfull he).trans hfloor⟩

/-! ## Decimals -/

/-- A number is between two powers of ten, as the count of its digits says. -/
theorem digitCount_spec {n : Nat} (hn : n ≠ 0) :
    (10 : ℚ) ^ ((digitCount n : Int) - 1) ≤ n ∧ (n : ℚ) < 10 ^ (digitCount n : Int) := by
  have hlength := List.length_pos_iff.2 (Nat.toDigits_ne_nil (n := n) (b := 10))
  unfold digitCount
  rw [if_neg hn]
  generalize hk : (Nat.toDigits 10 n).length = k at hlength
  have hhigh : n < 10 ^ k := (Nat.length_toDigits_le_iff (by decide) hlength).1 hk.le
  obtain ⟨j, rfl⟩ : ∃ j, k = j + 1 := ⟨k - 1, by omega⟩
  have hlow : 10 ^ j ≤ n := by
    rcases Nat.eq_zero_or_pos j with rfl | hj
    · exact Nat.one_le_iff_ne_zero.2 hn
    · by_contra hlt
      have := (Nat.length_toDigits_le_iff (by decide) hj).2 (Nat.lt_of_not_le hlt)
      omega
  rw [Nat.cast_add, Nat.cast_one, add_sub_cancel_right, zpow_natCast]
  refine ⟨by exact_mod_cast hlow, ?_⟩
  have hpow : (10 : ℚ) ^ ((j : Int) + 1) = 10 ^ (j + 1) := by
    rw [← zpow_natCast]
    rfl
  rw [hpow]
  exact_mod_cast hhigh

theorem two_pow_lt_ten_pow : (2 : ℚ) ^ (1100 : Nat) < 10 ^ (400 : Nat) :=
  calc (2 : ℚ) ^ (1100 : Nat) < 2 ^ (3 * 400) := pow_lt_pow_right₀ (by norm_num) (by norm_num)
    _ = 8 ^ (400 : Nat) := by rw [pow_mul]; norm_num
    _ ≤ 10 ^ (400 : Nat) := pow_le_pow_left₀ (by norm_num) (by norm_num) _

/-- What is rounded to a double is in the range of doubles. -/
theorem Rounds.range (h : Rounds m e q) (hc : Canonical m e) (hm : m ≠ 0) :
    (10 : ℚ) ^ (-400 : Int) < q ∧ q < 10 ^ (400 : Int) := by
  have hpow : (0 : ℚ) < 2 ^ e := by positivity
  have hm' : (1 : ℚ) ≤ m := by exact_mod_cast Nat.one_le_iff_ne_zero.2 hm
  have hmlt : (m : ℚ) + 1 ≤ 2 ^ 53 := by exact_mod_cast hc.lt
  have hbelow := below_le m e
  have hlow : (m - below m e) * 2 ^ e ≤ q := (le_div_iff₀ hpow).1 h.low
  have hhigh : q ≤ (m + 1 / 2) * 2 ^ e := (div_le_iff₀ hpow).1 h.high
  constructor
  · have hleast : (2 : ℚ) ^ (-1100 : Int) ≤ 2 ^ (e - 1) :=
      zpow_le_zpow_right₀ (by norm_num) (by have := hc.least; unfold leastExponent at this; omega)
    calc (10 : ℚ) ^ (-400 : Int) < 2 ^ (-1100 : Int) :=
          inv_strictAnti₀ (pow_pos (by norm_num) _) two_pow_lt_ten_pow
      _ ≤ 2 ^ (e - 1) := hleast
      _ = 1 / 2 * 2 ^ e := by rw [zpow_sub_one₀ (by norm_num)]; ring
      _ ≤ (m - below m e) * 2 ^ e := by nlinarith
      _ ≤ q := hlow
  · have hgreatest : (2 : ℚ) ^ (e + 53) ≤ 2 ^ (1100 : Int) :=
      zpow_le_zpow_right₀ (by norm_num) (by
        have := hc.greatest
        unfold greatestExponent at this
        omega)
    calc q ≤ (m + 1 / 2) * 2 ^ e := hhigh
      _ ≤ 2 ^ 53 * 2 ^ e := by nlinarith
      _ = 2 ^ (e + 53) := (two_zpow_add e 53).symm
      _ ≤ 2 ^ (1100 : Int) := hgreatest
      _ < 10 ^ (400 : Int) := two_pow_lt_ten_pow

/-- **A decimal in the interval of a double is rounded to it.** -/
theorem ofDecimal_of_rounds (hc : Canonical m e) (hm : m ≠ 0) (negative : Bool) {digits : Nat}
    {exponent : Int} (h : Rounds m e (digits * 10 ^ exponent)) :
    ofDecimal negative digits exponent = .finite negative m e := by
  obtain ⟨hlow, hhigh⟩ := h.range hc hm
  have hdigits : digits ≠ 0 := by
    rintro rfl
    have hten : (0 : ℚ) < 10 ^ (-400 : Int) := by positivity
    rw [Nat.cast_zero, zero_mul] at hlow
    linarith
  obtain ⟨hcountlow, hcounthigh⟩ := digitCount_spec hdigits
  have hpow : (0 : ℚ) < 10 ^ exponent := by positivity
  have hnotsmall : ¬ (digitCount digits : Int) + exponent < -400 := by
    intro hsmall
    have hle : (10 : ℚ) ^ ((digitCount digits : Int) + exponent) ≤ 10 ^ (-400 : Int) :=
      zpow_le_zpow_right₀ (by norm_num) hsmall.le
    rw [zpow_add₀ (by norm_num)] at hle
    nlinarith
  have hnotlarge : ¬ (digitCount digits : Int) + exponent > 400 := by
    intro hlarge
    have hle : (10 : ℚ) ^ (400 : Int) ≤ 10 ^ ((digitCount digits : Int) - 1 + exponent) :=
      zpow_le_zpow_right₀ (by norm_num) (by omega)
    rw [zpow_add₀ (by norm_num)] at hle
    nlinarith
  unfold ofDecimal
  simp only [hdigits, decide_false, Bool.false_or, hnotsmall, if_false,
    hnotlarge]
  by_cases he : exponent ≥ 0
  · rw [if_pos he]
    refine ofQuotient_of_rounds hc hm negative Nat.one_pos ?_
    have hten : (10 : ℚ) ^ exponent = (Nat.pow 10 exponent.toNat : Nat) := zpow_of_nonneg 10 he
    rwa [Nat.cast_one, div_one, Nat.cast_mul, ← hten]
  · rw [if_neg he]
    refine ofQuotient_of_rounds hc hm negative (Nat.pow_pos (by decide)) ?_
    have hten : (10 : ℚ) ^ exponent = ((Nat.pow 10 (-exponent).toNat : Nat) : ℚ)⁻¹ :=
      zpow_of_neg 10 he
    rwa [div_eq_mul_inv, ← hten]

/-- Every decimal is read as a double in canonical form. -/
theorem isCanonical_ofDecimal (negative : Bool) (digits : Nat) (exponent : Int) :
    IsCanonical (ofDecimal negative digits exponent) := by
  unfold ofDecimal
  simp only
  split
  · exact ⟨by decide, by decide, by decide, fun hne => absurd rfl hne⟩
  · split
    · trivial
    · split
      · exact isCanonical_ofQuotient negative _ Nat.one_pos
      · exact isCanonical_ofQuotient negative _ (Nat.pow_pos (by decide))

end RemoteModel.Double
