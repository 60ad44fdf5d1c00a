import RemoteModel.Proofs.Number.Rounding

/-!
# The quantity of a double

A double stands for a rational number or for one of the two infinities, which is its quantity; a
`nan` has none.

**Main statements.** `same_iff`: doubles in canonical form are the same exactly if they have the
same quantity. A number has one canonical form (`Canonical.unique`), up to the sign of a zero.
`toInt?_iff`: a double is an integer exactly if its quantity is.
-/

namespace RemoteModel

/-- What a number stands for: a rational number or one of the two infinities. -/
inductive Quantity where
  | rational (q : ℚ)
  | infinite (negative : Bool)

namespace Double

variable {x y : Double} {m m' : Nat} {e e' n : Int}

/-- The quantity of a double; a `nan` has none. -/
def quantity? : Double → Option Quantity
  | .finite negative m e => some (.rational (signed negative m * 2 ^ e))
  | .infinite negative => some (.infinite negative)
  | .nan => none

theorem signed_mul (negative : Bool) (a b : Nat) :
    signed negative (a * b) = signed negative a * b := by
  cases negative <;> simp [signed]

theorem dvd_signed {p : Nat} (negative : Bool) (m : Nat) :
    (p : Int) ∣ signed negative m ↔ p ∣ m := by
  cases negative <;> simp [signed, Int.natCast_dvd_natCast]

theorem decide_signed (negative : Bool) (hm : m ≠ 0) :
    decide (signed negative m < 0) = negative := by
  cases negative with
  | false => simp [signed]
  | true =>
    simp only [signed, if_true, decide_eq_true_eq]
    omega

theorem abs_signed (negative : Bool) (m : Nat) : |(signed negative m : ℚ)| = m := by
  cases negative <;> simp [signed]

/-- **A double is an integer** exactly if its quantity is. -/
theorem toInt?_iff : x.toInt? = some n ↔ x.quantity? = some (.rational n) := by
  cases x with
  | finite negative m e =>
    by_cases he : 0 ≤ e
    · have hpow : (2 : ℚ) ^ e = (Nat.pow 2 e.toNat : Nat) := zpow_of_nonneg 2 he
      simp only [toInt?, ge_iff_le, if_pos he, quantity?, Option.some.injEq,
        Quantity.rational.injEq, hpow, signed_mul]
      exact_mod_cast Iff.rfl
    · have hpow : (2 : ℚ) ^ e = ((Nat.pow 2 (-e).toNat : Nat) : ℚ)⁻¹ := zpow_of_neg 2 he
      have hpos : 0 < Nat.pow 2 (-e).toNat := Nat.pow_pos (by decide)
      simp only [toInt?, ge_iff_le, if_neg he, quantity?, Option.some.injEq,
        Quantity.rational.injEq, hpow]
      generalize Nat.pow 2 (-e).toNat = p at hpos
      have hquotient : (signed negative m : ℚ) * (p : ℚ)⁻¹ = n ↔ signed negative m = n * p := by
        rw [← div_eq_mul_inv, div_eq_iff (by exact_mod_cast hpos.ne')]
        exact_mod_cast Iff.rfl
      rw [hquotient]
      split_ifs with hp
      · -- The significand is divided without a rest.
        obtain ⟨k, rfl⟩ := Nat.dvd_of_mod_eq_zero hp
        rw [Nat.mul_div_cancel_left k hpos, Nat.mul_comm, signed_mul, Option.some.injEq,
          mul_left_inj' (by exact_mod_cast hpos.ne')]
      · refine ⟨nofun, fun h => absurd ?_ hp⟩
        have hdvd : (p : Int) ∣ signed negative m := h ▸ dvd_mul_left (p : Int) n
        exact Nat.mod_eq_zero_of_dvd ((dvd_signed negative m).1 hdvd)
  | infinite negative => simp [toInt?, quantity?]
  | nan => simp [toInt?, quantity?]

/-- Of two forms of a number the one with the lesser exponent would not fit. -/
theorem Canonical.exponent_le (hc : Canonical m e) (hc' : Canonical m' e')
    (h : (m : ℚ) * 2 ^ e = m' * 2 ^ e') : e' ≤ e := by
  by_contra hlt
  obtain ⟨k, rfl⟩ : ∃ k : Nat, e' = e + (k + 1 : Nat) := ⟨(e' - e - 1).toNat, by omega⟩
  have hfull : 2 ^ 52 ≤ m' := hc'.full (by have hleast := hc.least; omega)
  have hm : m = m' * 2 ^ (k + 1) := by
    rw [two_zpow_add, ← mul_assoc, mul_left_inj' (by positivity)] at h
    exact_mod_cast h
  have htwo : 2 ≤ 2 ^ (k + 1) := Nat.le_self_pow (Nat.succ_ne_zero k) 2
  have hle : 2 ^ 52 * 2 ≤ m := hm ▸ Nat.mul_le_mul hfull htwo
  have hlt := hc.lt
  omega

/-- A number has one canonical form. -/
theorem Canonical.unique (hc : Canonical m e) (hc' : Canonical m' e')
    (h : (m : ℚ) * 2 ^ e = m' * 2 ^ e') : m = m' ∧ e = e' := by
  have he : e = e' := Int.le_antisymm (hc'.exponent_le hc h.symm) (hc.exponent_le hc' h)
  subst he
  rw [mul_left_inj' (by positivity)] at h
  exact ⟨by exact_mod_cast h, rfl⟩

/-- **Doubles are the same** exactly if they have the same quantity. -/
theorem same_iff (hx : x.IsCanonical) (hy : y.IsCanonical) :
    x.same y = true ↔ ∃ q, x.quantity? = some q ∧ y.quantity? = some q := by
  cases x with
  | nan => simp [same, quantity?]
  | infinite negative =>
    cases y with
    | infinite negative' => simp [same, quantity?, isZero, eq_comm (a := negative)]
    | _ => simp [same, quantity?, isZero]
  | finite negative m e =>
    cases y with
    | nan => simp [same, quantity?]
    | infinite negative' => simp [same, quantity?, isZero]
    | finite negative' m' e' =>
      simp only [same, isZero, Bool.or_eq_true, Bool.and_eq_true, beq_iff_eq, finite.injEq,
        quantity?, Option.some.injEq, exists_eq_left', Quantity.rational.injEq]
      constructor
      · rintro (⟨rfl, rfl⟩ | ⟨rfl, rfl, rfl⟩)
        · simp [signed]
        · rfl
      · intro h
        have habs := congrArg abs h
        rw [abs_mul, abs_mul, abs_signed, abs_signed, abs_of_pos (by positivity),
          abs_of_pos (by positivity)] at habs
        obtain ⟨rfl, rfl⟩ := Canonical.unique hx hy habs.symm
        have hsigned : signed negative' m = signed negative m := by
          rw [mul_left_inj' (by positivity)] at h
          exact_mod_cast h
        by_cases hm : m = 0
        · exact .inl ⟨hm, hm⟩
        · refine .inr ⟨?_, rfl, rfl⟩
          rw [← decide_signed negative hm, ← hsigned, decide_signed negative' hm]

end Double

end RemoteModel
