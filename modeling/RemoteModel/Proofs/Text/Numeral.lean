import RemoteModel.Text.Numeral

/-!
# Written numbers are read back

The decimal digits of a natural number are a numeral, and reading it gives the number again, as
long as it does not have too many digits.
-/

namespace RemoteModel.Text

theorem digit?_of_isDigit {c : Char} (h : c.isDigit) : digit? c = some (c.toNat - 48) := by
  refine digit?_of_asciiDigit? ?_
  have hc : 48 ≤ c.toNat ∧ c.toNat ≤ 57 := by
    simpa [Char.isDigit, UInt32.le_iff_toNat_le] using h
  show (if 0x30 ≤ c.toNat ∧ c.toNat < 0x30 + 10 then some (c.toNat - 0x30) else none) = _
  rw [if_pos (by omega)]

theorem isWhiteSpace_of_isDigit {c : Char} (h : c.isDigit) : isWhiteSpace c = false := by
  have hc : 48 ≤ c.toNat ∧ c.toNat ≤ 57 := by
    simpa [Char.isDigit, UInt32.le_iff_toNat_le] using h
  simp only [isWhiteSpace, Bool.or_eq_false_iff, Bool.and_eq_false_iff, decide_eq_false_iff_not,
    beq_eq_false_iff_ne]
  omega

theorem trimBy_eq_self {p : Char → Bool} {cs : List Char} (h : ∀ c ∈ cs, p c = false) :
    trimBy p cs = cs := by
  have hdrop : ∀ ds : List Char, (∀ c ∈ ds, p c = false) → ds.dropWhile p = ds := by
    intro ds hds
    cases ds with
    | nil => rfl
    | cons d ds => simp [hds d List.mem_cons_self]
  unfold trimBy
  rw [hdrop cs h, hdrop cs.reverse fun c hc => h c (List.mem_reverse.1 hc), List.reverse_reverse]

theorem grouped?_of_isDigit {cs : List Char} (hne : cs ≠ []) (h : ∀ c ∈ cs, c.isDigit) :
    grouped? digit? cs = some (cs.map fun c => c.toNat - 48) := by
  induction cs with
  | nil => exact absurd rfl hne
  | cons c cs ih =>
    have hc := digit?_of_isDigit (h c List.mem_cons_self)
    have hcs : ∀ d ∈ cs, d.isDigit := fun d hd => h d (List.mem_cons_of_mem _ hd)
    cases cs with
    | nil => simp [grouped?, hc]
    | cons d ds =>
      have hd : d ≠ '_' := fun hd => by simpa [hd] using hcs d List.mem_cons_self
      have hds := ih (List.cons_ne_nil _ _) hcs
      rw [grouped?, hc, hds]
      · rfl
      · exact List.cons_ne_nil _ _
      · intro rest hrest
        exact hd (List.cons.inj hrest).1

theorem signed_of_isDigit {cs : List Char} (h : ∀ c ∈ cs, c.isDigit) :
    signed cs = (false, cs) := by
  cases cs with
  | nil => rfl
  | cons c cs =>
    have hc := h c List.mem_cons_self
    have hminus : c ≠ '-' := fun hm => by simp [hm] at hc
    have hplus : c ≠ '+' := fun hp => by simp [hp] at hc
    rw [signed]
    · intro rest hrest
      exact hminus (List.cons.inj hrest).1
    · intro rest hrest
      exact hplus (List.cons.inj hrest).1

theorem valueOf_map_toNat (cs : List Char) :
    valueOf (cs.map fun c => c.toNat - 48) = Nat.ofDigitChars 10 cs 0 := by
  rw [Nat.ofDigitChars_eq_foldl, valueOf, List.foldl_map]
  rfl

/-- The digits of a number that is not zero do not begin with one. -/
theorem toDigits_eq_cons {n : Nat} (hn : 0 < n) :
    ∃ c cs, Nat.toDigits 10 n = c :: cs ∧ c ≠ '0' := by
  induction n using Nat.strongRecOn with
  | ind n ih =>
    by_cases hlt : n < 10
    · have hdigit : ∀ k < 10, 0 < k → Nat.digitChar k ≠ '0' := by decide
      exact ⟨n.digitChar, [], Nat.toDigits_of_lt_base hlt, hdigit n hlt hn⟩
    · obtain ⟨c, cs, hcs, hc⟩ := ih (n / 10) (by omega) (by omega)
      refine ⟨c, cs ++ [(n % 10).digitChar], ?_, hc⟩
      rw [Nat.toDigits_of_base_le (by decide) (by omega), hcs]
      rfl

/-- The least number with more digits than are read. -/
def numeralBound : Nat := Nat.pow 10 maxDigits

theorem pow_le_numeralBound {k : Nat} (h : k ≤ maxDigits) : Nat.pow 10 k ≤ numeralBound := by
  have hpow : ∀ m, k ≤ m → Nat.pow 10 k ≤ Nat.pow 10 m :=
    fun m hm => Nat.pow_le_pow_right (by decide) hm
  unfold numeralBound
  exact hpow maxDigits h

theorem le_numeralBound {n : Nat} (h : n ≤ 10) : n ≤ numeralBound :=
  Nat.le_trans h (pow_le_numeralBound (k := 1) (by decide))

theorem toList_toString (n : Nat) : (toString n).toList = Nat.toDigits 10 n := Nat.toList_repr

theorem not_mem_toString {c : Char} (hc : c.isDigit = false) (n : Nat) :
    c ∉ (toString n).toList := by
  rw [toList_toString]
  intro hmem
  exact Bool.false_ne_true
    (hc.symm.trans (Nat.isDigit_of_mem_toDigits (by decide) (by decide) hmem))

theorem toString_injective {m n : Nat} (h : toString m = toString n) : m = n := by
  have hdigits : Nat.toDigits 10 m = Nat.toDigits 10 n := by
    rw [← toList_toString, h, toList_toString]
  rw [← Nat.ofDigitChars_ten_toDigits (n := m), hdigits, Nat.ofDigitChars_ten_toDigits]

/-- Digits are read as the number that they write, unless there are too many of them. -/
theorem integer?_toString_eq (n : Nat) :
    integer? (toString n) =
      if (Nat.toDigits 10 n).length ≤ maxDigits then some (n : Int) else none := by
  have hdigits : ∀ c ∈ Nat.toDigits 10 n, c.isDigit := fun c hc =>
    Nat.isDigit_of_mem_toDigits (by decide) (by decide) hc
  unfold integer?
  rw [toList_toString, trimBy_eq_self fun c hc => isWhiteSpace_of_isDigit (hdigits c hc),
    signed_of_isDigit hdigits]
  simp only [grouped?_of_isDigit Nat.toDigits_ne_nil hdigits, List.length_map,
    valueOf_map_toNat, Nat.ofDigitChars_ten_toDigits]
  rfl

/-- A number below the bound is written with as many digits as are read. -/
theorem length_toDigits_le {n : Nat} (h : n < numeralBound) :
    (Nat.toDigits 10 n).length ≤ maxDigits := by
  have hdigits_le : ∀ k, 0 < k → n < Nat.pow 10 k → (Nat.toDigits 10 n).length ≤ k :=
    fun k hk hn => (Nat.length_toDigits_le_iff (by decide) hk).2 hn
  unfold numeralBound at h
  exact hdigits_le maxDigits (by decide) h

/-- **A written number is read back.** -/
theorem integer?_toString {n : Nat} (h : n < numeralBound) :
    integer? (toString n) = some (n : Int) := by
  rw [integer?_toString_eq, if_pos (length_toDigits_le h)]

theorem eq_of_integer?_toString {n : Nat} {i : Int} (h : integer? (toString n) = some i) :
    i = n := by
  rw [integer?_toString_eq] at h
  split at h
  · exact (Option.some.inj h).symm
  · cases h

end RemoteModel.Text
