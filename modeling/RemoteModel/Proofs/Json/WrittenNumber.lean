import RemoteModel.Json.Reader
import RemoteModel.Json.Writer
import RemoteModel.Proofs.Text.Numeral

/-!
# Written integers are read back

A number ends where no digit, point or exponent follows. Behind a value stands nothing, a blank, a
comma or a closing bracket (`Ends`), none of which goes on with a number, so an integer is read as
it was written (`number_toString`).
-/

namespace RemoteModel.Json

/-- What may stand behind a value. -/
def Ends (rest : List Char) : Prop :=
  ∀ c tail, rest = c :: tail → Reader.isBlank c ∨ c = ',' ∨ c = ']' ∨ c = '\x7d'

variable {rest : List Char} {n : Nat} {i : Int}

theorem Ends.nil : Ends [] := by
  rintro c tail ⟨⟩

theorem Ends.cons {c : Char} {tail : List Char}
    (h : Reader.isBlank c ∨ c = ',' ∨ c = ']' ∨ c = '\x7d') : Ends (c :: tail) := by
  rintro _ _ ⟨⟩
  exact h

/-- What ends a value does not go on with a number. -/
theorem Ends.not_number (h : Ends rest) {c : Char} {tail : List Char} (hrest : rest = c :: tail) :
    Reader.isDigit c = false ∧ c ≠ '.' ∧ c ≠ 'e' ∧ c ≠ 'E' := by
  rcases h c tail hrest with hblank | rfl | rfl | rfl
  · simp only [Reader.isBlank, Bool.or_eq_true, beq_iff_eq] at hblank
    rcases hblank with ((rfl | rfl) | rfl) | rfl <;> decide
  all_goals decide

/-! ## Digits -/

theorem isDigit_of_mem_toDigits {c : Char} (h : c ∈ Nat.toDigits 10 n) :
    Reader.isDigit c = true :=
  Nat.isDigit_of_mem_toDigits (by decide) (by decide) h

theorem digits_append {ds : List Char} (hds : ∀ c ∈ ds, Reader.isDigit c = true)
    (hrest : ∀ c tail, rest = c :: tail → Reader.isDigit c = false) :
    Reader.digits (ds ++ rest) = (ds, rest) := by
  have hstop : rest.takeWhile Reader.isDigit = [] ∧ rest.dropWhile Reader.isDigit = rest := by
    cases rest with
    | nil => exact ⟨rfl, rfl⟩
    | cons c tail => simp [hrest c tail rfl]
  unfold Reader.digits
  rw [List.takeWhile_append_of_pos hds, List.dropWhile_append_of_pos hds, hstop.1, hstop.2,
    List.append_nil]

theorem whole?_append {c : Char} {cs : List Char} (hc : c ≠ '0')
    (hds : ∀ d ∈ c :: cs, Reader.isDigit d = true)
    (hrest : ∀ c tail, rest = c :: tail → Reader.isDigit c = false) :
    Reader.whole? (c :: cs ++ rest) = some (c :: cs, rest) := by
  have hdigits := digits_append hds hrest
  unfold Reader.whole?
  split
  · rename_i heq
    exact absurd (List.cons.inj heq).1 hc
  · rw [hdigits]

theorem whole?_toDigits (n : Nat) (h : Ends rest) :
    Reader.whole? (Nat.toDigits 10 n ++ rest) = some (Nat.toDigits 10 n, rest) := by
  rcases Nat.eq_zero_or_pos n with rfl | hn
  · rfl
  · obtain ⟨c, cs, hcs, hc⟩ := Text.toDigits_eq_cons hn
    have hds : ∀ d ∈ c :: cs, Reader.isDigit d = true := fun d hd =>
      isDigit_of_mem_toDigits (n := n) (hcs ▸ hd)
    rw [hcs]
    exact whole?_append hc hds fun c tail heq => (h.not_number heq).1

theorem natural_toDigits (n : Nat) : Reader.natural (Nat.toDigits 10 n) = n := by
  unfold Reader.natural
  rw [show (fun c : Char => c.toNat - 0x30) = fun c : Char => c.toNat - 48 from rfl,
    Text.valueOf_map_toNat, Nat.ofDigitChars_ten_toDigits]

/-! ## Numbers -/

theorem signed_natAbs (i : Int) : Double.signed (decide (i < 0)) i.natAbs = i := by
  by_cases hneg : i < 0
  · simp only [Double.signed, hneg, decide_true, if_true]
    omega
  · simp only [Double.signed, hneg, decide_false, Bool.false_eq_true, if_false]
    omega

theorem fraction_of_ends (h : Ends rest) : Reader.fraction rest = (none, rest) := by
  unfold Reader.fraction
  split
  · exact absurd rfl (h.not_number rfl).2.1
  · rfl

theorem exponent_of_ends (h : Ends rest) : Reader.exponent rest = (none, rest) := by
  unfold Reader.exponent
  split
  · rename_i c tail
    have hmark : ¬ (c = 'e' ∨ c = 'E') := by
      obtain ⟨-, -, he, hE⟩ := h.not_number rfl
      exact not_or.2 ⟨he, hE⟩
    rw [if_neg hmark]
  · rfl

theorem toList_toString (i : Int) :
    (toString i).toList = (if i < 0 then ['-'] else []) ++ Nat.toDigits 10 i.natAbs := by
  cases i with
  | ofNat n =>
    have hsign : ¬ (Int.ofNat n < 0) := by simp
    rw [if_neg hsign]
    exact Nat.toList_repr
  | negSucc n =>
    have hsign : Int.negSucc n < 0 := Int.negSucc_lt_zero n
    have htext : (toString (Int.negSucc n)).toList = ("-" ++ Nat.repr (n + 1)).toList := rfl
    rw [if_pos hsign, htext, String.toList_append, Nat.toList_repr]
    rfl

theorem sign_toString (i : Int) (rest : List Char) :
    Reader.sign ((toString i).toList ++ rest) =
      (decide (i < 0), Nat.toDigits 10 i.natAbs ++ rest) := by
  rw [toList_toString]
  by_cases hneg : i < 0
  · rw [if_pos hneg, decide_eq_true hneg]
    rfl
  · obtain ⟨c, cs, hcs⟩ := List.exists_cons_of_ne_nil (Nat.toDigits_ne_nil (n := i.natAbs) (b := 10))
    have hdigit : Reader.isDigit c = true :=
      isDigit_of_mem_toDigits (n := i.natAbs) (hcs ▸ List.mem_cons_self)
    rw [if_neg hneg, List.nil_append, hcs, List.cons_append, Reader.sign]
    · simp only [hneg, decide_false]
    · rintro tail ⟨⟩
      exact absurd hdigit (by decide)

/-- **A written integer is read back.** -/
theorem number_toString (hi : i.natAbs < Text.numeralBound) (h : Ends rest) :
    Reader.number ((toString i).toList ++ rest) = .ok (.int i, rest) := by
  simp only [Reader.number, sign_toString, whole?_toDigits _ h, fraction_of_ends h,
    exponent_of_ends h, Text.length_toDigits_le hi, if_true, natural_toDigits, signed_natAbs]

/-- An integer of too many digits is written, but not read. -/
theorem number_toString_of_le (hi : Text.numeralBound ≤ i.natAbs) (h : Ends rest) :
    Reader.number ((toString i).toList ++ rest) =
      .error (.tooManyDigits (Nat.toDigits 10 i.natAbs).length) := by
  have hlt : ∀ k, 0 < k → (Nat.toDigits 10 i.natAbs).length ≤ k → i.natAbs < Nat.pow 10 k :=
    fun k hk => (Nat.length_toDigits_le_iff (by decide) hk).1
  have hlong : ¬ (Nat.toDigits 10 i.natAbs).length ≤ Text.maxDigits := by
    unfold Text.numeralBound at hi
    exact fun hlength => Nat.not_lt_of_le hi (hlt _ (by decide) hlength)
  simp only [Reader.number, sign_toString, whole?_toDigits _ h, fraction_of_ends h,
    exponent_of_ends h, hlong, if_false]

end RemoteModel.Json
