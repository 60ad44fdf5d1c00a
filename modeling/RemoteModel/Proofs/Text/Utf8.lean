import Mathlib.Tactic.SplitIfs
import RemoteModel.Text.Utf8

/-!
# Written characters are read back

The bytes of a character are read as that character, whatever bytes follow
(`units_encodeChar_append`). So the bytes of a text decode to the text (`decode?_encode`) and show
it (`shown_encode`). Where no byte could begin a surrogate, letting surrogates pass changes nothing
(`passed?_of_notMem`).

There is one case for each number of bytes. In each the lead byte announces the number, the second
byte is in the range that the lead byte fixes, and the groups of six bits make up the number of
the character again. The ranges need what is known of a character: its number is no surrogate and
at most U+10FFFF.
-/

namespace RemoteModel.Text.Utf8

/-! ## Bytes as numbers -/

theorem toNat_byte {n : Nat} (h : n < 256) : (UInt8.ofNat n).toNat = n := by
  rw [UInt8.toNat_ofNat']
  exact Nat.mod_eq_of_lt h

theorem width_eq (a : UInt8) :
    width a =
      if a.toNat < 0x80 then 1
      else if 0xC2 ≤ a.toNat ∧ a.toNat ≤ 0xDF then 2
      else if 0xE0 ≤ a.toNat ∧ a.toNat ≤ 0xEF then 3
      else if 0xF0 ≤ a.toNat ∧ a.toNat ≤ 0xF4 then 4
      else 0 := by
  simp only [width, UInt8.lt_iff_toNat_lt, UInt8.le_iff_toNat_le, Bool.and_eq_true,
    decide_eq_true_eq]
  rfl

theorem isTail_iff (b : UInt8) : isTail b = true ↔ 0x80 ≤ b.toNat ∧ b.toNat ≤ 0xBF := by
  simp only [isTail, UInt8.le_iff_toNat_le, Bool.and_eq_true, decide_eq_true_eq]
  rfl

theorem fits_iff (a b : UInt8) :
    fits a b = true ↔
      0x80 ≤ b.toNat ∧ b.toNat ≤ 0xBF ∧ (a.toNat = 0xE0 → 0xA0 ≤ b.toNat) ∧
        (a.toNat = 0xED → b.toNat ≤ 0x9F) ∧ (a.toNat = 0xF0 → 0x90 ≤ b.toNat) ∧
          (a.toNat = 0xF4 → b.toNat ≤ 0x8F) := by
  have heq : ∀ m : UInt8, (a == m) = true ↔ a.toNat = m.toNat := by
    intro m
    rw [beq_iff_eq, UInt8.toNat_inj]
  have hE0 := heq 0xE0
  have hED := heq 0xED
  have hF0 := heq 0xF0
  have hF4 := heq 0xF4
  simp only [UInt8.reduceToNat] at hE0 hED hF0 hF4
  unfold fits
  split_ifs <;> simp only [hE0, hED, hF0, hF4] at * <;>
    simp only [isTail_iff, UInt8.le_iff_toNat_le, Bool.and_eq_true, decide_eq_true_eq,
      UInt8.reduceToNat] <;>
    omega

/-! ## Reading one character -/

theorem units_one {a : UInt8} (rest : List UInt8) (hw : width a = 1) :
    units (a :: rest) = some (assemble 0 a []) :: units rest := by
  rw [units.eq_def]
  simp only [hw]

theorem units_two {a b : UInt8} (rest : List UInt8) (hw : width a = 2) (hf : fits a b = true) :
    units (a :: b :: rest) = some (assemble 0xC0 a [b]) :: units rest := by
  rw [units, hw]
  simp only [hf, if_true]

theorem units_three {a b c : UInt8} (rest : List UInt8) (hw : width a = 3)
    (hf : fits a b = true) (hc : isTail c = true) :
    units (a :: b :: c :: rest) = some (assemble 0xE0 a [b, c]) :: units rest := by
  rw [units, hw]
  simp [hf, hc]

theorem units_four {a b c d : UInt8} (rest : List UInt8) (hw : width a = 4)
    (hf : fits a b = true) (hc : isTail c = true) (hd : isTail d = true) :
    units (a :: b :: c :: d :: rest) = some (assemble 0xF0 a [b, c, d]) :: units rest := by
  rw [units, hw]
  simp [hf, hc, hd]

/-! ## Writing and reading -/

theorem toNat_range (c : Char) : c.toNat < 0xD800 ∨ 0xDFFF < c.toNat ∧ c.toNat < 0x110000 := c.valid

theorem units_encodeChar_append (c : Char) (rest : List UInt8) :
    units (encodeChar c ++ rest) = some c :: units rest := by
  have hrange := toNat_range c
  have hofNat : Char.ofNat c.toNat = c := Char.ofNat_toNat c
  have h0 : Nat.pow 64 0 = 1 := rfl
  have h1 : Nat.pow 64 1 = 64 := rfl
  have h2 : Nat.pow 64 2 = 4096 := rfl
  have h3 : Nat.pow 64 3 = 262144 := rfl
  unfold encodeChar
  generalize c.toNat = n at hrange hofNat
  simp only [h0, h1, h2, h3, Nat.div_one]
  -- The tails, whose numbers do not depend on how many of them there are.
  have t0 := toNat_byte (n := 0x80 + n % 64) (by omega)
  have t1 := toNat_byte (n := 0x80 + n / 64 % 64) (by omega)
  have t2 := toNat_byte (n := 0x80 + n / 4096 % 64) (by omega)
  split_ifs with hone htwo hthree
  · have ha := toNat_byte (n := n) (by omega)
    rw [List.singleton_append, units_one]
    · simp only [assemble, List.foldl, ha, Nat.sub_zero, hofNat]
    · rw [width_eq, ha, if_pos hone]
  · have ha := toNat_byte (n := 0xC0 + n / 64) (by omega)
    have hn : (0xC0 + n / 64 - 0xC0) * 64 + (0x80 + n % 64 - 0x80) = n := by omega
    simp only [List.cons_append, List.nil_append]
    rw [units_two]
    · simp only [assemble, List.foldl, ha, t0, hn, hofNat]
    · rw [width_eq, ha]
      split_ifs <;> omega
    · rw [fits_iff, ha, t0]
      omega
  · have ha := toNat_byte (n := 0xE0 + n / 4096) (by omega)
    have hn : ((0xE0 + n / 4096 - 0xE0) * 64 + (0x80 + n / 64 % 64 - 0x80)) * 64 +
        (0x80 + n % 64 - 0x80) = n := by omega
    simp only [List.cons_append, List.nil_append]
    rw [units_three]
    · simp only [assemble, List.foldl, ha, t1, t0, hn, hofNat]
    · rw [width_eq, ha]
      split_ifs <;> omega
    · rw [fits_iff, ha, t1]
      omega
    · rw [isTail_iff, t0]
      omega
  · have ha := toNat_byte (n := 0xF0 + n / 262144) (by omega)
    have hn : (((0xF0 + n / 262144 - 0xF0) * 64 + (0x80 + n / 4096 % 64 - 0x80)) * 64 +
        (0x80 + n / 64 % 64 - 0x80)) * 64 + (0x80 + n % 64 - 0x80) = n := by omega
    simp only [List.cons_append, List.nil_append]
    rw [units_four]
    · simp only [assemble, List.foldl, ha, t2, t1, t0, hn, hofNat]
    · rw [width_eq, ha]
      split_ifs <;> omega
    · rw [fits_iff, ha, t2]
      omega
    · rw [isTail_iff, t1]
      omega
    · rw [isTail_iff, t0]
      omega

theorem units_encode (cs : List Char) : units (encode cs) = cs.map some := by
  induction cs with
  | nil => rfl
  | cons c cs ih =>
    have hencode : encode (c :: cs) = encodeChar c ++ encode cs := rfl
    rw [hencode, units_encodeChar_append, ih, List.map_cons]

/-- **The bytes of a text are well-formed and decode to the text.** -/
theorem decode?_encode (cs : List Char) : decode? (encode cs) = some cs := by
  rw [decode?, units_encode]
  induction cs with
  | nil => rfl
  | cons c cs ih =>
    rw [List.map_cons, List.mapM_cons, ih]
    rfl

theorem filled_map_some (cs : List Char) : filled (cs.map some) = cs := by
  rw [filled, List.map_map]
  exact List.map_id cs

/-- **The bytes of a text show the text.** -/
theorem shown_encode (s : String) : shown (encode s.toList) = s := by
  rw [shown, units_encode, filled_map_some, String.ofList_toList]

/-! ## Surrogates -/

theorem runs_of_notMem {bytes : List UInt8} (h : 0xED ∉ bytes) : runs bytes = [bytes] := by
  induction bytes with
  | nil => rfl
  | cons a rest ih =>
    obtain ⟨ha, hrest⟩ := List.ne_and_not_mem_of_not_mem_cons h
    match rest, ih with
    | [], _ => rfl
    | [b], _ => rfl
    | b :: c :: rest, ih =>
      have hnone : isSurrogate a b c = false := by
        simp only [isSurrogate, beq_eq_false_iff_ne.2 (Ne.symm ha), Bool.false_and]
      simp only [runs, hnone, Bool.false_eq_true, if_false, ih hrest, List.modifyHead_cons]

theorem passed?_of_notMem {bytes : List UInt8} (h : 0xED ∉ bytes) :
    passed? bytes = (decode? bytes).map (·.map some) := by
  rw [passed?, runs_of_notMem h]
  cases hdecode : decode? bytes <;> simp [hdecode, List.intercalate]

end RemoteModel.Text.Utf8
