import Mathlib.Tactic.SplitIfs
import RemoteModel.Text.Punycode

/-!
# What Punycode writes

Punycode writes the ASCII characters of a text, a hyphen and digits of base 36, nothing else
(`forall_mem_encode`). Every digit of a numeral is below 36 because the limit it is written
against is between 1 and 26; a round of insertions writes numerals behind what is there already.
-/

namespace RemoteModel.Text.Punycode

variable {P : Char → Prop}

theorem one_le_limit (bias k : Nat) : 1 ≤ limit bias k := by
  unfold limit
  split_ifs <;> omega

theorem limit_le (bias k : Nat) : limit bias k ≤ 26 := by
  unfold limit
  split_ifs <;> omega

section Digits

variable (hdigit : ∀ n < 36, P (digit n))
include hdigit

theorem forall_mem_numeral (bias fuel q k : Nat) : ∀ c ∈ numeral bias fuel q k, P c := by
  induction fuel generalizing q k with
  | zero => exact fun c hc => absurd hc List.not_mem_nil
  | succ fuel ih =>
    have hlow := one_le_limit bias k
    have hhigh := limit_le bias k
    intro c hc
    simp only [numeral] at hc
    split_ifs at hc with hq
    · rw [List.mem_singleton.1 hc]
      exact hdigit q (by omega)
    · rcases List.mem_cons.1 hc with hc | hc
      · have hmod := Nat.mod_lt (q - limit bias k) (y := 36 - limit bias k) (by omega)
        rw [hc]
        exact hdigit _ (by omega)
      · exact ih _ _ c hc

theorem forall_mem_pass (basic n : Nat) {p : Progress} (h : ∀ c ∈ p.output, P c) (d : Char) :
    ∀ c ∈ (pass basic n p d).output, P c := by
  unfold pass
  split_ifs
  · exact h
  · intro c hc
    rcases List.mem_append.1 hc with hc | hc
    · exact h c hc
    · exact forall_mem_numeral hdigit _ _ _ _ c hc
  · exact h

theorem forall_mem_foldl_pass (basic n : Nat) (cs : List Char) {p : Progress}
    (h : ∀ c ∈ p.output, P c) : ∀ c ∈ (cs.foldl (pass basic n) p).output, P c := by
  induction cs generalizing p with
  | nil => exact h
  | cons d rest ih => exact ih (forall_mem_pass hdigit basic n h d)

theorem forall_mem_rounds (cs : List Char) (basic fuel n : Nat) {p : Progress}
    (h : ∀ c ∈ p.output, P c) : ∀ c ∈ rounds cs basic fuel n p, P c := by
  induction fuel generalizing n p with
  | zero => exact h
  | succ fuel ih =>
    rw [rounds]
    split
    · exact h
    · exact ih _ (forall_mem_foldl_pass hdigit _ _ _ h)

/-- **What holds of a text, of the hyphen and of the digits holds of the text in Punycode.** -/
theorem forall_mem_encode (hhyphen : P '-') {cs : List Char} (h : ∀ c ∈ cs, P c) :
    ∀ c ∈ encode cs, P c := by
  have hbasic : ∀ c ∈ cs.filter fun c => c.toNat < 0x80, P c :=
    fun c hc => h c (List.mem_filter.1 hc).1
  refine forall_mem_rounds hdigit _ _ _ _ ?_
  intro c hc
  dsimp only at hc
  split_ifs at hc
  · exact absurd hc List.not_mem_nil
  · rcases List.mem_append.1 hc with hc | hc
    · exact hbasic c hc
    · rw [List.mem_singleton.1 hc]
      exact hhyphen

end Digits

end RemoteModel.Text.Punycode
