import Mathlib.Tactic.SplitIfs
import RemoteModel.Text.Letters

/-!
# What lower case writes

A lower case letter is never below `a`. So a character below `a` that stands in the lower case of a
text stood in the text itself (`mem_of_mem_lowerBehind`): signs and digits come from nowhere else.

For the letters beyond ASCII this is a fact about a table, and the table is a text that is read from
its end. `tableWords_eq` reads it from its beginning, where each word is known as soon as the blank
behind it is.
-/

namespace RemoteModel.Text

/-! ## Tables from the left -/

/-- The words of a table behind the beginning of a word. -/
def wordsBehind (word : List Char) : List Char → List (List Char)
  | [] => putWord word []
  | c :: rest =>
    if isGap c then putWord word (wordsBehind [] rest) else wordsBehind (word ++ [c]) rest

/-- The word that a table begins with, and the words behind it. -/
def wordAndWords (cs : List Char) : List Char × List (List Char) :=
  cs.foldr
    (fun c (word, words) => if isGap c then ([], putWord word words) else (c :: word, words))
    ([], [])

theorem wordsBehind_eq (word cs : List Char) :
    wordsBehind word cs = putWord (word ++ (wordAndWords cs).1) (wordAndWords cs).2 := by
  induction cs generalizing word with
  | nil => simp [wordsBehind, wordAndWords]
  | cons c rest ih =>
    by_cases hc : isGap c = true <;> simp [wordsBehind, wordAndWords, hc, ih]

theorem tableWords_eq {s : String} {cs : List Char} (h : s = String.ofList cs) :
    tableWords s = wordsBehind [] cs := by
  rw [h, wordsBehind_eq, List.nil_append, tableWords, String.toList_ofList]
  rfl

/-! ## Small letters -/

/-- All small letters of a run are characters from `a` on. -/
def CaseRun.IsHigh (r : CaseRun) : Prop :=
  0x61 ≤ r.small ∧
    (r.small + (r.last - r.first) < 0xD800 ∨
      0xDFFF < r.small ∧ r.small + (r.last - r.first) < 0x110000)

instance (r : CaseRun) : Decidable r.IsHigh := instDecidableAnd

theorem isHigh_of_mem_caseRuns {r : CaseRun} (h : r ∈ caseRuns) : r.IsHigh := by
  have hall : caseRuns.all (fun r => decide r.IsHigh) = true := by
    unfold caseRuns
    rw [tableWords_eq rfl]
    decide +kernel
  exact of_decide_eq_true (List.all_eq_true.1 hall r h)

theorem CaseRun.le_toNat_of_small? {r : CaseRun} (hr : r.IsHigh) {n m : Nat}
    (h : r.small? n = some m) : 0x61 ≤ (Char.ofNat m).toNat := by
  unfold CaseRun.small? at h
  split_ifs at h with hn
  obtain ⟨hfirst, hlast, -⟩ := hn
  obtain ⟨hlow, hvalid⟩ := hr
  have hm : r.small + (n - r.first) = m := Option.some.inj h
  have hchar : m.isValidChar := by
    rcases hvalid with hbelow | ⟨habove, hbound⟩
    · exact .inl (by omega)
    · exact .inr ⟨by omega, by omega⟩
  have hto : (Char.ofNatAux m hchar).toNat = m := rfl
  rw [Char.ofNat, dif_pos hchar, hto]
  omega

theorem forall_ascii {P : Char → Prop} (h : ∀ n < 0x80, P (Char.ofNat n)) {c : Char}
    (hc : c.toNat < 0x80) : P c := by
  have hp := h c.toNat hc
  rwa [Char.ofNat_toNat] at hp

theorem toLower_eq_or_le {c : Char} (h : c.toNat < 0x80) :
    c.toLower = c ∨ 0x61 ≤ c.toLower.toNat :=
  forall_ascii (P := fun c => c.toLower = c ∨ 0x61 ≤ c.toLower.toNat) (by decide) h

theorem lowerChar_eq_or_le (c : Char) : lowerChar c = c ∨ 0x61 ≤ (lowerChar c).toNat := by
  unfold lowerChar
  split_ifs with hascii
  · exact toLower_eq_or_le hascii
  · cases hfind : caseRuns.findSome? fun r => r.small? c.toNat with
    | none => exact .inl rfl
    | some n =>
      obtain ⟨r, hr, hsmall⟩ := List.exists_of_findSome?_eq_some hfind
      exact .inr (CaseRun.le_toNat_of_small? (isHigh_of_mem_caseRuns hr) hsmall)

/-- What a character is in lower case, in its place in a word. -/
def lowerIn (begun : Bool) (c : Char) (rest : List Char) : List Char :=
  if c.toNat = 0x130 then ['i', Char.ofNat 0x307]
  else if c.toNat = 0x3A3 then [Char.ofNat (if begun && !goesOn rest then 0x3C2 else 0x3C3)]
  else [lowerChar c]

theorem lowerBehind_cons (begun : Bool) (c : Char) (rest : List Char) :
    lowerBehind begun (c :: rest) =
      lowerIn begun c rest ++ lowerBehind (if isWordInner c then begun else isCased c) rest := rfl

theorem eq_or_le_of_mem_lowerIn {begun : Bool} {c d : Char} {rest : List Char}
    (h : d ∈ lowerIn begun c rest) : d = c ∨ 0x61 ≤ d.toNat := by
  have hsigma : ∀ b : Bool, 0x61 ≤ (Char.ofNat (if b then 0x3C2 else 0x3C3)).toNat := by decide
  have hdot : (['i', Char.ofNat 0x307].all fun e => decide (0x61 ≤ e.toNat)) = true := by decide
  by_cases h1 : c.toNat = 0x130
  · rw [lowerIn, if_pos h1] at h
    exact .inr (of_decide_eq_true (List.all_eq_true.1 hdot d h))
  · by_cases h2 : c.toNat = 0x3A3
    · rw [lowerIn, if_neg h1, if_pos h2] at h
      exact .inr (List.mem_singleton.1 h ▸ hsigma _)
    · rw [lowerIn, if_neg h1, if_neg h2] at h
      exact List.mem_singleton.1 h ▸ lowerChar_eq_or_le c

/-- **What is below `a` in the lower case of a text stood in the text.** -/
theorem mem_of_mem_lowerBehind {begun : Bool} {cs : List Char} {c : Char}
    (h : c ∈ lowerBehind begun cs) (hc : c.toNat < 0x61) : c ∈ cs := by
  induction cs generalizing begun with
  | nil => exact absurd h List.not_mem_nil
  | cons d rest ih =>
    rw [lowerBehind_cons] at h
    rcases List.mem_append.1 h with h | h
    · rcases eq_or_le_of_mem_lowerIn h with heq | hle
      · exact heq ▸ List.mem_cons_self
      · omega
    · exact List.mem_cons_of_mem _ (ih h)

end RemoteModel.Text
