import Mathlib.Tactic.SplitIfs
import RemoteModel.Proofs.Json.WrittenNumber

/-!
# Values on one line

Control characters are escaped inside of texts, and so is everything outside ASCII. A value that is
written without indentation consists of visible characters and blanks (`isVisible_write`), so it
stands on one line (`newline_not_mem_render`).
-/

namespace RemoteModel.Json

/-- A blank or a character of ASCII that can be seen. -/
def IsVisible (c : Char) : Prop := 0x20 ≤ c.toNat ∧ c.toNat < 0x7F

instance (c : Char) : Decidable (IsVisible c) := instDecidableAnd

theorem isVisible_of_all {cs : List Char} (h : (cs.all fun c => decide (IsVisible c)) = true) :
    ∀ c ∈ cs, IsVisible c :=
  fun c hc => of_decide_eq_true (List.all_eq_true.1 h c hc)

variable {l : Layout} {c : Char}

/-! ## Texts -/

theorem isVisible_escapedUnit {n : Nat} (h : c ∈ escapedUnit n) : IsVisible c := by
  have hdigit : ∀ k < 16, IsVisible (Text.Percent.hexDigit k).toLower := by decide
  simp only [escapedUnit, List.mem_cons, List.not_mem_nil, or_false] at h
  rcases h with rfl | rfl | rfl | rfl | rfl | rfl
  · decide
  · decide
  all_goals exact hdigit _ (Nat.mod_lt _ (by decide))

theorem isVisible_escaped {d : Char} (h : c ∈ escaped d) : IsVisible c := by
  simp only [escaped] at h
  split at h
  · exact isVisible_escapedUnit h
  · rcases List.mem_append.1 h with h | h <;> exact isVisible_escapedUnit h

theorem isVisible_quotedChar {d : Char} (h : c ∈ quotedChar true d) : IsVisible c := by
  unfold quotedChar at h
  split_ifs at h with h₁ h₂ h₃ h₄ h₅ h₆ h₇ hcontrol hwide
  any_goals
    simp only [List.mem_cons, List.not_mem_nil, or_false] at h
    rcases h with rfl | rfl <;> decide
  · exact isVisible_escaped h
  · exact isVisible_escaped h
  · rw [List.mem_singleton.1 h]
    simp only [Bool.true_and, decide_eq_true_eq] at hwide
    exact ⟨by omega, by omega⟩

theorem isVisible_quoted (s : String) : ∀ c ∈ quoted true s, IsVisible c := by
  intro c hc
  have hquote : IsVisible '"' := by decide
  simp only [quoted, List.cons_append, List.mem_cons, List.mem_append, List.mem_flatMap,
    List.not_mem_nil, or_false] at hc
  rcases hc with rfl | ⟨d, -, hd⟩ | rfl
  · exact hquote
  · exact isVisible_quotedChar hd
  · exact hquote

/-! ## Numbers -/

theorem isVisible_of_isDigit (h : Reader.isDigit c = true) : IsVisible c := by
  have hrange : 48 ≤ c.toNat ∧ c.toNat ≤ 57 := by
    simpa [Reader.isDigit, Char.le_def, UInt32.le_iff_toNat_le] using h
  exact ⟨by omega, by omega⟩

theorem isVisible_toDigits (n : Nat) : ∀ c ∈ Nat.toDigits 10 n, IsVisible c :=
  fun _ hc => isVisible_of_isDigit (isDigit_of_mem_toDigits hc)

theorem isVisible_toString (i : Int) : ∀ c ∈ (toString i).toList, IsVisible c := by
  intro c hc
  rw [toList_toString, List.mem_append] at hc
  rcases hc with hc | hc
  · split at hc
    · rw [List.mem_singleton.1 hc]
      decide
    · cases hc
  · exact isVisible_toDigits _ c hc

theorem isVisible_zeros (n : Nat) : ∀ c ∈ List.replicate n '0', IsVisible c := by
  intro c hc
  rw [List.eq_of_mem_replicate hc]
  decide

theorem isVisible_exponentText (n : Notation) (e : Int) : ∀ c ∈ n.exponentText e, IsVisible c := by
  simp only [Notation.exponentText, Notation.pad, List.forall_mem_cons, List.forall_mem_append]
  refine ⟨?_, isVisible_zeros _, isVisible_toDigits _⟩
  split <;> decide

theorem isVisible_layout (n : Notation) (d : Decimal) : ∀ c ∈ n.layout d, IsVisible c := by
  have hdigits := isVisible_toDigits d.digits
  unfold Notation.layout
  dsimp only
  split
  · split
    · simp only [List.forall_mem_cons, List.forall_mem_append]
      exact ⟨by decide, by decide, isVisible_zeros _, hdigits⟩
    · simp only [List.forall_mem_cons, List.forall_mem_append]
      refine ⟨⟨fun c hc => hdigits c (List.mem_of_mem_take hc), isVisible_zeros _⟩, by decide, ?_⟩
      split
      · exact isVisible_of_all (by decide)
      · exact fun c hc => hdigits c (List.mem_of_mem_drop hc)
  · simp only [List.forall_mem_cons, List.forall_mem_append]
    refine ⟨?_, by decide, isVisible_exponentText _ _⟩
    split
    · simp
    · next h => rwa [← h]
    · next h =>
      rw [h] at hdigits
      simp only [List.forall_mem_cons] at hdigits ⊢
      exact ⟨hdigits.1, by decide, hdigits.2⟩

theorem isVisible_number (x : Double) : ∀ c ∈ numbers.text x, IsVisible c := by
  have hsign : ∀ negative : Bool, ∀ c ∈ (if negative then ['-'] else []), IsVisible c := by
    rintro (_ | _)
    · exact isVisible_of_all (by decide)
    · exact isVisible_of_all (by decide)
  cases x with
  | nan => exact isVisible_of_all (by decide)
  | infinite negative =>
    simp only [Notation.text, List.forall_mem_append]
    exact ⟨hsign negative, isVisible_of_all (by decide)⟩
  | finite negative m e =>
    simp only [Notation.text, List.forall_mem_append]
    refine ⟨hsign negative, ?_⟩
    split
    · exact isVisible_of_all (by decide)
    · exact isVisible_layout _ _

/-! ## Values -/

/-- The layout has no line breaks and writes ASCII only. -/
structure Layout.IsFlat (l : Layout) : Prop where
  indent : l.indent = none
  asciiOnly : l.asciiOnly = true
  afterName : ∀ c ∈ l.afterName, IsVisible c
  afterItem : ∀ c ∈ l.afterItem, IsVisible c

namespace Layout

theorem compact_isFlat : compact.IsFlat where
  indent := rfl
  asciiOnly := rfl
  afterName := isVisible_of_all (by decide)
  afterItem := isVisible_of_all (by decide)

theorem IsFlat.lineBreak (hl : l.IsFlat) (level : Nat) : l.lineBreak level = [] := by
  rw [Layout.lineBreak, hl.indent]

end Layout

mutual

theorem isVisible_write (hl : l.IsFlat) :
    (v : Json) → ∀ level, ∀ c ∈ write l level v, IsVisible c
  | .null, _ => isVisible_of_all (by simp only [write]; rfl)
  | .bool true, _ => isVisible_of_all (by simp only [write]; rfl)
  | .bool false, _ => isVisible_of_all (by simp only [write]; rfl)
  | .int i, _ => isVisible_toString i
  | .float x, _ => isVisible_number x
  | .str s, _ => by
    rw [write, hl.asciiOnly]
    exact isVisible_quoted s
  | .arr [], _ => isVisible_of_all (by simp only [write]; rfl)
  | .arr (v :: vs), level => by
    simp only [write, hl.lineBreak, List.forall_mem_append, List.cons_append, List.nil_append,
      List.append_nil, List.forall_mem_cons]
    exact ⟨by decide, ⟨isVisible_write hl v _, isVisible_writeItems hl vs _⟩, by decide, by simp⟩
  | .obj [], _ => isVisible_of_all (by simp only [write]; rfl)
  | .obj ((k, v) :: ms), level => by
    simp only [write, hl.lineBreak, hl.asciiOnly, List.forall_mem_append, List.cons_append,
      List.nil_append, List.append_nil, List.forall_mem_cons]
    exact ⟨by decide, ⟨⟨⟨isVisible_quoted k, hl.afterName⟩, isVisible_write hl v _⟩,
      isVisible_writeMembers hl ms _⟩, by decide, by simp⟩

theorem isVisible_writeItems (hl : l.IsFlat) :
    (vs : List Json) → ∀ level, ∀ c ∈ writeItems l level vs, IsVisible c
  | [], _ => isVisible_of_all (by simp only [writeItems]; rfl)
  | v :: vs, level => by
    simp only [writeItems, hl.lineBreak, List.forall_mem_append, List.append_nil]
    exact ⟨⟨hl.afterItem, isVisible_write hl v level⟩, isVisible_writeItems hl vs level⟩

theorem isVisible_writeMembers (hl : l.IsFlat) :
    (ms : List (String × Json)) → ∀ level, ∀ c ∈ writeMembers l level ms, IsVisible c
  | [], _ => isVisible_of_all (by simp only [writeMembers]; rfl)
  | (k, v) :: ms, level => by
    simp only [writeMembers, hl.lineBreak, hl.asciiOnly, List.forall_mem_append, List.append_nil]
    exact ⟨⟨⟨⟨hl.afterItem, isVisible_quoted k⟩, hl.afterName⟩, isVisible_write hl v level⟩,
      isVisible_writeMembers hl ms level⟩

end

/-- **A value that is written without indentation stands on one line.** -/
theorem newline_not_mem_render (hl : l.IsFlat) (v : Json) : '\n' ∉ (render l v).toList := by
  rw [render, String.toList_ofList]
  intro h
  exact absurd (isVisible_write hl v 0 _ h) (by decide)

end RemoteModel.Json
