import Mathlib.Tactic.SplitIfs
import RemoteModel.Json.Reader
import RemoteModel.Json.Writer
import RemoteModel.Proofs.Text.Utf8

/-!
# Quoted texts are read back

A quoted text is read as pieces: characters, and escaped units of two bytes. A character is
written as one piece, or as two units if it is beyond the first plane, and joining the pieces gives
it back (`Spells`, `quotedChar_spells`). This carries over to texts (`string_quoted`).

A text may have gaps, where lone surrogates are escaped. There is none if the surrogates in it come
in pairs (`Reader.isPaired`, `Reader.isPaired_of_piecesOf`).
-/

namespace RemoteModel.Json

open Reader (Piece)

/-! ## Units -/

theorem hexDigit?_hexDigit :
    ∀ k < 16, Text.hexDigit? (Text.Percent.hexDigit k).toLower = some k := by
  decide

/-- An escaped unit is read back. -/
theorem piecesOf_escapedUnit {n : Nat} (hn : n < 0x10000) (rest : List Char) :
    Reader.piecesOf (escapedUnit n ++ rest) =
      (Reader.piecesOf rest).map fun p => (.unit n :: p.1, p.2) := by
  have hdigit : ∀ k, Text.hexDigit? (Text.Percent.hexDigit (n / Nat.pow 16 k % 16)).toLower =
      some (n / Nat.pow 16 k % 16) := by
    intro k
    exact hexDigit?_hexDigit _ (Nat.mod_lt _ (by decide))
  have hunit : ((n / Nat.pow 16 3 % 16 * 16 + n / Nat.pow 16 2 % 16) * 16 +
      n / Nat.pow 16 1 % 16) * 16 + n / Nat.pow 16 0 % 16 = n := by
    simp only [Nat.pow_eq, Nat.reducePow]
    omega
  simp only [escapedUnit, List.cons_append, List.nil_append]
  rw [Reader.piecesOf]
  simp only [Reader.unit?, hdigit, Option.bind_eq_bind, Option.bind_some, hunit]
  cases Reader.piecesOf rest with
  | none => rfl
  | some p => rfl

theorem join_unit {n : Nat} (hn : (Text.Wide.isHigh n || Text.Wide.isLow n) = false)
    (ps : List Piece) : Reader.join (.unit n :: ps) = some (Char.ofNat n) :: Reader.join ps := by
  have hpoint : Text.Wide.point? n = some (Char.ofNat n) := by
    simp only [Text.Wide.point?, hn, Bool.false_eq_true, if_false]
  have hhigh : Text.Wide.isHigh n = false := (Bool.or_eq_false_iff.1 hn).1
  cases ps with
  | nil => simp [Reader.join, hpoint]
  | cons p rest =>
    cases p with
    | char c => simp [Reader.join, hpoint]
    | unit m => simp [Reader.join, hpoint, hhigh]

/-! ## Characters -/

theorem not_surrogate (c : Char) :
    (Text.Wide.isHigh c.toNat || Text.Wide.isLow c.toNat) = false := by
  have hvalid : c.toNat < 0xD800 ∨ (0xDFFF < c.toNat ∧ c.toNat < 0x110000) := c.valid
  simp only [Text.Wide.isHigh, Text.Wide.isLow, Bool.or_eq_false_iff, Bool.and_eq_false_iff,
    decide_eq_false_iff_not]
  omega

/-- In front of any text, some characters are read as pieces that make up a character. -/
def Spells (cs : List Char) (c : Char) : Prop :=
  ∀ rest, ∃ ps : List Piece,
    (Reader.piecesOf (cs ++ rest) = (Reader.piecesOf rest).map fun p => (ps ++ p.1, p.2)) ∧
      ∀ qs, Reader.join (ps ++ qs) = some c :: Reader.join qs

theorem escaped_spells (c : Char) : Spells (escaped c) c := by
  intro rest
  by_cases hplane : c.toNat < 0x10000
  · refine ⟨[.unit c.toNat], ?_, fun qs => ?_⟩
    · simp only [escaped, hplane, if_true]
      exact piecesOf_escapedUnit hplane rest
    · have hjoin := join_unit (not_surrogate c) qs
      rwa [Char.ofNat_toNat] at hjoin
  · have hmax : c.toNat < 0x110000 := by
      have hvalid : c.toNat < 0xD800 ∨ (0xDFFF < c.toNat ∧ c.toNat < 0x110000) := c.valid
      omega
    let high := 0xD800 + (c.toNat - 0x10000) / 0x400
    let low := 0xDC00 + (c.toNat - 0x10000) % 0x400
    refine ⟨[.unit high, .unit low], ?_, fun qs => ?_⟩
    · simp only [escaped, hplane, if_false, List.append_assoc]
      rw [piecesOf_escapedUnit (by omega), piecesOf_escapedUnit (by omega), Option.map_map]
      rfl
    · have hsurrogates : (Text.Wide.isHigh high && Text.Wide.isLow low) = true := by
        simp only [Text.Wide.isHigh, Text.Wide.isLow, Bool.and_eq_true, decide_eq_true_eq, high, low]
        omega
      have hpair : Text.Wide.pair high low = c := by
        have hpoint : 0x10000 + (high - 0xD800) * 0x400 + (low - 0xDC00) = c.toNat := by
          simp only [high, low]
          omega
        rw [Text.Wide.pair, hpoint, Char.ofNat_toNat]
      simp only [List.cons_append, List.nil_append, Reader.join, hsurrogates, if_true, hpair]

theorem piecesOf_plain {c : Char} (hquote : c ≠ '"') (hslash : c ≠ '\\') (hcontrol : 0x20 ≤ c.toNat)
    (rest : List Char) :
    Reader.piecesOf (c :: rest) = (Reader.piecesOf rest).map fun p => (.char c :: p.1, p.2) := by
  rw [Reader.piecesOf]
  · have htest : ¬ ((decide (c.toNat < 0x20) || c == '\\') = true) := by
      simp [hslash]
      omega
    rw [if_neg htest]
    cases Reader.piecesOf rest with
    | none => rfl
    | some p => rfl
  all_goals simp_all

theorem piecesOf_escape {letter c : Char} (h : Reader.escape? letter = some c) (rest : List Char) :
    Reader.piecesOf ('\\' :: letter :: rest) =
      (Reader.piecesOf rest).map fun p => (.char c :: p.1, p.2) := by
  have hu : letter ≠ 'u' := by
    rintro rfl
    cases h
  rw [Reader.piecesOf]
  · simp only [h, Option.bind_eq_bind, Option.bind_some]
    cases Reader.piecesOf rest with
    | none => rfl
    | some p => rfl
  · intro a b c d rest' hletter
    exact absurd hletter hu

theorem letter_spells {letter c : Char} (h : Reader.escape? letter = some c) :
    Spells ['\\', letter] c :=
  fun rest => ⟨[.char c], piecesOf_escape h rest, fun qs => by simp [Reader.join]⟩

/-- A character of a quoted text is read as pieces that make it up. -/
theorem quotedChar_spells (asciiOnly : Bool) (c : Char) : Spells (quotedChar asciiOnly c) c := by
  unfold quotedChar
  split_ifs with hquote hslash hn hr ht hb hf hcontrol hwide
  · subst hquote
    exact letter_spells rfl
  · subst hslash
    exact letter_spells rfl
  · subst hn
    exact letter_spells rfl
  · subst hr
    exact letter_spells rfl
  · subst ht
    exact letter_spells rfl
  · obtain rfl : c = '\x08' := by rw [← Char.ofNat_toNat c, hb]
    exact letter_spells rfl
  · obtain rfl : c = '\x0c' := by rw [← Char.ofNat_toNat c, hf]
    exact letter_spells rfl
  · exact escaped_spells c
  · exact escaped_spells c
  · exact fun rest => ⟨[.char c], piecesOf_plain hquote hslash (Nat.le_of_not_lt hcontrol) rest,
      fun qs => by simp [Reader.join]⟩

/-! ## Texts -/

theorem piecesOf_quotedChars (asciiOnly : Bool) (cs rest : List Char) :
    ∃ ps, Reader.piecesOf (cs.flatMap (quotedChar asciiOnly) ++ '"' :: rest) = some (ps, rest) ∧
      Reader.join ps = cs.map some := by
  induction cs with
  | nil => exact ⟨[], rfl, rfl⟩
  | cons c cs ih =>
    obtain ⟨qs, hqs, hjoin⟩ := ih
    obtain ⟨ps, hps, hchar⟩ :=
      quotedChar_spells asciiOnly c (cs.flatMap (quotedChar asciiOnly) ++ '"' :: rest)
    refine ⟨ps ++ qs, ?_, by rw [hchar, hjoin, List.map_cons]⟩
    rw [List.flatMap_cons, List.append_assoc, hps, hqs]
    rfl

/-- **A quoted text is read back**, and what follows its closing quote is left. -/
theorem string_quoted (asciiOnly : Bool) (s : String) (rest : List Char) :
    Reader.string (s.toList.flatMap (quotedChar asciiOnly) ++ '"' :: rest) = .ok (s, rest) := by
  obtain ⟨ps, hps, hjoin⟩ := piecesOf_quotedChars asciiOnly s.toList rest
  simp only [Reader.string, hps, hjoin, Text.Utf8.filled_map_some, String.ofList_toList]

/-! ## Lone surrogates -/

namespace Reader

/-- The pieces of everything in a text: what stands behind a backslash is escaped. -/
def piecesIn : List Char → List Piece
  | [] => []
  | '\\' :: 'u' :: a :: b :: c :: d :: rest =>
    match unit? a b c d with
    | some n => .unit n :: piecesIn rest
    | none => .char 'u' :: piecesIn (a :: b :: c :: d :: rest)
  | '\\' :: c :: rest => .char ((escape? c).getD c) :: piecesIn rest
  | c :: rest => .char c :: piecesIn rest

/-- No lone surrogate is escaped in a text. -/
def isPaired (cs : List Char) : Bool := (join (piecesIn cs)).all Option.isSome

/-- Up to the closing quote the pieces are those that are read. -/
theorem piecesIn_of_piecesOf {cs : List Char} {ps : List Piece} {after : List Char}
    (h : piecesOf cs = some (ps, after)) : piecesIn cs = ps ++ .char '"' :: piecesIn after := by
  induction cs using piecesOf.induct generalizing ps with
  | case1 => cases h
  | case2 rest =>
    simp only [piecesOf, Option.some.injEq, Prod.mk.injEq] at h
    obtain ⟨rfl, rfl⟩ := h
    rfl
  | case3 a b c d rest ih =>
    simp only [piecesOf, Option.bind_eq_bind, Option.bind_eq_some_iff, Option.some.injEq,
      Prod.mk.injEq] at h
    obtain ⟨n, hunit, ⟨qs, tail⟩, hqs, rfl, rfl⟩ := h
    simp only [piecesIn, hunit, ih hqs, List.cons_append]
  | case4 c rest hletter ih =>
    have hin : piecesIn ('\\' :: c :: rest) = .char ((escape? c).getD c) :: piecesIn rest := by
      rw [piecesIn]
      exact hletter
    rw [piecesOf] at h
    · simp only [Option.bind_eq_bind, Option.bind_eq_some_iff, Option.some.injEq,
        Prod.mk.injEq] at h
      obtain ⟨e, hescape, ⟨qs, tail⟩, hqs, rfl, rfl⟩ := h
      simp only [hin, hescape, Option.getD_some, ih hqs, List.cons_append]
    · exact hletter
  | case5 c rest hquote hunit hslash hbad =>
    rw [piecesOf, if_pos hbad] at h
    · cases h
    all_goals assumption
  | case6 c rest hquote hunit hslash hgood ih =>
    have hin : piecesIn (c :: rest) = .char c :: piecesIn rest := by
      rw [piecesIn] <;> assumption
    rw [piecesOf, if_neg hgood] at h
    · simp only [Option.bind_eq_bind, Option.bind_eq_some_iff, Option.some.injEq,
        Prod.mk.injEq] at h
      obtain ⟨⟨qs, tail⟩, hqs, rfl, rfl⟩ := h
      rw [hin, ih hqs, List.cons_append]
    all_goals assumption

/-- A character keeps what stands on its sides apart. -/
theorem all_join_append (ps qs : List Piece) (c : Char) :
    (join (ps ++ .char c :: qs)).all Option.isSome =
      ((join ps).all Option.isSome && (join qs).all Option.isSome) := by
  induction ps using join.induct with
  | case1 => simp [join]
  | case2 c' rest ih => simp [join, ih]
  | case3 n => simp [join]
  | case4 n m rest h ih => simp_all [join]
  | case5 n m rest h ih =>
    simp only [List.cons_append] at ih ⊢
    rw [join, join, if_neg h, if_neg h, List.all_cons, List.all_cons, ih, Bool.and_assoc]
  | case6 n c' rest ih => simp_all [join, Bool.and_assoc]

/-- **A text has gaps exactly where lone surrogates are escaped in it.** -/
theorem isPaired_of_piecesOf {cs : List Char} {ps : List Piece} {after : List Char}
    (h : piecesOf cs = some (ps, after)) :
    isPaired cs = ((join ps).all Option.isSome && isPaired after) := by
  rw [isPaired, piecesIn_of_piecesOf h, all_join_append, isPaired]

end Reader

end RemoteModel.Json
