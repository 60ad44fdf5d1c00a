import RemoteModel.Proofs.Text.Pieces
import RemoteModel.Proofs.Text.Utf8
import RemoteModel.Text.Percent

/-!
# Percent-encoded texts are read back

A form is read as the names and values that it was written from (`readForm_form`). A name or a
value is read back because each of its characters is: as itself, as a plus sign, or as the
percent-encoded bytes of the character. The form is cut at the right places because none of these
writes an ampersand or an equals sign.

What percent encoding writes is a safe character, a percent sign or a digit (`mem_encode`), so it
writes nothing that separates the components of an address.
-/

namespace RemoteModel.Text.Percent

/-! ## Digits and bytes -/

theorem hexDigit?_hexDigit {n : Nat} (h : n < 16) : hexDigit? (hexDigit n) = some n := by
  have hall : ∀ m < 16, hexDigit? (hexDigit m) = some m := by decide
  exact hall n h

theorem isFormSafe_hexDigit {n : Nat} (h : n < 16) : isFormSafe (hexDigit n) = true := by
  have hall : ∀ m < 16, isFormSafe (hexDigit m) = true := by decide
  exact hall n h

theorem hexDigits_lt (b : UInt8) : b.toNat / 16 < 16 ∧ b.toNat % 16 < 16 := by
  have hb := b.toNat_lt
  omega

theorem bytes_encodeByte_append (b : UInt8) (rest : List Char) :
    bytes (encodeByte b ++ rest) = b :: bytes rest := by
  obtain ⟨hhigh, hlow⟩ := hexDigits_lt b
  have hb : UInt8.ofNat (16 * (b.toNat / 16) + b.toNat % 16) = b := by
    rw [Nat.div_add_mod, UInt8.ofNat_toNat]
  simp only [encodeByte, List.cons_append, List.nil_append, bytes, hexDigit?_hexDigit hhigh,
    hexDigit?_hexDigit hlow, hb]

theorem bytes_flatMap_encodeByte_append (bs : List UInt8) (rest : List Char) :
    bytes (bs.flatMap encodeByte ++ rest) = bs ++ bytes rest := by
  induction bs with
  | nil => rfl
  | cons b bs ih =>
    rw [List.flatMap_cons, List.append_assoc, bytes_encodeByte_append, ih, List.cons_append]

theorem bytes_cons {c : Char} (h : c ≠ '%') (rest : List Char) :
    bytes (c :: rest) = Utf8.encodeChar c ++ bytes rest := by
  rw [bytes]
  intro a b rest' hc
  exact absurd hc h

theorem toList_decode_cons {c : Char} (h : c ≠ '%') (rest : List Char) :
    (decode (c :: rest)).toList = c :: (decode rest).toList := by
  rw [decode, bytes_cons h, Utf8.shown, Utf8.units_encodeChar_append, String.toList_ofList,
    decode, Utf8.shown, String.toList_ofList]
  rfl

/-! ## Written characters -/

theorem mem_flatMap_encodeByte {bs : List UInt8} {c : Char} (h : c ∈ bs.flatMap encodeByte) :
    c = '%' ∨ ∃ n < 16, c = hexDigit n := by
  obtain ⟨b, -, hb⟩ := List.mem_flatMap.1 h
  obtain ⟨hhigh, hlow⟩ := hexDigits_lt b
  simp only [encodeByte, List.mem_cons, List.not_mem_nil, or_false] at hb
  rcases hb with rfl | rfl | rfl
  · exact .inl rfl
  · exact .inr ⟨_, hhigh, rfl⟩
  · exact .inr ⟨_, hlow, rfl⟩

/-- Percent encoding writes safe characters, percent signs and digits. -/
theorem mem_encode {safe : Char → Bool} {cs : List Char} {c : Char} (h : c ∈ encode safe cs) :
    safe c = true ∨ c = '%' ∨ ∃ n < 16, c = hexDigit n := by
  obtain ⟨d, -, hd⟩ := List.mem_flatMap.1 h
  by_cases hs : safe d = true
  · rw [if_pos hs, List.mem_singleton] at hd
    exact .inl (hd ▸ hs)
  · rw [if_neg hs] at hd
    exact .inr (mem_flatMap_encodeByte hd)

theorem encode_eq_self {safe : Char → Bool} {cs : List Char} (h : ∀ c ∈ cs, safe c = true) :
    encode safe cs = cs := by
  induction cs with
  | nil => rfl
  | cons c cs ih =>
    have hc : (if safe c = true then [c] else (Utf8.encodeChar c).flatMap encodeByte) = [c] :=
      if_pos (h c List.mem_cons_self)
    have hcs := ih fun d hd => h d (List.mem_cons_of_mem _ hd)
    rw [encode, List.flatMap_cons, hc]
    exact congrArg (c :: ·) hcs

/-! ## One name or value -/

/-- What stands for a character in a form. -/
def formChar (c : Char) : List Char :=
  if c = ' ' then ['+'] else if isFormSafe c then [c] else (Utf8.encodeChar c).flatMap encodeByte

theorem formText_eq (s : String) : formText s = s.toList.flatMap formChar := rfl

/-- A character that a name or a value is written with. -/
def isFormChar (c : Char) : Bool := isFormSafe c || c == '+' || c == '%'

theorem isFormChar_hexDigit {n : Nat} (h : n < 16) : isFormChar (hexDigit n) = true := by
  simp only [isFormChar, isFormSafe_hexDigit h, Bool.true_or]

theorem lt_of_isFormChar {c : Char} (h : isFormChar c = true) : c.toNat < 0x80 := by
  simp only [isFormChar, isFormSafe, isAsciiAlphanum, Bool.or_eq_true, Bool.and_eq_true,
    decide_eq_true_eq, beq_iff_eq] at h
  rcases h with (((((⟨-, h⟩ | rfl) | rfl) | rfl) | rfl) | rfl) | rfl
  · exact h
  all_goals decide

theorem isFormChar_of_mem_formText {s : String} {c : Char} (h : c ∈ formText s) :
    isFormChar c = true := by
  rw [formText_eq] at h
  obtain ⟨d, -, hd⟩ := List.mem_flatMap.1 h
  unfold formChar at hd
  split_ifs at hd with hspace hsafe
  · rw [List.mem_singleton.1 hd]
    rfl
  · rw [List.mem_singleton.1 hd, isFormChar, hsafe]
    rfl
  · rcases mem_flatMap_encodeByte hd with rfl | ⟨n, hn, rfl⟩
    · rfl
    · exact isFormChar_hexDigit hn

/-- A plus sign is read as a space. -/
def unplus (c : Char) : Char := if c = '+' then ' ' else c

theorem map_unplus_eq_self {cs : List Char} (h : '+' ∉ cs) : cs.map unplus = cs := by
  refine (List.map_congr_left fun c hc => ?_).trans (List.map_id cs)
  have hne : c ≠ '+' := fun heq => h (heq ▸ hc)
  exact if_neg hne

theorem bytes_formChar_append (c : Char) (rest : List Char) :
    bytes ((formChar c).map unplus ++ rest) = Utf8.encodeChar c ++ bytes rest := by
  unfold formChar
  split_ifs with hspace hsafe
  · rw [hspace]
    exact bytes_cons (by decide) rest
  · have hplus : c ≠ '+' := by rintro rfl; exact absurd hsafe (by decide)
    have hpercent : c ≠ '%' := by rintro rfl; exact absurd hsafe (by decide)
    rw [List.map_singleton, unplus, if_neg hplus, List.singleton_append, bytes_cons hpercent]
  · rw [map_unplus_eq_self, bytes_flatMap_encodeByte_append]
    intro hmem
    rcases mem_flatMap_encodeByte hmem with h | ⟨n, hn, h⟩
    · exact absurd h (by decide)
    · exact absurd (h ▸ isFormSafe_hexDigit hn) (by decide)

theorem bytes_formChars (cs : List Char) :
    bytes ((cs.flatMap formChar).map unplus) = Utf8.encode cs := by
  induction cs with
  | nil => rfl
  | cons c cs ih =>
    rw [List.flatMap_cons, List.map_append, bytes_formChar_append, ih]
    rfl

/-- **A written name or value is read back.** -/
theorem unform_formText (s : String) : unform (formText s) = s := by
  have hbytes : bytes ((formText s).map unplus) = Utf8.encode s.toList := bytes_formChars s.toList
  calc unform (formText s) = Utf8.shown (bytes ((formText s).map unplus)) := rfl
    _ = s := by rw [hbytes, Utf8.shown_encode]

/-! ## Forms -/

theorem not_mem_formText {s : String} {c : Char} (h : isFormChar c = false) : c ∉ formText s :=
  fun hmem => absurd (isFormChar_of_mem_formText hmem) (by rw [h]; exact Bool.false_ne_true)

/-- One entry of a form. -/
def formEntry (e : String × String) : List Char := formText e.1 ++ '=' :: formText e.2

theorem form_cons_cons (e e' : String × String) (rest : List (String × String)) :
    form (e :: e' :: rest) = formEntry e ++ '&' :: form (e' :: rest) := by
  simp [form, formEntry]

theorem unformEntry_formEntry (e : String × String) : unformEntry (formEntry e) = e := by
  have hcut : cut? '=' (formEntry e) = some (formText e.1, formText e.2) :=
    cut?_append _ (not_mem_formText rfl)
  simp only [unformEntry, hcut, unform_formText]

theorem and_not_mem_formEntry (e : String × String) : '&' ∉ formEntry e := by
  intro hmem
  rcases List.mem_append.1 hmem with h | h
  · exact not_mem_formText rfl h
  · rcases List.mem_cons.1 h with h | h
    · exact absurd h (by decide)
    · exact not_mem_formText rfl h

theorem pieces_form (e : String × String) (es : List (String × String)) :
    pieces '&' (form (e :: es)) = (e :: es).map formEntry := by
  induction es generalizing e with
  | nil => exact pieces_of_not_mem (and_not_mem_formEntry e)
  | cons e' rest ih =>
    rw [form_cons_cons, pieces_append _ (and_not_mem_formEntry e), ih e', List.map_cons,
      List.map_cons, List.map_cons]

/-- **A form is read as the names and values that it was written from.** -/
theorem readForm_form (es : List (String × String)) : readForm (form es) = es := by
  cases es with
  | nil => rfl
  | cons e rest =>
    have hkept : ∀ p ∈ (e :: rest).map formEntry, (!p.isEmpty) = true := by
      intro p hp
      obtain ⟨e', -, rfl⟩ := List.mem_map.1 hp
      simp [formEntry]
    have hread : unformEntry ∘ formEntry = id := funext unformEntry_formEntry
    rw [readForm, pieces_form, List.filter_eq_self.2 hkept, List.map_map, hread, List.map_id]

/-- A form is written with the characters of names and values and with its two signs. -/
theorem mem_form {es : List (String × String)} {c : Char} (h : c ∈ form es) :
    isFormChar c = true ∨ c = '=' ∨ c = '&' := by
  have hentry : ∀ e : String × String, c ∈ formEntry e → isFormChar c = true ∨ c = '=' := by
    intro e hc
    rcases List.mem_append.1 hc with h | h
    · exact .inl (isFormChar_of_mem_formText h)
    · rcases List.mem_cons.1 h with h | h
      · exact .inr h
      · exact .inl (isFormChar_of_mem_formText h)
  induction es with
  | nil => exact absurd h List.not_mem_nil
  | cons e rest ih =>
    cases rest with
    | nil => exact (hentry e h).imp_right .inl
    | cons e' rest =>
      rw [form_cons_cons] at h
      rcases List.mem_append.1 h with h | h
      · exact (hentry e h).imp_right .inl
      · rcases List.mem_cons.1 h with h | h
        · exact .inr (.inr h)
        · exact ih h

end RemoteModel.Text.Percent
