import RemoteModel.Proofs.Json.OneLine
import RemoteModel.Proofs.Json.WrittenValue
import RemoteModel.Proofs.Text.Utf8

/-!
# Written bytes are read back

A layout that escapes everything beyond ASCII writes basic characters only: none of them is zero,
and each is one byte. So the bytes of a written value show no mark and no zero bytes, are taken for
UTF-8, and hold the text (`textOf?_encode`).
-/

namespace RemoteModel.Json

/-- A character of ASCII that is not zero. -/
def IsBasic (c : Char) : Prop := 0 < c.toNat ∧ c.toNat < 0x80

instance (c : Char) : Decidable (IsBasic c) := instDecidableAnd

theorem isBasic_of_all {cs : List Char} (h : (cs.all fun c => decide (IsBasic c)) = true) :
    ∀ c ∈ cs, IsBasic c :=
  fun c hc => of_decide_eq_true (List.all_eq_true.1 h c hc)

/-! ## Bytes of basic characters -/

section Bytes

variable {cs : List Char}

theorem encode_of_isBasic (h : ∀ c ∈ cs, IsBasic c) :
    Text.Utf8.encode cs = cs.map fun c => UInt8.ofNat c.toNat := by
  induction cs with
  | nil => rfl
  | cons c cs ih =>
    have hc : Text.Utf8.encodeChar c = [UInt8.ofNat c.toNat] := by
      simp only [Text.Utf8.encodeChar, (h c List.mem_cons_self).2, if_true]
    have hcs := ih fun d hd => h d (List.mem_cons_of_mem _ hd)
    rw [Text.Utf8.encode, List.flatMap_cons, hc]
    exact congrArg (UInt8.ofNat c.toNat :: ·) hcs

theorem toNat_byte {c : Char} (h : IsBasic c) : (UInt8.ofNat c.toNat).toNat = c.toNat :=
  Text.Utf8.toNat_byte (Nat.lt_trans h.2 (by decide))

theorem exists_not_lt_of_mem_marks {mark : List UInt8} {encoding : Reader.Encoding}
    (h : (mark, encoding) ∈ Reader.marks) : ∃ b ∈ mark, ¬ b < 0x80 := by
  have hall : (Reader.marks.all fun m => m.1.any fun b => !decide (b < 0x80)) = true := rfl
  obtain ⟨b, hb, hbig⟩ := List.any_eq_true.1 (List.all_eq_true.1 hall _ h)
  exact ⟨b, hb, by simpa using hbig⟩

theorem unmarkedEncoding_of_ne_zero {bytes : List UInt8} (h : ∀ b ∈ bytes, b ≠ 0) :
    Reader.unmarkedEncoding bytes = .utf8 := by
  have hzero : ∀ b ∈ bytes, (b == 0) = false := fun b hb => beq_eq_false_iff_ne.2 (h b hb)
  unfold Reader.unmarkedEncoding
  split
  · rename_i a b _ _ _
    rw [hzero a (by simp), hzero b (by simp)]
    rfl
  · rename_i a b
    rw [hzero a (by simp), hzero b (by simp)]
    rfl
  · rfl

/-- Bytes of ASCII without zeros are taken for UTF-8. -/
theorem encodingOf_of_basic {bytes : List UInt8} (h : ∀ b ∈ bytes, b ≠ 0 ∧ b < 0x80) :
    Reader.encodingOf bytes = (.utf8, bytes) := by
  have hmarks : (Reader.marks.find? fun m => m.1.isPrefixOf bytes) = none := by
    rw [List.find?_eq_none]
    rintro ⟨mark, encoding⟩ hmem hmark
    obtain ⟨b, hb, hbig⟩ := exists_not_lt_of_mem_marks hmem
    exact hbig (h b ((List.isPrefixOf_iff_prefix.1 hmark).subset hb)).2
  rw [Reader.encodingOf, hmarks]
  exact Prod.ext (unmarkedEncoding_of_ne_zero fun b hb => (h b hb).1) rfl

theorem textOf?_encode (h : ∀ c ∈ cs, IsBasic c) :
    Reader.textOf? (Text.Utf8.encode cs) = some (cs.map some) := by
  have hbytes : ∀ b ∈ cs.map fun c => UInt8.ofNat c.toNat, b ≠ 0 ∧ b < 0x80 := by
    intro b hb
    obtain ⟨c, hc, rfl⟩ := List.mem_map.1 hb
    refine ⟨fun hzero => ?_, ?_⟩
    · have hnat := toNat_byte (h c hc)
      rw [hzero] at hnat
      exact Nat.ne_of_lt (h c hc).1 hnat
    · rw [UInt8.lt_iff_toNat_lt, toNat_byte (h c hc)]
      exact (h c hc).2
  have hsurrogates : 0xED ∉ Text.Utf8.encode cs := by
    rw [encode_of_isBasic h]
    exact fun hmem => absurd (hbytes _ hmem).2 (by decide)
  rw [Reader.textOf?, encode_of_isBasic h, encodingOf_of_basic hbytes, ← encode_of_isBasic h]
  simp only [Text.Utf8.passed?_of_notMem hsurrogates, Text.Utf8.decode?_encode, Option.map_some]

end Bytes

/-! ## Written values are basic -/

variable {l : Layout} {v : Json} {c : Char}

theorem isBasic_of_isBlank (h : Reader.isBlank c = true) : IsBasic c := by
  simp only [Reader.isBlank, Bool.or_eq_true, beq_iff_eq] at h
  rcases h with ((rfl | rfl) | rfl) | rfl <;> decide

theorem IsVisible.isBasic (h : IsVisible c) : IsBasic c :=
  ⟨Nat.lt_of_lt_of_le (by decide) h.1, Nat.lt_trans h.2 (by decide)⟩

theorem isBasic_quoted (s : String) : ∀ c ∈ quoted true s, IsBasic c :=
  fun c hc => (isVisible_quoted s c hc).isBasic

theorem isBasic_toString (i : Int) : ∀ c ∈ (toString i).toList, IsBasic c :=
  fun c hc => (isVisible_toString i c hc).isBasic

namespace Layout

/-- Everything that is not blank is a comma or a colon, so a plain layout is basic. -/
theorem IsPlain.isBasic (hl : l.IsPlain) :
    (∀ c ∈ l.afterName, IsBasic c) ∧ ∀ c ∈ l.afterItem, IsBasic c := by
  obtain ⟨bs, hbs, hblank⟩ := hl.afterName
  obtain ⟨ds, hds, hblank'⟩ := hl.afterItem
  rw [hbs, hds, List.forall_mem_cons, List.forall_mem_cons]
  exact ⟨⟨by decide, fun c hc => isBasic_of_isBlank (hblank c hc)⟩, by decide,
    fun c hc => isBasic_of_isBlank (hblank' c hc)⟩

theorem isBasic_lineBreak (l : Layout) (level : Nat) : ∀ c ∈ l.lineBreak level, IsBasic c :=
  fun _ hc => isBasic_of_isBlank (isBlank_of_mem_lineBreak hc)

end Layout

mutual

theorem isBasic_write (hl : l.IsPlain) (hascii : l.asciiOnly = true) :
    (v : Json) → v.Portable → ∀ level, ∀ c ∈ write l level v, IsBasic c
  | .null, _, _ => isBasic_of_all (by simp only [write]; rfl)
  | .bool true, _, _ => isBasic_of_all (by simp only [write]; rfl)
  | .bool false, _, _ => isBasic_of_all (by simp only [write]; rfl)
  | .int i, _, _ => isBasic_toString i
  | .float x, hp, _ => hp.elim
  | .str s, _, _ => by
    rw [write, hascii]
    exact isBasic_quoted s
  | .arr [], _, _ => isBasic_of_all (by simp only [write]; rfl)
  | .arr (v :: vs), hp, level => by
    simp only [write, List.forall_mem_append, List.cons_append, List.forall_mem_cons]
    exact ⟨by decide, ⟨⟨⟨l.isBasic_lineBreak _, isBasic_write hl hascii v hp.1 _⟩,
      isBasic_writeItems hl hascii vs hp.2 _⟩, l.isBasic_lineBreak _⟩, by decide, by simp⟩
  | .obj [], _, _ => isBasic_of_all (by simp only [write]; rfl)
  | .obj ((k, v) :: ms), hp, level => by
    simp only [write, List.forall_mem_append, List.cons_append, List.forall_mem_cons, hascii]
    exact ⟨by decide, ⟨⟨⟨⟨⟨l.isBasic_lineBreak _, isBasic_quoted k⟩, hl.isBasic.1⟩,
      isBasic_write hl hascii v hp.1 _⟩, isBasic_writeMembers hl hascii ms hp.2 _⟩,
      l.isBasic_lineBreak _⟩, by decide, by simp⟩

theorem isBasic_writeItems (hl : l.IsPlain) (hascii : l.asciiOnly = true) :
    (vs : List Json) → PortableItems vs → ∀ level, ∀ c ∈ writeItems l level vs, IsBasic c
  | [], _, _ => isBasic_of_all (by simp only [writeItems]; rfl)
  | v :: vs, hp, level => by
    simp only [writeItems, List.forall_mem_append]
    exact ⟨⟨⟨hl.isBasic.2, l.isBasic_lineBreak level⟩, isBasic_write hl hascii v hp.1 level⟩,
      isBasic_writeItems hl hascii vs hp.2 level⟩

theorem isBasic_writeMembers (hl : l.IsPlain) (hascii : l.asciiOnly = true) :
    (ms : List (String × Json)) → PortableMembers ms → ∀ level, ∀ c ∈ writeMembers l level ms,
      IsBasic c
  | [], _, _ => isBasic_of_all (by simp only [writeMembers]; rfl)
  | (k, v) :: ms, hp, level => by
    simp only [writeMembers, List.forall_mem_append, hascii]
    exact ⟨⟨⟨⟨⟨hl.isBasic.2, l.isBasic_lineBreak level⟩, isBasic_quoted k⟩, hl.isBasic.1⟩,
      isBasic_write hl hascii v hp.1 level⟩, isBasic_writeMembers hl hascii ms hp.2 level⟩

end

/-- **The bytes of a written value are read back.** -/
theorem readBytes_render (hl : l.IsPlain) (hascii : l.asciiOnly = true) (hw : v.WellFormed)
    (hp : v.Portable) : readBytes (Text.Utf8.encode (render l v).toList) = .ok v := by
  have hread := read_render hl hw hp
  rw [read] at hread
  rw [readBytes]
  simp only [render, String.toList_ofList] at hread ⊢
  simp only [textOf?_encode (isBasic_write hl hascii v hp 0), Text.Utf8.filled_map_some, hread]

end RemoteModel.Json
