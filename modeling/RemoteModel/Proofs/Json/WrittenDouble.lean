import RemoteModel.Proofs.Json.WrittenNumber
import RemoteModel.Proofs.Number.Shortest

/-!
# Written doubles are read back

**Main statement.** `number_double`: a finite double is read as it was written, whether it is laid
out with a point, with an exponent or with both.

The reader collects the digits in front of the point and behind it, and the exponent. In every
layout (`LaidOut`) these are the number that the decimal is, and any decimal of that number is
rounded to the double (`Double.ofDecimal_of_rounds`).
-/

namespace RemoteModel.Json

variable {rest ds fs : List Char} {n : Nat} {d : Decimal}

/-! ## Digits -/

theorem natural_append (as bs : List Char) :
    Reader.natural (as ++ bs) = Reader.natural as * 10 ^ bs.length + Reader.natural bs := by
  have hfold : ∀ (ks : List Nat) (k : Nat),
      ks.foldl (fun n d => 10 * n + d) k = k * 10 ^ ks.length + Text.valueOf ks := by
    intro ks
    induction ks with
    | nil => simp [Text.valueOf]
    | cons d ks ih =>
      intro k
      rw [Text.valueOf, List.foldl_cons, List.foldl_cons, ih, ih (10 * 0 + d), List.length_cons]
      ring
  unfold Reader.natural
  rw [List.map_append, Text.valueOf, List.foldl_append, hfold, List.length_map]
  rfl

theorem natural_zeros (k : Nat) : Reader.natural (List.replicate k '0') = 0 := by
  induction k with
  | zero => rfl
  | succ k ih =>
    have hzero : Reader.natural ['0'] = 0 := rfl
    rw [List.replicate_succ, ← List.singleton_append, natural_append, ih, hzero, Nat.zero_mul]

theorem isDigit_of_mem_zeros {k : Nat} {c : Char} (h : c ∈ List.replicate k '0') :
    Reader.isDigit c = true := by
  rw [List.eq_of_mem_replicate h]
  rfl

/-! ## Parts of a number -/

theorem fraction_append (hne : fs ≠ []) (hfs : ∀ c ∈ fs, Reader.isDigit c = true)
    (hrest : ∀ c tail, rest = c :: tail → Reader.isDigit c = false) :
    Reader.fraction ('.' :: (fs ++ rest)) = (some fs, rest) := by
  unfold Reader.fraction
  simp only [digits_append hfs hrest]

theorem fraction_mark (tail : List Char) : Reader.fraction ('e' :: tail) = (none, 'e' :: tail) := rfl

/-- An exponent is read with its sign, whatever its width. -/
theorem exponent_append (f : Notation) (lead : Int) (h : Ends rest) :
    Reader.exponent ('e' :: (f.exponentText lead ++ rest)) = (some lead, rest) := by
  have hall : ∀ c ∈ Notation.pad f.exponentDigits (Nat.toDigits 10 lead.natAbs),
      Reader.isDigit c = true := by
    intro c hc
    rcases List.mem_append.1 hc with hc | hc
    · exact isDigit_of_mem_zeros hc
    · exact isDigit_of_mem_toDigits hc
  have hvalue : Reader.natural (Notation.pad f.exponentDigits (Nat.toDigits 10 lead.natAbs)) =
      lead.natAbs := by
    rw [Notation.pad, natural_append, natural_zeros, natural_toDigits]
    omega
  have hne : Notation.pad f.exponentDigits (Nat.toDigits 10 lead.natAbs) ≠ [] :=
    List.append_ne_nil_of_right_ne_nil _ Nat.toDigits_ne_nil
  have hdigits := digits_append hall fun c tail heq => (h.not_number heq).1
  have hsigned : Text.signed (f.exponentText lead ++ rest) =
      (decide (lead < 0), Notation.pad f.exponentDigits (Nat.toDigits 10 lead.natAbs) ++ rest) := by
    unfold Notation.exponentText
    by_cases hneg : lead < 0
    · simp only [if_pos hneg, decide_eq_true hneg]
      rfl
    · simp only [if_neg hneg, decide_eq_false hneg]
      rfl
  unfold Reader.exponent
  simp only [true_or, if_true, hsigned, hdigits, hvalue, signed_natAbs]

/-! ## Numbers -/

/-- The digits in front of a point: a zero, or digits that do not begin with one. -/
def IsWhole (ds : List Char) : Prop :=
  ds = ['0'] ∨ ∃ c cs, ds = c :: cs ∧ c ≠ '0' ∧ ∀ x ∈ ds, Reader.isDigit x = true

theorem IsWhole.exists_cons (hds : IsWhole ds) :
    ∃ c cs, ds = c :: cs ∧ Reader.isDigit c = true := by
  rcases hds with rfl | ⟨c, cs, rfl, -, hall⟩
  · exact ⟨'0', [], rfl, rfl⟩
  · exact ⟨c, cs, rfl, hall c List.mem_cons_self⟩

theorem IsWhole.whole? (hds : IsWhole ds)
    (hrest : ∀ c tail, rest = c :: tail → Reader.isDigit c = false) :
    Reader.whole? (ds ++ rest) = some (ds, rest) := by
  rcases hds with rfl | ⟨c, cs, rfl, hc, hall⟩
  · rfl
  · exact whole?_append hc hall hrest

theorem IsWhole.sign (hds : IsWhole ds) (negative : Bool) (tail : List Char) :
    Reader.sign ((if negative then ['-'] else []) ++ (ds ++ tail)) = (negative, ds ++ tail) := by
  cases negative with
  | true => rfl
  | false =>
    obtain ⟨c, cs, rfl, hdigit⟩ := hds.exists_cons
    have hminus : c ≠ '-' := by
      rintro rfl
      exact absurd hdigit (by decide)
    simp only [Bool.false_eq_true, if_false, List.nil_append, List.cons_append]
    unfold Reader.sign
    split
    · rename_i heq
      exact absurd (List.cons.inj heq).1 hminus
    · rfl

theorem number_pointed (hds : IsWhole ds) (hne : fs ≠ [])
    (hfs : ∀ c ∈ fs, Reader.isDigit c = true) (h : Ends rest) (negative : Bool) :
    Reader.number ((if negative then ['-'] else []) ++ (ds ++ '.' :: (fs ++ rest))) =
      .ok (.float (Double.ofDecimal negative (Reader.natural (ds ++ fs)) (-fs.length)), rest) := by
  have hpoint : ∀ c tail, '.' :: (fs ++ rest) = c :: tail → Reader.isDigit c = false := by
    rintro c tail ⟨⟩
    rfl
  have hrest : ∀ c tail, rest = c :: tail → Reader.isDigit c = false := fun c tail heq =>
    (h.not_number heq).1
  simp only [Reader.number, hds.sign, hds.whole? hpoint, fraction_append hne hfs hrest,
    exponent_of_ends h, Option.getD_some, Option.getD_none, Int.zero_sub]

/-- A number with an exponent, behind a point and its digits if there are any. -/
theorem number_marked (hds : IsWhole ds) (hfs : ∀ c ∈ fs, Reader.isDigit c = true)
    (f : Notation) (lead : Int) (h : Ends rest) (negative : Bool) :
    Reader.number ((if negative then ['-'] else []) ++ (ds ++ ((if fs = [] then [] else '.' :: fs) ++
      'e' :: (f.exponentText lead ++ rest)))) =
        .ok (.float (Double.ofDecimal negative (Reader.natural (ds ++ fs)) (lead - fs.length)),
          rest) := by
  have hmark : ∀ c tail, 'e' :: (f.exponentText lead ++ rest) = c :: tail →
      Reader.isDigit c = false := by
    rintro c tail ⟨⟩
    rfl
  by_cases hne : fs = []
  · subst hne
    simp only [Reader.number, if_true, List.nil_append, hds.sign, hds.whole? hmark, fraction_mark,
      exponent_append f lead h, Option.getD_some, Option.getD_none]
  · have hpoint : ∀ c tail, '.' :: (fs ++ 'e' :: (f.exponentText lead ++ rest)) = c :: tail →
        Reader.isDigit c = false := by
      rintro c tail ⟨⟩
      rfl
    simp only [Reader.number, if_neg hne, List.cons_append, hds.sign, hds.whole? hpoint,
      fraction_append hne hfs hmark, exponent_append f lead h, Option.getD_some]

/-! ## Layouts -/

/-- The ways to write a number: with digits on both sides of a point, or with an exponent. -/
inductive LaidOut (f : Notation) : List Char → ℚ → Prop
  | pointed {ds fs : List Char} (hds : IsWhole ds) (hne : fs ≠ [])
      (hfs : ∀ c ∈ fs, Reader.isDigit c = true) :
      LaidOut f (ds ++ '.' :: fs) (Reader.natural (ds ++ fs) * 10 ^ (-(fs.length : Int)))
  | marked {ds fs : List Char} (lead : Int) (hds : IsWhole ds)
      (hfs : ∀ c ∈ fs, Reader.isDigit c = true) :
      LaidOut f (ds ++ ((if fs = [] then [] else '.' :: fs) ++ 'e' :: f.exponentText lead))
        (Reader.natural (ds ++ fs) * 10 ^ (lead - (fs.length : Int)))

/-- What is laid out is read as some decimal of the number. -/
theorem LaidOut.number {f : Notation} {cs : List Char} {q : ℚ} (hcs : LaidOut f cs q)
    (h : Ends rest) (negative : Bool) :
    ∃ digits exponent, Reader.number ((if negative then ['-'] else []) ++ (cs ++ rest)) =
        .ok (.float (Double.ofDecimal negative digits exponent), rest) ∧
      (digits : ℚ) * 10 ^ exponent = q := by
  cases hcs with
  | pointed hds hne hfs =>
    refine ⟨_, _, ?_, rfl⟩
    rw [List.append_assoc, List.cons_append]
    exact number_pointed hds hne hfs h negative
  | marked lead hds hfs =>
    refine ⟨_, _, ?_, rfl⟩
    rw [List.append_assoc, List.append_assoc, List.cons_append]
    exact number_marked hds hfs f lead h negative

theorem LaidOut.exists_cons {f : Notation} {cs : List Char} {q : ℚ} (hcs : LaidOut f cs q) :
    ∃ c tail, cs = c :: tail ∧ Reader.isDigit c = true := by
  cases hcs with
  | pointed hds =>
    obtain ⟨c, tail, rfl, hdigit⟩ := hds.exists_cons
    exact ⟨c, _, rfl, hdigit⟩
  | marked lead hds =>
    obtain ⟨c, tail, rfl, hdigit⟩ := hds.exists_cons
    exact ⟨c, _, rfl, hdigit⟩

section

variable {f : Notation} {c : Char} {cs : List Char} {k : Nat}

/-- Zeros stand between the point and the digits. -/
theorem laidOut_below (hne : ds ≠ []) (hds : ∀ x ∈ ds, Reader.isDigit x = true) :
    LaidOut f ('0' :: '.' :: (List.replicate k '0' ++ ds))
      (Reader.natural ds * 10 ^ (-(k + ds.length : Int))) := by
  have hzero : Reader.natural ['0'] = 0 := rfl
  have hvalue : Reader.natural (['0'] ++ (List.replicate k '0' ++ ds)) = Reader.natural ds := by
    rw [natural_append, natural_append, natural_zeros, hzero]
    omega
  have hlength : ((List.replicate k '0' ++ ds).length : Int) = k + ds.length := by
    rw [List.length_append, List.length_replicate, Nat.cast_add]
  rw [← hvalue, ← hlength]
  refine .pointed (.inl rfl) (List.append_ne_nil_of_right_ne_nil _ hne) fun x hx => ?_
  rcases List.mem_append.1 hx with hx | hx
  · exact isDigit_of_mem_zeros hx
  · exact hds x hx

/-- Zeros stand between the digits and the point. -/
theorem laidOut_above (hc : c ≠ '0') (hds : ∀ x ∈ c :: cs, Reader.isDigit x = true) :
    LaidOut f ((c :: cs) ++ List.replicate k '0' ++ '.' :: ['0'])
      (Reader.natural (c :: cs) * 10 ^ (k : Int)) := by
  have hzero : Reader.natural ['0'] = 0 := rfl
  have hvalue : (Reader.natural (c :: cs) * 10 ^ (k : Int) : ℚ) =
      Reader.natural ((c :: cs) ++ List.replicate k '0' ++ ['0']) *
        10 ^ (-(['0'].length : Int)) := by
    rw [natural_append, natural_append, natural_zeros, hzero, List.length_replicate, zpow_natCast,
      List.length_singleton, Nat.cast_one, zpow_neg_one]
    push_cast
    field_simp
    ring
  rw [hvalue]
  refine .pointed (.inr ⟨c, _, rfl, hc, fun x hx => ?_⟩) (List.cons_ne_nil _ _)
    (List.forall_mem_singleton.2 rfl)
  rcases List.mem_append.1 hx with hx | hx
  · exact hds x hx
  · exact isDigit_of_mem_zeros hx

/-- The point stands between the digits. -/
theorem laidOut_between (hc : c ≠ '0') (hds : ∀ x ∈ c :: cs, Reader.isDigit x = true)
    (hk : k + 1 < (c :: cs).length) :
    LaidOut f ((c :: cs).take (k + 1) ++ '.' :: (c :: cs).drop (k + 1))
      (Reader.natural (c :: cs) * 10 ^ ((k : Int) + 1 - (c :: cs).length)) := by
  have hlength : (k : Int) + 1 - (c :: cs).length = -(((c :: cs).drop (k + 1)).length : Int) := by
    rw [List.length_drop]
    omega
  have hvalue : Reader.natural (c :: cs) =
      Reader.natural ((c :: cs).take (k + 1) ++ (c :: cs).drop (k + 1)) := by
    rw [List.take_append_drop]
  rw [hlength, hvalue]
  exact .pointed (.inr ⟨c, cs.take k, rfl, hc, fun x hx => hds x (List.mem_of_mem_take hx)⟩)
    (fun hnil => Nat.not_le_of_lt hk (List.drop_eq_nil_iff.1 hnil))
    fun x hx => hds x (List.mem_of_mem_drop hx)

theorem laidOut_marked (hc : c ≠ '0') (hds : ∀ x ∈ c :: cs, Reader.isDigit x = true) (lead : Int) :
    LaidOut f ([c] ++ ((if cs = [] then [] else '.' :: cs) ++ 'e' :: f.exponentText lead))
      (Reader.natural (c :: cs) * 10 ^ (lead - (cs.length : Int))) :=
  .marked lead (.inr ⟨c, [], rfl, hc, List.forall_mem_singleton.2 (hds c List.mem_cons_self)⟩)
    fun x hx => hds x (List.mem_cons_of_mem c hx)

end

/-- **A decimal is laid out as the number that it is.** -/
theorem laidOut_layout (f : Notation) (hd : d.digits ≠ 0) : LaidOut f (f.layout d) d.value := by
  obtain ⟨c, cs, hcs, hc⟩ := Text.toDigits_eq_cons (Nat.pos_of_ne_zero hd)
  have hall : ∀ x ∈ Nat.toDigits 10 d.digits, Reader.isDigit x = true := fun x =>
    isDigit_of_mem_toDigits
  have hnatural := natural_toDigits d.digits
  unfold Notation.layout Decimal.value
  rw [hcs] at hall hnatural ⊢
  rw [← hnatural]
  simp only
  generalize hlead : d.exponent + ((c :: cs).length : Int) - 1 = lead
  split
  · split
    · have hexponent : d.exponent = -(((-lead - 1).toNat : Int) + (c :: cs).length) := by omega
      rw [hexponent]
      exact laidOut_below (List.cons_ne_nil _ _) hall
    · obtain ⟨k, rfl⟩ : ∃ k : Nat, lead = k := ⟨lead.toNat, by omega⟩
      rw [Int.toNat_natCast]
      by_cases hlong : (c :: cs).length ≤ k + 1
      · have hexponent : d.exponent = ((k + 1 - (c :: cs).length : Nat) : Int) := by omega
        rw [List.take_of_length_le hlong, List.drop_eq_nil_of_le hlong, hexponent]
        exact laidOut_above hc hall
      · have hk : k + 1 < (c :: cs).length := Nat.lt_of_not_le hlong
        have hexponent : d.exponent = (k : Int) + 1 - (c :: cs).length := by omega
        have hdrop : ((c :: cs).drop (k + 1)).isEmpty = false := by simpa using hk
        rw [List.length_take_of_le hk.le, Nat.sub_self, List.replicate_zero, List.append_nil,
          hdrop, hexponent]
        exact laidOut_between hc hall hk
  · have hexponent : d.exponent = lead - (cs.length : Int) := by
      rw [List.length_cons] at hlead
      omega
    rw [hexponent]
    have hmarked := laidOut_marked (f := f) hc hall lead
    cases cs with
    | nil => exact hmarked
    | cons => exact hmarked

/-! ## Doubles -/

theorem digits_shortest_ne {m : Nat} {e : Int} (hc : Double.Canonical m e) (hm : m ≠ 0) :
    (Decimal.shortest m e).digits ≠ 0 := by
  intro hnone
  have hrange := ((Decimal.shortest_rounds hc hm).range hc hm).1
  have hpos : (0 : ℚ) < 10 ^ (-400 : Int) := by positivity
  rw [Decimal.value, hnone, Nat.cast_zero, zero_mul] at hrange
  exact lt_irrefl _ (hpos.trans hrange)

theorem exists_text_eq {m : Nat} {e : Int} (hc : Double.Canonical m e) :
    ∃ c tail, (∀ negative, numbers.text (.finite negative m e) =
      (if negative then ['-'] else []) ++ c :: tail) ∧ Reader.isDigit c = true := by
  by_cases hm : m = 0
  · exact ⟨'0', ['.', '0'], fun negative => by rw [Notation.text, if_pos hm], rfl⟩
  · obtain ⟨c, tail, htail, hdigit⟩ :=
      (laidOut_layout numbers (digits_shortest_ne hc hm)).exists_cons
    exact ⟨c, tail, fun negative => by rw [Notation.text, if_neg hm, htail], hdigit⟩

/-- **A finite double is read back as it was written.** -/
theorem number_double {negative : Bool} {m : Nat} {e : Int} (hc : Double.Canonical m e)
    (h : Ends rest) :
    Reader.number (numbers.text (.finite negative m e) ++ rest) =
      .ok (.float (.finite negative m e), rest) := by
  rw [Notation.text, List.append_assoc]
  by_cases hm : m = 0
  · obtain rfl := hm
    obtain rfl := hc.eq_leastExponent
    have hwhole : IsWhole ['0'] := .inl rfl
    have hfraction : ∀ c ∈ ['0'], Reader.isDigit c = true := List.forall_mem_singleton.2 rfl
    exact number_pointed hwhole (List.cons_ne_nil _ _) hfraction h negative
  · obtain ⟨digits, exponent, hnumber, hvalue⟩ :=
      (laidOut_layout numbers (digits_shortest_ne hc hm)).number h negative
    rw [if_neg hm, hnumber, Double.ofDecimal_of_rounds hc hm negative
      (hvalue ▸ Decimal.shortest_rounds hc hm)]

end RemoteModel.Json
