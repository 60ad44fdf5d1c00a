import Mathlib.Data.List.TakeWhile
import RemoteModel.Proofs.Except
import RemoteModel.Proofs.Json.Containers
import RemoteModel.Proofs.Json.WrittenValue

/-!
# What is read can be written

A text may give an object two members of one name. Reading keeps one of them, so every object
inside a value that is read has distinct member names. Its integers do not have too many digits,
and its doubles are in canonical form.

**Main statements.** `wellFormed_of_read`, and `read_render_of_read`: a value that is read can be
written and read again. The proof follows the grammar: `ReadsWell fuel` says of the values, items
and members read with some fuel that they are well-formed and faithful, and it passes from any fuel
to the next (`ReadsWell.succ`).
-/

namespace RemoteModel.Json

/-! ## Containers -/

theorem faithfulItems_iff {items : List Json} :
    FaithfulItems items ↔ ∀ v ∈ items, v.Faithful := by
  induction items with
  | nil => simp [FaithfulItems]
  | cons w rest ih => simp [FaithfulItems, ih]

theorem faithfulMembers_iff {ms : List (String × Json)} :
    FaithfulMembers ms ↔ ∀ e ∈ ms, e.2.Faithful := by
  induction ms with
  | nil => simp [FaithfulMembers]
  | cons m ms ih => simp [FaithfulMembers, ih]

theorem wellFormed_obj_ofList {ms : List (String × Json)} (h : WellFormedMembers ms) :
    (obj (Entries.ofList ms)).WellFormed := by
  refine ⟨Entries.Distinct.merge (show Entries.Distinct [] from List.nodup_nil) ms,
    wellFormedMembers_iff.2 fun e he => ?_⟩
  exact wellFormedMembers_iff.1 h e ((Entries.mem_of_mem_merge he).resolve_left (by simp))

theorem faithful_obj_ofList {ms : List (String × Json)} (h : FaithfulMembers ms) :
    (obj (Entries.ofList ms)).Faithful := by
  refine faithfulMembers_iff.2 fun e he => ?_
  exact faithfulMembers_iff.1 h e ((Entries.mem_of_mem_merge he).resolve_left (by simp))

/-! ## Numbers -/

/-- A run of digits stands for less than the power of ten with as many zeros. -/
theorem natural_lt {ds : List Char} (h : ∀ c ∈ ds, Reader.isDigit c = true) :
    Reader.natural ds < 10 ^ ds.length := by
  induction ds with
  | nil => decide
  | cons c cs ih =>
    have hc : '0' ≤ c ∧ c ≤ '9' := by simpa [Reader.isDigit] using h c List.mem_cons_self
    have hle : c.toNat ≤ 57 := UInt32.le_iff_toNat_le.1 hc.2
    have hdigit : Reader.natural [c] = c.toNat - 48 := by simp [Reader.natural, Text.valueOf]
    have hrest := ih fun d hd => h d (List.mem_cons_of_mem c hd)
    calc Reader.natural (c :: cs) = Reader.natural [c] * 10 ^ cs.length + Reader.natural cs :=
          natural_append [c] cs
      _ < (Reader.natural [c] + 1) * 10 ^ cs.length := by rw [Nat.add_mul]; omega
      _ ≤ 10 * 10 ^ cs.length := Nat.mul_le_mul_right _ (by omega)
      _ = 10 ^ (c :: cs).length := Nat.pow_succ'.symm

theorem isDigit_of_whole? {cs ds rest : List Char} (h : Reader.whole? cs = some (ds, rest)) :
    ∀ c ∈ ds, Reader.isDigit c = true := by
  unfold Reader.whole? at h
  split at h
  · cases h
    exact List.forall_mem_singleton.2 rfl
  · split at h
    · cases h
    · rename_i heq
      cases h
      have hds : cs.takeWhile Reader.isDigit = ds := congrArg Prod.fst heq
      rw [← hds]
      exact fun c hc => List.mem_takeWhile_imp hc

theorem natAbs_signed (negative : Bool) (n : Nat) : (Double.signed negative n).natAbs = n := by
  cases negative <;> simp [Double.signed]

/-- A number that is read is well-formed, and it is written as a number that can be read. -/
theorem of_number {cs rest : List Char} {v : Json} (h : Reader.number cs = .ok (v, rest)) :
    v.WellFormed ∧ v.Faithful := by
  unfold Reader.number at h
  dsimp only at h
  split at h
  · cases h
  · rename_i ds _ hwhole
    split at h
    · split at h
      · rename_i hlength
        cases h
        refine ⟨trivial, ?_⟩
        show (Double.signed _ _).natAbs < _
        rw [natAbs_signed]
        exact (natural_lt (isDigit_of_whole? hwhole)).trans_le (Text.pow_le_numeralBound hlength)
      · cases h
    · cases h
      exact ⟨trivial, Double.isCanonical_ofDecimal _ _ _⟩

/-! ## Values -/

/-- What is read with some fuel is well-formed and faithful. -/
structure ReadsWell (fuel : Nat) : Prop where
  value : ∀ {cs rest : List Char} {v : Json},
    Reader.value fuel cs = .ok (v, rest) → v.WellFormed ∧ v.Faithful
  items : ∀ {cs rest : List Char} {vs : List Json},
    Reader.items fuel cs = .ok (vs, rest) → WellFormedItems vs ∧ FaithfulItems vs
  members : ∀ {cs rest : List Char} {ms : List (String × Json)},
    Reader.members fuel cs = .ok (ms, rest) → WellFormedMembers ms ∧ FaithfulMembers ms

namespace ReadsWell

variable {fuel : Nat} {cs rest : List Char}

theorem zero : ReadsWell 0 where
  value h := by cases h
  items h := by cases h
  members h := by cases h

theorem value_succ (hfuel : ReadsWell fuel) {v : Json}
    (h : Reader.value (fuel + 1) cs = .ok (v, rest)) : v.WellFormed ∧ v.Faithful := by
  unfold Reader.value at h
  split at h
  · obtain ⟨⟨s, rest'⟩, -, hv⟩ := bind_eq_ok.1 h
    cases hv
    exact ⟨trivial, trivial⟩
  · split at h
    · cases h
      exact ⟨trivial, trivial⟩
    · obtain ⟨⟨vs, rest'⟩, hvs, hv⟩ := bind_eq_ok.1 h
      cases hv
      exact hfuel.items hvs
  · split at h
    · cases h
      exact ⟨⟨List.nodup_nil, trivial⟩, trivial⟩
    · obtain ⟨⟨ms, rest'⟩, hms, hv⟩ := bind_eq_ok.1 h
      obtain ⟨hwell, hfaithful⟩ := hfuel.members hms
      cases hv
      exact ⟨wellFormed_obj_ofList hwell, faithful_obj_ofList hfaithful⟩
  all_goals first
    | exact of_number h
    | cases h; exact ⟨trivial, trivial⟩

theorem items_succ (hfuel : ReadsWell fuel) {vs : List Json}
    (h : Reader.items (fuel + 1) cs = .ok (vs, rest)) :
    WellFormedItems vs ∧ FaithfulItems vs := by
  unfold Reader.items at h
  obtain ⟨⟨v, rest'⟩, hv, h⟩ := bind_eq_ok.1 h
  obtain ⟨hwell, hfaithful⟩ := hfuel.value hv
  dsimp only at h
  split at h
  · cases h
    exact ⟨⟨hwell, trivial⟩, hfaithful, trivial⟩
  · obtain ⟨⟨vs', rest''⟩, hvs, hitems⟩ := bind_eq_ok.1 h
    obtain ⟨hwell', hfaithful'⟩ := hfuel.items hvs
    cases hitems
    exact ⟨⟨hwell, hwell'⟩, hfaithful, hfaithful'⟩
  · cases h

theorem members_succ (hfuel : ReadsWell fuel) {ms : List (String × Json)}
    (h : Reader.members (fuel + 1) cs = .ok (ms, rest)) :
    WellFormedMembers ms ∧ FaithfulMembers ms := by
  unfold Reader.members at h
  split at h
  · obtain ⟨⟨k, rest'⟩, -, h⟩ := bind_eq_ok.1 h
    dsimp only at h
    split at h
    · obtain ⟨⟨v, rest''⟩, hv, h⟩ := bind_eq_ok.1 h
      obtain ⟨hwell, hfaithful⟩ := hfuel.value hv
      dsimp only at h
      split at h
      · cases h
        exact ⟨⟨hwell, trivial⟩, hfaithful, trivial⟩
      · obtain ⟨⟨ms', rest'''⟩, hms, hmembers⟩ := bind_eq_ok.1 h
        obtain ⟨hwell', hfaithful'⟩ := hfuel.members hms
        cases hmembers
        exact ⟨⟨hwell, hwell'⟩, hfaithful, hfaithful'⟩
      · cases h
    · cases h
  · cases h

theorem succ (hfuel : ReadsWell fuel) : ReadsWell (fuel + 1) where
  value := hfuel.value_succ
  items := hfuel.items_succ
  members := hfuel.members_succ

theorem all (fuel : Nat) : ReadsWell fuel := by
  induction fuel with
  | zero => exact zero
  | succ fuel ih => exact ih.succ

end ReadsWell

theorem of_read {s : String} {v : Json} (h : read s = .ok v) : v.WellFormed ∧ v.Faithful := by
  obtain ⟨⟨w, rest⟩, hw, hrest⟩ := bind_eq_ok.1 h
  dsimp only at hrest
  split at hrest
  · cases hrest
    exact (ReadsWell.all _).value hw
  · cases hrest

/-- **What is read is well-formed.** -/
theorem wellFormed_of_read {s : String} {v : Json} (h : read s = .ok v) : v.WellFormed :=
  (of_read h).1

/-- **What is read can be written and read again.** -/
theorem read_render_of_read {l : Layout} (hl : l.IsPlain) {s : String} {v : Json}
    (h : read s = .ok v) : read (render l v) = .ok v :=
  read_render_of_faithful hl (of_read h).1 (of_read h).2

end RemoteModel.Json
