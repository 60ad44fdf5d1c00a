import RemoteModel.Proofs.Entries
import RemoteModel.Proofs.Json.QuotedText
import RemoteModel.Proofs.Json.WrittenDouble

/-!
# Written values are read back

A value whose doubles are in canonical form and whose integers do not have too many digits
(`Faithful`) is read back from its text, in every layout that puts nothing but blanks around commas
and colons. A value without doubles (`Portable`) is one of these.

**Fuel.** The reader has two steps for each character of a text. Reading a value takes at most as
many, because a container has a character for each of its brackets.

The main induction (`readsBack`) goes along the value, with the lists of items and members; each
step leaves what follows the value.
-/

namespace RemoteModel.Json

/-! ## Faithful values -/

mutual

/-- A value is written as a text from which it can be read. -/
def Faithful : Json → Prop
  | .int i => i.natAbs < Text.numeralBound
  | .float x => x.IsCanonical
  | .arr items => FaithfulItems items
  | .obj members => FaithfulMembers members
  | _ => True

def FaithfulItems : List Json → Prop
  | [] => True
  | v :: rest => Faithful v ∧ FaithfulItems rest

def FaithfulMembers : List (String × Json) → Prop
  | [] => True
  | (_, v) :: rest => Faithful v ∧ FaithfulMembers rest

end

mutual

/-- The same without doubles. -/
def Portable : Json → Prop
  | .int i => i.natAbs < Text.numeralBound
  | .float _ => False
  | .arr items => PortableItems items
  | .obj members => PortableMembers members
  | _ => True

def PortableItems : List Json → Prop
  | [] => True
  | v :: rest => Portable v ∧ PortableItems rest

def PortableMembers : List (String × Json) → Prop
  | [] => True
  | (_, v) :: rest => Portable v ∧ PortableMembers rest

end

mutual

theorem Portable.faithful : (v : Json) → v.Portable → v.Faithful
  | .null, _ | .bool _, _ | .str _, _ => trivial
  | .int _, h => h
  | .float _, h => h.elim
  | .arr items, h => PortableItems.faithful items h
  | .obj members, h => PortableMembers.faithful members h

theorem PortableItems.faithful : (vs : List Json) → PortableItems vs → FaithfulItems vs
  | [], _ => trivial
  | v :: rest, h => ⟨Portable.faithful v h.1, PortableItems.faithful rest h.2⟩

theorem PortableMembers.faithful :
    (ms : List (String × Json)) → PortableMembers ms → FaithfulMembers ms
  | [], _ => trivial
  | (_, v) :: rest, h => ⟨Portable.faithful v h.1, PortableMembers.faithful rest h.2⟩

end

/-! ## Blanks -/

namespace Layout

/-- Around commas and colons there are blanks only. -/
structure IsPlain (l : Layout) : Prop where
  afterName : ∃ bs, l.afterName = ':' :: bs ∧ ∀ c ∈ bs, Reader.isBlank c = true
  afterItem : ∃ bs, l.afterItem = ',' :: bs ∧ ∀ c ∈ bs, Reader.isBlank c = true

theorem spaced_isPlain : spaced.IsPlain where
  afterName := ⟨[' '], rfl, List.forall_mem_singleton.2 rfl⟩
  afterItem := ⟨[' '], rfl, List.forall_mem_singleton.2 rfl⟩

theorem compact_isPlain : compact.IsPlain where
  afterName := ⟨[], rfl, by simp⟩
  afterItem := ⟨[], rfl, by simp⟩

theorem isBlank_of_mem_lineBreak {l : Layout} {level : Nat} {c : Char}
    (h : c ∈ l.lineBreak level) : Reader.isBlank c = true := by
  unfold lineBreak at h
  split at h
  · rcases List.mem_cons.1 h with rfl | h
    · rfl
    · rw [List.eq_of_mem_replicate h]
      rfl
  · cases h

end Layout

variable {l : Layout} {level : Nat} {v : Json} {cs rest : List Char}

theorem skip_append {bs : List Char} (h : ∀ c ∈ bs, Reader.isBlank c = true) (cs : List Char) :
    Reader.skip (bs ++ cs) = Reader.skip cs :=
  List.dropWhile_append_of_pos h

theorem skip_cons {c : Char} (hc : Reader.isBlank c = false) (cs : List Char) :
    Reader.skip (c :: cs) = c :: cs := by
  simp [Reader.skip, hc]

theorem skip_lineBreak (l : Layout) (level : Nat) {c : Char} (hc : Reader.isBlank c = false)
    (cs : List Char) : Reader.skip (l.lineBreak level ++ c :: cs) = c :: cs := by
  rw [skip_append fun c => Layout.isBlank_of_mem_lineBreak, skip_cons hc]

/-- A line break and what closes a container end a value. -/
theorem ends_lineBreak (l : Layout) (level : Nat) {c : Char} (hc : c = ']' ∨ c = '\x7d')
    (cs : List Char) : Ends (l.lineBreak level ++ c :: cs) := by
  rintro d tail heq
  cases hbreak : l.lineBreak level with
  | nil =>
    rw [hbreak] at heq
    cases heq
    exact .inr (.inr hc)
  | cons b bs =>
    rw [hbreak] at heq
    cases heq
    exact .inl (Layout.isBlank_of_mem_lineBreak (hbreak ▸ List.mem_cons_self))

/-! ## Beginnings -/

theorem ne_of_isDigit {c d : Char} (hc : Reader.isDigit c = true) (hd : Reader.isDigit d = false) :
    c ≠ d := by
  rintro rfl
  rw [hc] at hd
  cases hd

/-- A text begins with a digit, or with a sign and a digit. -/
def IsNumeric (cs : List Char) : Prop :=
  (∃ c tail, cs = c :: tail ∧ Reader.isDigit c = true) ∨
    ∃ c tail, cs = '-' :: c :: tail ∧ Reader.isDigit c = true

theorem isNumeric_toString (i : Int) : IsNumeric (toString i).toList := by
  obtain ⟨c, cs, hcs⟩ := List.exists_cons_of_ne_nil (Nat.toDigits_ne_nil (n := i.natAbs) (b := 10))
  have hdigit : Reader.isDigit c = true :=
    isDigit_of_mem_toDigits (n := i.natAbs) (hcs ▸ List.mem_cons_self)
  rw [toList_toString, hcs]
  by_cases hneg : i < 0
  · exact .inr ⟨c, cs, by rw [if_pos hneg]; rfl, hdigit⟩
  · exact .inl ⟨c, cs, by rw [if_neg hneg]; rfl, hdigit⟩

theorem isNumeric_double (negative : Bool) {m : Nat} {e : Int} (hc : Double.Canonical m e) :
    IsNumeric (numbers.text (.finite negative m e)) := by
  obtain ⟨c, tail, htext, hdigit⟩ := exists_text_eq hc
  rw [htext]
  cases negative with
  | true => exact .inr ⟨c, tail, rfl, hdigit⟩
  | false => exact .inl ⟨c, tail, rfl, hdigit⟩

/-- A number is not taken for a blank, for the end of a list or for another value. -/
theorem IsNumeric.eq_cons (h : IsNumeric cs) :
    ∃ c tail, cs = c :: tail ∧ Reader.isBlank c = false ∧ c ≠ ']' := by
  rcases h with ⟨c, tail, hcs, hdigit⟩ | ⟨c, tail, hcs, -⟩
  · refine ⟨c, tail, hcs, ?_, ne_of_isDigit hdigit rfl⟩
    simp only [Reader.isBlank, Bool.or_eq_false_iff, beq_eq_false_iff_ne]
    exact ⟨⟨⟨ne_of_isDigit hdigit rfl, ne_of_isDigit hdigit rfl⟩, ne_of_isDigit hdigit rfl⟩,
      ne_of_isDigit hdigit rfl⟩
  · exact ⟨'-', c :: tail, hcs, rfl, by decide⟩

theorem IsNumeric.value (h : IsNumeric cs) (fuel : Nat) (rest : List Char) :
    Reader.value (fuel + 1) (cs ++ rest) = Reader.number (cs ++ rest) := by
  -- The first characters rule out all other values; behind a sign they rule out the infinity.
  rcases h with ⟨c, tail, rfl, hdigit⟩ | ⟨c, tail, rfl, hdigit⟩
  · rw [List.cons_append, Reader.value]
    all_goals
      intro rest heq
      exact ne_of_isDigit hdigit rfl (List.cons.inj heq).1
  · rw [List.cons_append, List.cons_append, Reader.value]
    all_goals
      intro rest heq
      first
        | exact absurd (List.cons.inj heq).1 (by decide)
        | exact ne_of_isDigit hdigit rfl (List.cons.inj (List.cons.inj heq).2).1

theorem write_eq_cons (l : Layout) (level : Nat) (hv : v.Faithful) :
    ∃ c cs, write l level v = c :: cs ∧ Reader.isBlank c = false ∧ c ≠ ']' := by
  cases v with
  | float x =>
    cases x with
    | nan => exact ⟨_, _, rfl, rfl, by decide⟩
    | infinite negative => cases negative <;> exact ⟨_, _, rfl, rfl, by decide⟩
    | finite negative m e => exact (isNumeric_double negative hv).eq_cons
  | int i => exact (isNumeric_toString i).eq_cons
  | bool b => cases b <;> exact ⟨_, _, rfl, rfl, by decide⟩
  | arr items => cases items <;> exact ⟨_, _, rfl, rfl, by decide⟩
  | obj members =>
    rcases members with _ | ⟨⟨k, w⟩, members⟩ <;> exact ⟨_, _, rfl, rfl, by decide⟩
  | _ => exact ⟨_, _, rfl, rfl, by decide⟩

theorem skip_write (l : Layout) (level : Nat) (hv : v.Faithful) (rest : List Char) :
    Reader.skip (write l level v ++ rest) = write l level v ++ rest := by
  obtain ⟨c, cs, hcs, hc, -⟩ := write_eq_cons l level hv
  rw [hcs]
  exact skip_cons hc _

theorem skip_quoted (asciiOnly : Bool) (s : String) (rest : List Char) :
    Reader.skip (quoted asciiOnly s ++ rest) = quoted asciiOnly s ++ rest := skip_cons rfl _

/-! ## Values -/

theorem value_quoted (fuel : Nat) (asciiOnly : Bool) (s : String) (rest : List Char) :
    Reader.value (fuel + 1) (quoted asciiOnly s ++ rest) = .ok (.str s, rest) := by
  have htext : quoted asciiOnly s ++ rest =
      '"' :: (s.toList.flatMap (quotedChar asciiOnly) ++ '"' :: rest) := by
    simp [quoted]
  rw [htext, Reader.value]
  simp only [string_quoted, bind, Except.bind]

theorem value_arr (fuel : Nat) (l : Layout) (level : Nat) (hv : v.Faithful) (rest : List Char) :
    Reader.value (fuel + 1) ('[' :: (l.lineBreak level ++ (write l level v ++ rest))) =
      (Reader.items fuel (write l level v ++ rest)).map fun p => (.arr p.1, p.2) := by
  obtain ⟨c, cs, hcs, hc, hclose⟩ := write_eq_cons l level hv
  have hskip : Reader.skip (l.lineBreak level ++ (write l level v ++ rest)) =
      write l level v ++ rest := by
    rw [hcs]
    exact skip_lineBreak l level hc _
  rw [Reader.value, hskip, hcs, List.cons_append]
  split
  · rename_i heq
    exact absurd (List.cons.inj heq).1 hclose
  · cases Reader.items fuel (c :: (cs ++ rest)) <;> rfl

theorem value_obj (fuel : Nat) (l : Layout) (level : Nat) (asciiOnly : Bool) (k : String)
    (rest : List Char) :
    Reader.value (fuel + 1) ('\x7b' :: (l.lineBreak level ++ (quoted asciiOnly k ++ rest))) =
      (Reader.members fuel (quoted asciiOnly k ++ rest)).map
        fun p => (.obj (Entries.ofList p.1), p.2) := by
  have hskip : Reader.skip (l.lineBreak level ++ (quoted asciiOnly k ++ rest)) =
      quoted asciiOnly k ++ rest := skip_lineBreak l level rfl _
  rw [Reader.value, hskip]
  split
  · rename_i heq
    cases heq
  · cases Reader.members fuel (quoted asciiOnly k ++ rest) <;> rfl

/-! ## Items and members -/

/-- A value is read back from its text, and what follows it is left. -/
def ReadsBack (l : Layout) (v : Json) : Prop :=
  ∀ level fuel rest, 2 * (write l level v).length ≤ fuel → Ends rest →
    Reader.value fuel (write l level v ++ rest) = .ok (v, rest)

/-- An item is read, and a bracket or a comma behind it decides how reading goes on. -/
theorem items_cons (hv : ReadsBack l v) {fuel : Nat} (hfuel : 2 * (write l level v).length ≤ fuel)
    (hends : Ends cs) {c : Char} {tail : List Char} (hcs : Reader.skip cs = c :: tail) :
    Reader.items (fuel + 1) (write l level v ++ cs) =
      if c = ']' then .ok ([v], tail)
      else if c = ',' then (Reader.items fuel (Reader.skip tail)).map fun p => (v :: p.1, p.2)
      else .error .malformed := by
  rw [Reader.items, hv level fuel cs hfuel hends]
  simp only [bind, Except.bind, hcs]
  split
  · rename_i heq
    cases heq
    rfl
  · rename_i heq
    cases heq
    cases Reader.items fuel (Reader.skip tail) <;> rfl
  · rename_i hclose hcomma
    rw [if_neg fun hc => hclose tail (by rw [hc]), if_neg fun hc => hcomma tail (by rw [hc])]

/-- A member is read, and a brace or a comma behind it decides how reading goes on. -/
theorem members_cons (hl : l.IsPlain) (hp : v.Faithful) (hv : ReadsBack l v) {fuel : Nat}
    (hfuel : 2 * (write l level v).length ≤ fuel) (hends : Ends cs) {c : Char} {tail : List Char}
    (hcs : Reader.skip cs = c :: tail) (asciiOnly : Bool) (k : String) :
    Reader.members (fuel + 1) (quoted asciiOnly k ++ (l.afterName ++ (write l level v ++ cs))) =
      if c = '\x7d' then .ok ([(k, v)], tail)
      else if c = ',' then
        (Reader.members fuel (Reader.skip tail)).map fun p => ((k, v) :: p.1, p.2)
      else .error .malformed := by
  obtain ⟨bs, hbs, hblank⟩ := hl.afterName
  have hskip : Reader.skip (bs ++ (write l level v ++ cs)) = write l level v ++ cs := by
    rw [skip_append hblank, skip_write l level hp]
  have htext : quoted asciiOnly k ++ (l.afterName ++ (write l level v ++ cs)) =
      '"' :: (k.toList.flatMap (quotedChar asciiOnly) ++
        '"' :: ':' :: (bs ++ (write l level v ++ cs))) := by
    simp [quoted, hbs]
  rw [htext, Reader.members]
  simp only [string_quoted, bind, Except.bind, skip_cons (c := ':') rfl, hskip,
    hv level fuel cs hfuel hends, hcs]
  split
  · rename_i heq
    cases heq
    rfl
  · rename_i heq
    cases heq
    cases Reader.members fuel (Reader.skip tail) <;> rfl
  · rename_i hclose hcomma
    rw [if_neg fun hc => hclose tail (by rw [hc]), if_neg fun hc => hcomma tail (by rw [hc])]

theorem skip_separator (hl : l.IsPlain) (level : Nat) (hcs : Reader.skip cs = cs) :
    ∃ tail, Reader.skip (l.afterItem ++ (l.lineBreak level ++ cs)) = ',' :: tail ∧
      Reader.skip tail = cs ∧ Ends (l.afterItem ++ (l.lineBreak level ++ cs)) := by
  obtain ⟨bs, hbs, hblank⟩ := hl.afterItem
  refine ⟨bs ++ (l.lineBreak level ++ cs), ?_, ?_, ?_⟩
  · rw [hbs, List.cons_append, skip_cons rfl]
  · rw [skip_append hblank, skip_append fun c => Layout.isBlank_of_mem_lineBreak, hcs]
  · rw [hbs, List.cons_append]
    exact .cons (.inr (.inl rfl))

/-! ## All values -/

/-- A value that takes one step to read needs no more than one character. -/
theorem readsBack_of_value (hp : v.Faithful)
    (h : ∀ fuel level rest, Ends rest →
      Reader.value (fuel + 1) (write l level v ++ rest) = .ok (v, rest)) : ReadsBack l v := by
  intro level fuel rest hfuel hends
  obtain ⟨c, cs, hcs, -⟩ := write_eq_cons l level hp
  rw [hcs, List.length_cons] at hfuel
  obtain ⟨n, rfl⟩ : ∃ n, fuel = n + 1 := ⟨fuel - 1, by omega⟩
  exact h n level rest hends

mutual

theorem readsBack (hl : l.IsPlain) :
    (v : Json) → v.WellFormed → v.Faithful → ReadsBack l v
  | .null, _, hp => readsBack_of_value hp fun _ _ _ _ => rfl
  | .bool true, _, hp => readsBack_of_value hp fun _ _ _ _ => rfl
  | .bool false, _, hp => readsBack_of_value hp fun _ _ _ _ => rfl
  | .int i, _, hp => readsBack_of_value hp fun fuel level rest hends => by
    rw [write, (isNumeric_toString i).value]
    exact number_toString hp hends
  | .float .nan, _, hp => readsBack_of_value hp fun _ _ _ _ => rfl
  | .float (.infinite true), _, hp => readsBack_of_value hp fun _ _ _ _ => rfl
  | .float (.infinite false), _, hp => readsBack_of_value hp fun _ _ _ _ => rfl
  | .float (.finite negative m e), _, hp => readsBack_of_value hp fun fuel level rest hends => by
    rw [write, (isNumeric_double negative hp).value]
    exact number_double hp hends
  | .str s, _, hp => readsBack_of_value hp fun fuel _ rest _ => value_quoted fuel l.asciiOnly s rest
  | .arr [], _, hp => readsBack_of_value hp fun _ _ _ _ => rfl
  | .arr (v :: vs), hw, hp => by
    intro level fuel rest hfuel hends
    have hitems := items_readBack hl vs hw.2 hp.2 v (readsBack hl v hw.1 hp.1)
    simp only [write, List.length_cons, List.length_append, List.length_nil] at hfuel
    obtain ⟨n, rfl⟩ : ∃ n, fuel = n + 1 := ⟨fuel - 1, by omega⟩
    simp only [write, List.cons_append, List.append_assoc, List.nil_append]
    rw [value_arr n l (level + 1) hp.1, hitems (level + 1) level n rest (by omega)]
    rfl
  | .obj [], _, hp => readsBack_of_value hp fun _ _ _ _ => rfl
  | .obj ((k, v) :: ms), hw, hp => by
    intro level fuel rest hfuel hends
    have hmembers := members_readBack hl ms hw.2.2 hp.2 k v hp.1 (readsBack hl v hw.2.1 hp.1)
    simp only [write, List.length_cons, List.length_append, List.length_nil] at hfuel
    obtain ⟨n, rfl⟩ : ∃ n, fuel = n + 1 := ⟨fuel - 1, by omega⟩
    simp only [write, List.cons_append, List.append_assoc, List.nil_append]
    rw [value_obj n l (level + 1), hmembers (level + 1) level n rest (by omega)]
    simp only [Except.map, Entries.ofList_eq_self hw.1]

theorem items_readBack (hl : l.IsPlain) :
    (vs : List Json) → WellFormedItems vs → FaithfulItems vs → ∀ v, ReadsBack l v →
      ∀ level outer fuel rest,
        2 * ((write l level v).length + (writeItems l level vs).length) + 1 ≤ fuel →
        Reader.items fuel (write l level v ++ (writeItems l level vs ++
          (l.lineBreak outer ++ ']' :: rest))) = .ok (v :: vs, rest)
  | [], _, _ => by
    intro v hv level outer fuel rest hfuel
    obtain ⟨n, rfl⟩ : ∃ n, fuel = n + 1 := ⟨fuel - 1, by omega⟩
    have hskip := skip_lineBreak l outer (c := ']') rfl rest
    rw [writeItems, List.nil_append,
      items_cons hv (by omega) (ends_lineBreak l outer (.inl rfl) rest) hskip, if_pos rfl]
  | w :: ws, hw, hp => by
    intro v hv level outer fuel rest hfuel
    obtain ⟨bs, hbs, -⟩ := hl.afterItem
    simp only [writeItems, hbs, List.length_cons, List.length_append] at hfuel
    obtain ⟨n, rfl⟩ : ∃ n, fuel = n + 1 := ⟨fuel - 1, by omega⟩
    obtain ⟨tail, hskip, htail, hends⟩ := skip_separator hl level
      (skip_write l level hp.1 (writeItems l level ws ++ (l.lineBreak outer ++ ']' :: rest)))
    have hrest := items_readBack hl ws hw.2 hp.2 w (readsBack hl w hw.1 hp.1) level outer n rest
      (by omega)
    simp only [writeItems, List.append_assoc]
    rw [items_cons hv (by omega) hends hskip, if_neg (by decide), if_pos rfl, htail, hrest]
    rfl

theorem members_readBack (hl : l.IsPlain) :
    (ms : List (String × Json)) → WellFormedMembers ms → FaithfulMembers ms → ∀ k v, v.Faithful →
      ReadsBack l v → ∀ level outer fuel rest,
        2 * ((write l level v).length + (writeMembers l level ms).length) + 1 ≤ fuel →
        Reader.members fuel (quoted l.asciiOnly k ++ (l.afterName ++ (write l level v ++
          (writeMembers l level ms ++ (l.lineBreak outer ++ '\x7d' :: rest))))) =
            .ok ((k, v) :: ms, rest)
  | [], _, _ => by
    intro k v hpv hv level outer fuel rest hfuel
    obtain ⟨n, rfl⟩ : ∃ n, fuel = n + 1 := ⟨fuel - 1, by omega⟩
    have hskip := skip_lineBreak l outer (c := '\x7d') rfl rest
    rw [writeMembers, List.nil_append,
      members_cons hl hpv hv (by omega) (ends_lineBreak l outer (.inr rfl) rest) hskip, if_pos rfl]
  | (j, w) :: ms, hw, hp => by
    intro k v hpv hv level outer fuel rest hfuel
    obtain ⟨bs, hbs, -⟩ := hl.afterItem
    simp only [writeMembers, hbs, List.length_cons, List.length_append] at hfuel
    obtain ⟨n, rfl⟩ : ∃ n, fuel = n + 1 := ⟨fuel - 1, by omega⟩
    obtain ⟨tail, hskip, htail, hends⟩ := skip_separator hl level
      (skip_quoted l.asciiOnly j (l.afterName ++ (write l level w ++
        (writeMembers l level ms ++ (l.lineBreak outer ++ '\x7d' :: rest)))))
    have hrest := members_readBack hl ms hw.2 hp.2 j w hp.1 (readsBack hl w hw.1 hp.1) level outer n
      rest (by omega)
    simp only [writeMembers, List.append_assoc]
    rw [members_cons hl hpv hv (by omega) hends hskip, if_neg (by decide), if_pos rfl, htail, hrest]
    rfl

end

/-- **A written value is read back.** -/
theorem read_render_of_faithful (hl : l.IsPlain) (hw : v.WellFormed) (hp : v.Faithful) :
    Json.read (render l v) = .ok v := by
  have hvalue := readsBack hl v hw hp 0 (2 * (write l 0 v).length + 2) [] (by omega) Ends.nil
  have hskip := skip_write l 0 hp []
  rw [List.append_nil] at hvalue hskip
  simp only [Json.read, render, String.toList_ofList, Reader.document, hskip, hvalue, bind,
    Except.bind]
  rfl

theorem read_render (hl : l.IsPlain) (hw : v.WellFormed) (hp : v.Portable) :
    Json.read (render l v) = .ok v :=
  read_render_of_faithful hl hw (Portable.faithful v hp)

/-! ## Values that are not read back -/

/-- A member whose value is an integer of too many digits is not read. -/
theorem members_of_le {i : Int} {rest : List Char} (hi : Text.numeralBound ≤ i.natAbs)
    (h : Ends rest) (fuel : Nat) (k : String) :
    Reader.members (fuel + 2)
        (quoted true k ++ (spaced.afterName ++ ((toString i).toList ++ rest))) =
      .error (.tooManyDigits (Nat.toDigits 10 i.natAbs).length) := by
  have hskip : Reader.skip (' ' :: ((toString i).toList ++ rest)) =
      (toString i).toList ++ rest := by
    obtain ⟨c, tail, hcs, hc, -⟩ := (isNumeric_toString i).eq_cons
    rw [hcs]
    exact skip_cons hc _
  have htext : quoted true k ++ (spaced.afterName ++ ((toString i).toList ++ rest)) =
      '"' :: (k.toList.flatMap (quotedChar true) ++
        '"' :: ':' :: ' ' :: ((toString i).toList ++ rest)) := by
    simp [quoted, spaced]
  rw [htext, Reader.members]
  simp only [string_quoted, bind, Except.bind, skip_cons (c := ':') rfl, hskip,
    (isNumeric_toString i).value, number_toString_of_le hi h]

/-- Nothing is read of an object with such a member. -/
theorem read_of_le {i : Int} (hi : Text.numeralBound ≤ i.natAbs) (name text number : String) :
    Json.read (Json.text (.obj [(name, .str text), (number, .int i)])) =
      .error (.tooManyDigits (Nat.toDigits 10 i.natAbs).length) := by
  have hl := Layout.spaced_isPlain
  let cs := quoted true number ++ (spaced.afterName ++ ((toString i).toList ++ ['\x7d']))
  have hwrite : write spaced 0 (.obj [(name, .str text), (number, .int i)]) =
      '\x7b' :: (spaced.lineBreak 1 ++ (quoted true name ++ (spaced.afterName ++
        (write spaced 1 (.str text) ++ (spaced.afterItem ++ (spaced.lineBreak 1 ++ cs)))))) := by
    simp [write, writeMembers, Layout.lineBreak, spaced, cs]
  obtain ⟨tail, hcomma, htail, hends⟩ := skip_separator hl 1 (skip_quoted true number
    (spaced.afterName ++ ((toString i).toList ++ ['\x7d'])))
  have hfaithful : (Json.str text).Faithful := trivial
  have htext := readsBack hl (.str text) trivial hfaithful
  obtain ⟨fuel, hfuel, hle⟩ : ∃ fuel,
      2 * (write spaced 0 (.obj [(name, .str text), (number, .int i)])).length + 2 = fuel + 4 ∧
        2 * (write spaced 1 (.str text)).length ≤ fuel + 2 := by
    refine ⟨_, (Nat.sub_add_cancel ?_).symm, ?_⟩ <;>
      simp only [hwrite, List.length_cons, List.length_append] <;> omega
  have hskip : Reader.skip (write spaced 0 (.obj [(name, .str text), (number, .int i)])) =
      write spaced 0 (.obj [(name, .str text), (number, .int i)]) := by
    rw [hwrite]
    exact skip_cons rfl _
  simp only [Json.read, Json.text, render, String.toList_ofList, Reader.document, hskip, hfuel]
  rw [hwrite, value_obj, members_cons hl hfaithful htext hle hends hcomma, if_neg (by decide),
    if_pos rfl, htail, members_of_le hi (.cons (.inr (.inr (.inr rfl))))]
  rfl

end RemoteModel.Json
