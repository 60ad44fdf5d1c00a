import RemoteModel.Patch.Address
import RemoteModel.Proofs.Text.Pieces

/-!
# Paths and the places they name

Two kinds of paths are written and read back here: the pointer of some steps, and the model path
of an element with steps from there.

**Pointers.** `ofPath_pointerText`: a pointer names the steps it was written from. One with a
number sign in a step is taken for a model path (`ofPath_pointerText_sharp`).

**Model paths.** `ofPath_modelPath`: an identifier and steps without slashes are read back from a
model path, whatever the address of the model is.
-/

namespace RemoteModel.Patch.Address

/-! ## Pointers -/

theorem unescape_escape (cs : List Char) : unescape (escape cs) = cs := by
  induction cs with
  | nil => rfl
  | cons c cs ih =>
    by_cases htilde : c = '~'
    · subst htilde
      rw [escape, unescape, ih]
    · by_cases hslash : c = '/'
      · subst hslash
        rw [escape, unescape, ih]
      · rw [escape, unescape, ih] <;> simp_all

/-- An escaped step holds the signs of escapes and what the step holds besides slashes. -/
theorem mem_escape {cs : List Char} {c : Char} (h : c ∈ escape cs) :
    c = '~' ∨ c = '0' ∨ c = '1' ∨ (c ∈ cs ∧ c ≠ '/') := by
  induction cs with
  | nil => cases h
  | cons d cs ih =>
    have hrest : c ∈ escape cs → c = '~' ∨ c = '0' ∨ c = '1' ∨ (c ∈ d :: cs ∧ c ≠ '/') := by
      intro hc
      rcases ih hc with hc | hc | hc | ⟨hc, hne⟩
      · exact .inl hc
      · exact .inr (.inl hc)
      · exact .inr (.inr (.inl hc))
      · exact .inr (.inr (.inr ⟨List.mem_cons_of_mem _ hc, hne⟩))
    by_cases htilde : d = '~'
    · subst htilde
      simp only [escape, List.mem_cons] at h
      rcases h with h | h | h
      · exact .inl h
      · exact .inr (.inl h)
      · exact hrest h
    · by_cases hslash : d = '/'
      · subst hslash
        simp only [escape, List.mem_cons] at h
        rcases h with h | h | h
        · exact .inl h
        · exact .inr (.inr (.inl h))
        · exact hrest h
      · have hcons : escape (d :: cs) = d :: escape cs := by
          rw [escape]
          · exact htilde
          · exact hslash
        rw [hcons] at h
        rcases List.mem_cons.1 h with rfl | h
        · exact .inr (.inr (.inr ⟨List.mem_cons_self, hslash⟩))
        · exact hrest h

theorem slash_not_mem_escape (cs : List Char) : '/' ∉ escape cs := by
  intro h
  rcases mem_escape h with h | h | h | ⟨-, h⟩
  · exact absurd h (by decide)
  · exact absurd h (by decide)
  · exact absurd h (by decide)
  · exact h rfl

theorem sharp_mem_of_mem_escape {cs : List Char} (h : '#' ∈ escape cs) : '#' ∈ cs := by
  rcases mem_escape h with h | h | h | ⟨h, -⟩
  · exact absurd h (by decide)
  · exact absurd h (by decide)
  · exact absurd h (by decide)
  · exact h

theorem escape_append (cs ds : List Char) : escape (cs ++ ds) = escape cs ++ escape ds := by
  induction cs with
  | nil => rfl
  | cons c cs ih =>
    by_cases htilde : c = '~'
    · subst htilde
      simp only [List.cons_append, escape, ih]
    · by_cases hslash : c = '/'
      · subst hslash
        simp only [List.cons_append, escape, ih]
      · rw [List.cons_append, escape, escape, ih, List.cons_append] <;> simp_all

theorem toList_pointerText (steps : List String) :
    (pointerText steps).toList = steps.flatMap fun s => '/' :: escape s.toList := by
  rw [pointerText, String.toList_ofList]

/-- A pointer holds no number sign that its steps do not hold. -/
theorem sharp_not_mem_pointerText {steps : List String} (h : ∀ s ∈ steps, '#' ∉ s.toList) :
    '#' ∉ (pointerText steps).toList := by
  rw [toList_pointerText]
  intro hmem
  obtain ⟨s, hs, hmem⟩ := List.mem_flatMap.1 hmem
  rcases List.mem_cons.1 hmem with heq | hmem
  · exact absurd heq (by decide)
  · exact h s hs (sharp_mem_of_mem_escape hmem)

/-- **A pointer names its steps**, if no step holds the sign that marks a model path. -/
theorem ofPath_pointerText {steps : List String} (h : ∀ s ∈ steps, '#' ∉ s.toList) :
    ofPath (pointerText steps) = .ok (.pointer steps) := by
  unfold ofPath
  rw [Text.cut?_eq_none (sharp_not_mem_pointerText h), toList_pointerText]
  cases steps with
  | nil => rfl
  | cons s rest =>
    have hrest : ∀ b ∈ rest.map fun t => escape t.toList, '/' ∉ b := by
      intro b hb
      obtain ⟨t, -, rfl⟩ := List.mem_map.1 hb
      exact slash_not_mem_escape _
    have hpieces := Text.pieces_flatMap (slash_not_mem_escape s.toList) hrest
    rw [List.flatMap_map] at hpieces
    simp only [List.flatMap_cons, List.cons_append]
    rw [hpieces]
    simp [Function.comp_def, unescape_escape]

/-- A pointer with a number sign in a step is taken for a model path: what stands behind the
first number sign is read as a place in a model. -/
theorem ofPath_pointerText_sharp {before after : List String} {s : String} {a b : List Char}
    (hbefore : ∀ t ∈ before, '#' ∉ t.toList) (hs : s.toList = a ++ '#' :: b) (ha : '#' ∉ a) :
    ofPath (pointerText (before ++ s :: after)) =
      .ok (ofFragment (escape b ++ (pointerText after).toList)) := by
  have hescape : escape s.toList = escape a ++ '#' :: escape b := by
    rw [hs, escape_append, escape] <;> simp
  have hsplit : (pointerText (before ++ s :: after)).toList =
      ((pointerText before).toList ++ '/' :: escape a) ++
        '#' :: (escape b ++ (pointerText after).toList) := by
    simp [toList_pointerText, hescape]
  have hfront : '#' ∉ (pointerText before).toList ++ '/' :: escape a := by
    intro hmem
    rcases List.mem_append.1 hmem with hmem | hmem
    · exact sharp_not_mem_pointerText hbefore hmem
    · rcases List.mem_cons.1 hmem with heq | hmem
      · exact absurd heq (by decide)
      · exact ha (sharp_mem_of_mem_escape hmem)
  unfold ofPath
  rw [hsplit, Text.cut?_append _ hfront]

/-! ## Model paths -/

/-- The address of a model up to its first number sign. -/
def base (modeluri : String) : List Char :=
  ((Text.cut? '#' modeluri.toList).map (·.1)).getD modeluri.toList

/-- The path of an element of a model and of steps from there. -/
def modelPath (modeluri id : String) (steps : List String) : String :=
  String.ofList (base modeluri) ++ "#" ++ Text.join "/" (id :: steps)

theorem not_mem_base (modeluri : String) : '#' ∉ base modeluri := by
  unfold base
  cases hcut : Text.cut? '#' modeluri.toList with
  | none => exact Text.not_mem_of_cut?_eq_none hcut
  | some parts => exact Text.not_mem_of_cut? hcut

theorem ofFragment_join {id : String} {steps : List String} (hid : id ≠ "")
    (h : ∀ s ∈ id :: steps, '/' ∉ s.toList) :
    ofFragment (Text.join "/" (id :: steps)).toList = .fromElement id steps := by
  have hpieces := Text.pieces_join h
  have hne : id.toList ≠ [] := fun hnil => hid (String.toList_eq_nil_iff.1 hnil)
  obtain ⟨c, cs, hcs⟩ := List.exists_cons_of_ne_nil hne
  have hc : c ≠ '/' := fun hc => h id List.mem_cons_self (by rw [hcs, hc]; exact List.mem_cons_self)
  have hfirst : (Text.join "/" (id :: steps)).toList =
      c :: (cs ++ (steps.map String.toList).flatMap ('/' :: ·)) := by
    rw [show "/" = String.singleton '/' from rfl, Text.toList_join, hcs, List.cons_append]
  unfold ofFragment
  split
  · rename_i heq
    exact absurd (hfirst.symm.trans heq) (by simp [hc])
  · rename_i heq
    exact absurd (hfirst.symm.trans heq) (by simp [hc])
  · rw [show "/" = String.singleton '/' from rfl, hpieces, List.map_cons, hcs]
    simp [← hcs, Function.comp_def]

theorem ofPath_fragment (modeluri id : String) (steps : List String) :
    ofPath (modelPath modeluri id steps) =
      .ok (ofFragment (Text.join "/" (id :: steps)).toList) := by
  have hlist : (modelPath modeluri id steps).toList =
      base modeluri ++ '#' :: (Text.join "/" (id :: steps)).toList := by
    simp [modelPath]
  unfold ofPath
  rw [hlist, Text.cut?_append _ (not_mem_base modeluri)]

/-- **A model path names its element and its steps.** -/
theorem ofPath_modelPath (modeluri : String) {id : String} {steps : List String} (hid : id ≠ "")
    (h : ∀ s ∈ id :: steps, '/' ∉ s.toList) :
    ofPath (modelPath modeluri id steps) = .ok (.fromElement id steps) := by
  rw [ofPath_fragment, ofFragment_join hid h]

end RemoteModel.Patch.Address
