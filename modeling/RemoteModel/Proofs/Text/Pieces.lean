import RemoteModel.Text.Blank

/-!
# Cutting and joining texts

A text that is put together from parts without the separator is cut into these parts again.
-/

namespace RemoteModel.Text

variable {sep : Char}

theorem cut?_append {a : List Char} (b : List Char) (h : sep ∉ a) :
    cut? sep (a ++ sep :: b) = some (a, b) := by
  induction a with
  | nil => simp [cut?]
  | cons c a ih =>
    have hc := List.ne_of_not_mem_cons h
    have ha := List.not_mem_of_not_mem_cons h
    rw [List.cons_append, cut?, if_neg (Ne.symm hc), ih ha]
    rfl

theorem cut?_eq_none {a : List Char} (h : sep ∉ a) : cut? sep a = none := by
  induction a with
  | nil => rfl
  | cons c a ih =>
    have hc := List.ne_of_not_mem_cons h
    have ha := List.not_mem_of_not_mem_cons h
    rw [cut?, if_neg (Ne.symm hc), ih ha]
    rfl

/-- A text that is cut consists of the two parts and the separator. -/
theorem eq_append_of_cut? {cs a b : List Char} (h : cut? sep cs = some (a, b)) :
    cs = a ++ sep :: b := by
  induction cs generalizing a with
  | nil => simp [cut?] at h
  | cons c cs ih =>
    by_cases hc : c = sep
    · simp only [cut?, hc, if_true, Option.some.injEq, Prod.mk.injEq] at h
      rw [hc, ← h.1, ← h.2, List.nil_append]
    · rw [cut?, if_neg hc, Option.map_eq_some_iff] at h
      obtain ⟨⟨a', b'⟩, hcut, heq⟩ := h
      cases heq
      rw [ih hcut, List.cons_append]

theorem not_mem_of_cut? {cs a b : List Char} (h : cut? sep cs = some (a, b)) : sep ∉ a := by
  induction cs generalizing a with
  | nil => simp [cut?] at h
  | cons c cs ih =>
    by_cases hc : c = sep
    · simp only [cut?, hc, if_true, Option.some.injEq, Prod.mk.injEq] at h
      rw [← h.1]
      exact List.not_mem_nil
    · rw [cut?, if_neg hc, Option.map_eq_some_iff] at h
      obtain ⟨⟨a', b'⟩, hcut, heq⟩ := h
      cases heq
      exact List.not_mem_cons_of_ne_of_not_mem (Ne.symm hc) (ih hcut)

theorem not_mem_of_cut?_eq_none {cs : List Char} (h : cut? sep cs = none) : sep ∉ cs := by
  induction cs with
  | nil => exact List.not_mem_nil
  | cons c cs ih =>
    by_cases hc : c = sep
    · simp [cut?, hc] at h
    · rw [cut?, if_neg hc, Option.map_eq_none_iff] at h
      exact List.not_mem_cons_of_ne_of_not_mem (Ne.symm hc) (ih h)

theorem after?_eq_some {start cs rest : List Char} :
    after? start cs = some rest ↔ cs = start ++ rest := by
  induction start generalizing cs with
  | nil => simp [after?]
  | cons c start ih =>
    cases cs with
    | nil => simp [after?]
    | cons d cs =>
      by_cases hc : c = d
      · simp [after?, hc, ih]
      · simp [after?, hc, Ne.symm hc]

theorem pieces_of_not_mem {a : List Char} (h : sep ∉ a) : pieces sep a = [a] := by
  induction a with
  | nil => rfl
  | cons c a ih =>
    have hc := List.ne_of_not_mem_cons h
    have ha := List.not_mem_of_not_mem_cons h
    rw [pieces, if_neg (Ne.symm hc), ih ha]

theorem pieces_append {a : List Char} (b : List Char) (h : sep ∉ a) :
    pieces sep (a ++ sep :: b) = a :: pieces sep b := by
  induction a with
  | nil => simp [pieces]
  | cons c a ih =>
    have hc := List.ne_of_not_mem_cons h
    have ha := List.not_mem_of_not_mem_cons h
    rw [List.cons_append, pieces, if_neg (Ne.symm hc), ih ha]

theorem mem_of_mem_pieces {cs p : List Char} {c : Char} (hp : p ∈ pieces sep cs) (hc : c ∈ p) :
    c ∈ cs := by
  induction cs generalizing p with
  | nil =>
    rw [List.mem_singleton.1 hp] at hc
    exact absurd hc List.not_mem_nil
  | cons d rest ih =>
    by_cases hd : d = sep
    · rw [pieces, if_pos hd] at hp
      rcases List.mem_cons.1 hp with rfl | hp
      · exact absurd hc List.not_mem_nil
      · exact List.mem_cons_of_mem _ (ih hp hc)
    · rw [pieces, if_neg hd] at hp
      cases hrest : pieces sep rest with
      | nil =>
        rw [hrest] at hp
        rw [List.mem_singleton.1 hp] at hc
        exact List.mem_cons.2 (.inl (List.mem_singleton.1 hc))
      | cons q qs =>
        rw [hrest] at hp ih
        rcases List.mem_cons.1 hp with rfl | hp
        · rcases List.mem_cons.1 hc with rfl | hc
          · exact List.mem_cons_self
          · exact List.mem_cons_of_mem _ (ih List.mem_cons_self hc)
        · exact List.mem_cons_of_mem _ (ih (List.mem_cons_of_mem _ hp) hc)

/-- Parts, each behind a separator, behind a first part are cut into all of these parts. -/
theorem pieces_flatMap {a : List Char} {bs : List (List Char)} (ha : sep ∉ a)
    (hbs : ∀ b ∈ bs, sep ∉ b) : pieces sep (a ++ bs.flatMap (sep :: ·)) = a :: bs := by
  induction bs generalizing a with
  | nil => rw [List.flatMap_nil, List.append_nil, pieces_of_not_mem ha]
  | cons b bs ih =>
    rw [List.flatMap_cons, List.cons_append, pieces_append _ ha,
      ih (hbs b List.mem_cons_self) fun x hx => hbs x (List.mem_cons_of_mem _ hx)]

theorem toList_join (s : String) (ss : List String) :
    (join (String.singleton sep) (s :: ss)).toList =
      s.toList ++ (ss.map String.toList).flatMap (sep :: ·) := by
  induction ss generalizing s with
  | nil => simp [join]
  | cons t ss ih => simp [join, ih]

/-- **Joined texts are cut apart again.** -/
theorem pieces_join {s : String} {ss : List String} (h : ∀ t ∈ s :: ss, sep ∉ t.toList) :
    pieces sep (join (String.singleton sep) (s :: ss)).toList = (s :: ss).map String.toList := by
  have hss : ∀ b ∈ ss.map String.toList, sep ∉ b := by
    intro b hb
    obtain ⟨t, ht, rfl⟩ := List.mem_map.1 hb
    exact h t (List.mem_cons_of_mem _ ht)
  rw [toList_join, pieces_flatMap (h s List.mem_cons_self) hss, List.map_cons]

end RemoteModel.Text
