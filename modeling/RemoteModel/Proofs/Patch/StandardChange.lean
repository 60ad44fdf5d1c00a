import RemoteModel.Proofs.Patch.Spelling

/-!
# Changes by the standard

A change that the standard makes is made here too, with the same result, and a change that is made
here is one of the standard, if positions are spelled as the standard spells them and a member
that is replaced is there (`LacksMember`).

The lemmas come in pairs, from the standard to what is done here (`add_of_standard`) and back
(`standard_of_add`). They follow the functions: an entry of one container, then the container that
steps lead to.
-/

namespace RemoteModel.Patch

open Json (Step Location)

variable {document v u w r : Json} {tokens front : List String} {path key : String} {s : Step}

/-! ## Changes -/

theorem change?_concat_eq_some {root : Json} {entry : String → Json → Option Json} :
    Standard.change? root entry (front ++ [key]) document = some r ↔
      ∃ l u w, Standard.place? front document = some l ∧ document.at? l = some u ∧
        entry key u = some w ∧ Json.put w l document = r := by
  simp [Standard.change?, Option.bind_eq_some_iff]

/-- A change of the standard is made here, if the change of the container is. -/
theorem edit_of_change? {root : Json} {altered? : String → Json → Option Json}
    {entry : String → Json → Except Fault Json} (path : String) (hd : document.Indexable)
    (hr : r.Indexable)
    (hentry : ∀ key u w, u.Indexable → w.Indexable → altered? key u = some w →
      entry key u = .ok w ∧ WellSpelled u key)
    (h : Standard.change? root altered? tokens document = some r) :
    edit path root entry tokens document = .ok r ∧ Spelled tokens document := by
  rcases List.eq_nil_or_concat tokens with rfl | ⟨front, key, rfl⟩
  · cases h
    exact ⟨rfl, trivial⟩
  · rw [List.concat_eq_append] at h ⊢
    obtain ⟨l, u, w, hl, hu, hw, rfl⟩ := change?_concat_eq_some.1 h
    obtain ⟨hplace, hspelled⟩ := place?_of_standard hd hl
    obtain ⟨hok, hkey⟩ := hentry key u w (hd.at? hu) (hr.at? (Json.at?_put_self w hu)) hw
    refine ⟨edit_concat_eq_ok.2 ⟨l, u, w, hplace, hu, hok, rfl⟩, spelled_concat.2 ⟨hspelled, ?_⟩⟩
    intro x hx
    rw [reached?, hplace, Option.bind_some, hu] at hx
    cases hx
    exact hkey

/-- A change that is made here is one of the standard, if the change of the container is. -/
theorem change?_of_edit {root : Json} {altered? : String → Json → Option Json}
    {entry : String → Json → Except Fault Json}
    (hentry : ∀ key u w, entry key u = .ok w → WellSpelled u key → altered? key u = some w)
    (h : edit path root entry tokens document = .ok r) (hspelled : Spelled tokens document) :
    Standard.change? root altered? tokens document = some r := by
  rcases List.eq_nil_or_concat tokens with rfl | ⟨front, key, rfl⟩
  · cases h
    rfl
  · rw [List.concat_eq_append] at h hspelled ⊢
    obtain ⟨hfront, hkey⟩ := spelled_concat.1 hspelled
    obtain ⟨l, u, w, hl, hu, hw, rfl⟩ := edit_concat_eq_ok.1 h
    refine change?_concat_eq_some.2 ⟨l, u, w, standard_of_place? hl hfront, hu, ?_, rfl⟩
    exact hentry key u w hw (hkey u (by rw [reached?, hl]; exact hu))

/-! ## Adding, removing and replacing -/

theorem addEntry_of_standard (path : String) (hw : w.Indexable)
    (h : Standard.entryAdded? v key u = some w) :
    addEntry path false key v u = .ok w ∧ WellSpelled u key := by
  cases u with
  | obj members =>
    cases h
    exact ⟨rfl, fun harray => by cases harray⟩
  | arr items =>
    by_cases hkey : key = "-"
    · simp only [Standard.entryAdded?, if_pos hkey, Option.some.injEq] at h
      simp only [addEntry, if_pos hkey, h, true_and]
      exact fun _ => .inl hkey
    · simp only [Standard.entryAdded?, if_neg hkey] at h
      obtain ⟨n, hn, h⟩ := Option.bind_eq_some_iff.1 h
      split at h
      · rename_i hle
        cases h
        -- The longer list is not too long for its positions to be read.
        have hlength : (items.insertIdx n v).length ≤ Text.numeralBound := hw.1
        rw [List.length_insertIdx_of_le_length hle] at hlength
        have hindex := index_of_position? hn (Nat.lt_succ_of_le hle) hlength
        simp only [addEntry, if_neg hkey, hindex, Except.map, true_and]
        exact fun _ => .inr (Option.isSome_iff_exists.2 ⟨n, hn⟩)
      · cases h
  | _ => cases h

theorem standard_of_addEntry (h : addEntry path false key v u = .ok w)
    (hspelled : WellSpelled u key) : Standard.entryAdded? v key u = some w := by
  cases u with
  | obj members =>
    cases h
    rfl
  | arr items =>
    by_cases hkey : key = "-"
    · simp only [addEntry, if_pos hkey, Except.ok.injEq] at h
      simp only [Standard.entryAdded?, if_pos hkey, h]
    · simp only [addEntry, if_neg hkey] at h
      cases hn : index (items.length + 1) key with
      | error fault => simp [hn, Except.map] at h
      | ok n =>
        simp only [hn, Except.map, Except.ok.injEq] at h
        have hle : n ≤ items.length := Nat.le_of_lt_succ (index_lt hn)
        simp [Standard.entryAdded?, hkey, position?_of_index (hspelled rfl) hn, hle, h]
  | _ => simp [addEntry] at h

theorem add_of_standard (path : String) (hd : document.Indexable) (hr : r.Indexable)
    (h : Standard.add? tokens v document = some r) :
    add path false tokens v document = .ok r ∧ Spelled tokens document :=
  edit_of_change? path hd hr (fun _ _ _ _ hw h => addEntry_of_standard path hw h) h

theorem standard_of_add (h : add path false tokens v document = .ok r)
    (hspelled : Spelled tokens document) : Standard.add? tokens v document = some r :=
  change?_of_edit (fun _ _ _ => standard_of_addEntry) h hspelled

theorem removeEntry_of_standard (path : String) (hu : u.Indexable)
    (h : Standard.entryRemoved? key u = some w) :
    removeEntry path key u = .ok w ∧ WellSpelled u key := by
  obtain ⟨s, hs, h⟩ := Option.bind_eq_some_iff.1 h
  obtain ⟨x, hx, h⟩ := Option.bind_eq_some_iff.1 h
  cases h
  obtain ⟨hstep, hspelled⟩ := stepIn?_of_standard hu hs hx
  refine ⟨?_, hspelled⟩
  cases u with
  | obj members =>
    cases hstep
    have hcontains : Entries.contains members key = true := by
      rw [Entries.contains, show Entries.get? members key = some x from hx]
      rfl
    simp only [removeEntry, if_pos hcontains, Json.eraseChild]
  | arr items =>
    obtain ⟨n, hn, rfl⟩ := Option.map_eq_some_iff.1 hstep
    rw [toOption_eq_some] at hn
    simp only [removeEntry, hn, Except.map, Json.eraseChild]
  | _ => cases hstep

theorem standard_of_removeEntry (h : removeEntry path key u = .ok w)
    (hspelled : WellSpelled u key) : Standard.entryRemoved? key u = some w := by
  cases u with
  | obj members =>
    simp only [removeEntry] at h
    split at h
    · rename_i hcontains
      cases h
      obtain ⟨x, hx⟩ := Option.isSome_iff_exists.1 hcontains
      simp [Standard.entryRemoved?, Standard.step?, Json.child?, hx, Json.eraseChild]
    · cases h
  | arr items =>
    simp only [removeEntry] at h
    cases hn : index items.length key with
    | error fault => simp [hn, Except.map] at h
    | ok n =>
      simp only [hn, Except.map, Except.ok.injEq] at h
      obtain ⟨x, hx⟩ : ∃ x, items[n]? = some x := ⟨_, List.getElem?_eq_getElem (index_lt hn)⟩
      simp [Standard.entryRemoved?, Standard.step?, position?_of_index (hspelled rfl) hn, Json.child?,
        hx, Json.eraseChild, h]
  | _ => simp [removeEntry] at h

theorem indexable_remove? (hd : document.Indexable)
    (h : Standard.remove? tokens document = some r) : r.Indexable := by
  rcases List.eq_nil_or_concat tokens with rfl | ⟨front, key, rfl⟩
  · cases h
    trivial
  · rw [List.concat_eq_append] at h
    obtain ⟨l, u, w, -, hu, hw, rfl⟩ := change?_concat_eq_some.1 h
    obtain ⟨s, -, hw⟩ := Option.bind_eq_some_iff.1 hw
    obtain ⟨x, -, hw⟩ := Option.bind_eq_some_iff.1 hw
    cases hw
    exact hd.put (hd.at? hu).eraseChild

theorem remove_of_standard (path : String) (hd : document.Indexable)
    (h : Standard.remove? tokens document = some r) :
    remove path tokens document = .ok r ∧ Spelled tokens document :=
  edit_of_change? path hd (indexable_remove? hd h)
    (fun _ _ _ hu _ h => removeEntry_of_standard path hu h) h

theorem standard_of_remove (h : remove path tokens document = .ok r)
    (hspelled : Spelled tokens document) : Standard.remove? tokens document = some r :=
  change?_of_edit (fun _ _ _ => standard_of_removeEntry) h hspelled

/-- The last token names a member that its object does not have. -/
def LacksMember (tokens : List String) (document : Json) : Prop :=
  ∃ front key members, tokens = front ++ [key] ∧ reached? front document = some (.obj members) ∧
    Entries.get? members key = none

theorem replace_of_standard (path : String) (hd : document.Indexable)
    (h : Standard.replace? tokens v document = some r) :
    replace path tokens v document = .ok r ∧ Spelled tokens document ∧
      ¬ LacksMember tokens document := by
  obtain ⟨l, hl, rfl⟩ := Option.map_eq_some_iff.1 h
  obtain ⟨hplace, hspelled⟩ := place?_of_standard hd hl
  refine ⟨replace_of_place? path v hplace, hspelled, ?_⟩
  rintro ⟨front, key, members, rfl, hmembers, hnone⟩
  obtain ⟨k, u, s, x, hk, hu, hs, hx, -⟩ := place?_concat.1 hplace
  rw [reached?, hk, Option.bind_some, hu] at hmembers
  cases hmembers
  cases hs
  exact absurd (hnone.symm.trans hx) (by simp)

theorem standard_of_replace (h : replace path tokens v document = .ok r)
    (hspelled : Spelled tokens document) (hthere : ¬ LacksMember tokens document) :
    Standard.replace? tokens v document = some r := by
  rcases List.eq_nil_or_concat tokens with rfl | ⟨front, key, rfl⟩
  · cases h
    rfl
  · rw [List.concat_eq_append] at h hspelled hthere ⊢
    obtain ⟨k, u, w, hk, hu, hw, rfl⟩ := edit_concat_eq_ok.1 h
    -- The entry that is replaced is there.
    obtain ⟨s, x, hs, hx⟩ : ∃ s x, stepIn? u key = some s ∧ u.child? s = some x := by
      cases u with
      | obj members =>
        cases hget : Entries.get? members key with
        | none =>
          exact absurd ⟨front, key, members, rfl, by rw [reached?, hk]; exact hu, hget⟩ hthere
        | some x => exact ⟨.member key, x, rfl, hget⟩
      | arr items =>
        simp only [replaceEntry] at hw
        cases hn : index items.length key with
        | error fault => simp [hn, Except.map] at hw
        | ok n =>
          refine ⟨.item n, _, ?_, List.getElem?_eq_getElem (index_lt hn)⟩
          simp [stepIn?, hn, Except.toOption]
      | _ => simp [replaceEntry] at hw
    rw [replaceEntry_of_stepIn? path v hs] at hw
    cases hw
    have hplace : place? (front ++ [key]) document = some (k ++ [s]) :=
      place?_concat.2 ⟨k, u, s, x, hk, hu, hs, hx, rfl⟩
    rw [Standard.replace?, standard_of_place? hplace hspelled, Option.map_some,
      Json.put_append v [s] hu, Json.put_cons v [] hx]
    rfl

/-! ## Reading -/

theorem get_of_standard (path : String) (hd : document.Indexable)
    (h : Standard.value? tokens document = some u) :
    get path tokens document = .ok u ∧ Spelled tokens document := by
  obtain ⟨hreached, hspelled⟩ := reached?_of_standard hd h
  rw [← toOption_get path, toOption_eq_some] at hreached
  exact ⟨hreached, hspelled⟩

theorem standard_of_get (h : get path tokens document = .ok u)
    (hspelled : Spelled tokens document) : Standard.value? tokens document = some u := by
  rw [← toOption_eq_some, toOption_get] at h
  exact standard_of_reached? h hspelled

end RemoteModel.Patch
