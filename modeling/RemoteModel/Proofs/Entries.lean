import Mathlib.Tactic.SplitIfs
import RemoteModel.Entries

/-!
# Entries as a list

Looking up finds entries of the list, and in a list of distinct names it finds every entry. There
erasing a name removes it and leaves all others.
-/

namespace RemoteModel.Entries

variable {α : Type}

theorem mem_of_get? {es : Entries α} {name : String} {v : α} (h : get? es name = some v) :
    (name, v) ∈ es := by
  induction es with
  | nil => simp [get?] at h
  | cons e rest ih =>
    obtain ⟨k, w⟩ := e
    by_cases hk : k = name
    · simp only [get?, hk, if_true, Option.some.injEq] at h
      rw [hk, h]
      exact List.mem_cons_self
    · simp only [get?, hk, if_false] at h
      exact List.mem_cons_of_mem _ (ih h)

theorem get?_cons_of_ne {k name : String} {w : α} {rest : Entries α} (h : k ≠ name) :
    get? ((k, w) :: rest) name = get? rest name := by
  simp [get?, h]

theorem get?_of_mem {es : Entries α} {name : String} {v : α} (hd : Distinct es)
    (h : (name, v) ∈ es) : get? es name = some v := by
  induction es with
  | nil => cases h
  | cons e rest ih =>
    obtain ⟨k, w⟩ := e
    have hd' : k ∉ names rest ∧ Distinct rest := List.nodup_cons.1 hd
    rcases List.mem_cons.1 h with heq | h
    · cases heq
      simp [get?]
    · have hk : k ≠ name := fun hk => hd'.1 (hk ▸ List.mem_map_of_mem h)
      rw [get?_cons_of_ne hk]
      exact ih hd'.2 h

theorem get?_eq_none {es : Entries α} {name : String} (h : name ∉ names es) :
    get? es name = none := by
  cases hget : get? es name with
  | none => rfl
  | some v => exact absurd (List.mem_map_of_mem (mem_of_get? hget)) h

theorem mem_names_iff {es : Entries α} {name : String} :
    name ∈ names es ↔ ∃ v, get? es name = some v := by
  refine ⟨fun h => ?_, fun ⟨v, hv⟩ => List.mem_map_of_mem (mem_of_get? hv)⟩
  induction es with
  | nil => cases h
  | cons e rest ih =>
    obtain ⟨k, w⟩ := e
    by_cases hk : k = name
    · exact ⟨w, by simp [get?, hk]⟩
    · rw [get?_cons_of_ne hk]
      exact ih ((List.mem_cons.1 h).resolve_left (Ne.symm hk))

/-- The order of distinct names does not matter for a look-up. -/
theorem get?_of_perm {es others : Entries α} (hd : Distinct es) (h : others.Perm es)
    (name : String) : get? others name = get? es name := by
  cases hget : get? others name with
  | some v => exact (get?_of_mem hd (h.mem_iff.1 (mem_of_get? hget))).symm
  | none =>
    cases hes : get? es name with
    | none => rfl
    | some v =>
      have hdo : Distinct others := (h.map fun e : String × α => e.1).nodup_iff.2 hd
      have hfound := get?_of_mem hdo (h.mem_iff.2 (mem_of_get? hes))
      rw [hget] at hfound
      cases hfound

theorem get?_append (es more : Entries α) (name : String) :
    get? (es ++ more) name = (get? es name).or (get? more name) := by
  induction es with
  | nil => rfl
  | cons e rest ih =>
    obtain ⟨k, w⟩ := e
    by_cases hk : k = name
    · simp [get?, hk]
    · rw [List.cons_append, get?_cons_of_ne hk, get?_cons_of_ne hk, ih]

theorem get?_map {β : Type} (f : α → β) (es : Entries α) (name : String) :
    get? (es.map fun e => (e.1, f e.2)) name = (get? es name).map f := by
  induction es with
  | nil => rfl
  | cons e rest ih =>
    obtain ⟨k, w⟩ := e
    by_cases hk : k = name
    · simp [get?, hk]
    · rw [List.map_cons, get?_cons_of_ne hk, get?_cons_of_ne hk, ih]

theorem get?_filterMap {es : Entries (Option α)} (hd : Distinct es) (name : String) :
    get? (es.filterMap fun e => e.2.map fun v => (e.1, v)) name = (get? es name).join := by
  induction es with
  | nil => rfl
  | cons e rest ih =>
    obtain ⟨k, o⟩ := e
    have hd' : k ∉ names rest ∧ Distinct rest := List.nodup_cons.1 hd
    have hrest := ih hd'.2
    by_cases hk : k = name
    · subst hk
      cases o with
      | some v => simp [get?]
      | none =>
        rw [get?_eq_none hd'.1] at hrest
        simpa [get?] using hrest
    · rw [get?_cons_of_ne hk, ← hrest]
      cases o with
      | some v => exact get?_cons_of_ne hk
      | none => rfl

theorem get?_filter {es : Entries α} (hd : Distinct es) (p : String × α → Bool) (name : String) :
    get? (es.filter p) name = (get? es name).filter fun v => p (name, v) := by
  induction es with
  | nil => rfl
  | cons e rest ih =>
    obtain ⟨k, w⟩ := e
    have hd' : k ∉ names rest ∧ Distinct rest := List.nodup_cons.1 hd
    have hrest := ih hd'.2
    by_cases hk : k = name
    · subst hk
      rw [get?_eq_none hd'.1] at hrest
      cases hp : p (k, w) with
      | true => simp [get?, Option.filter, hp]
      | false => simpa [get?, Option.filter, hp] using hrest
    · rw [get?_cons_of_ne hk, ← hrest, List.filter_cons]
      split
      · exact get?_cons_of_ne hk
      · rfl

/-! ## Writing and erasing -/

theorem insert_of_get?_eq_none {es : Entries α} {name : String} (h : get? es name = none) (v : α) :
    es.insert name v = es ++ [(name, v)] := by
  induction es with
  | nil => rfl
  | cons e rest ih =>
    obtain ⟨k, w⟩ := e
    by_cases hk : k = name
    · simp [get?, hk] at h
    · rw [get?_cons_of_ne hk] at h
      simp only [insert, if_neg hk, ih h, List.cons_append]

theorem insert_insert (es : Entries α) (name : String) (v w : α) :
    insert (insert es name v) name w = insert es name w := by
  induction es with
  | nil => simp only [insert, if_true]
  | cons e rest ih =>
    obtain ⟨k, x⟩ := e
    by_cases hk : k = name
    · simp only [insert, if_pos hk]
    · simp only [insert, if_neg hk, ih]

theorem insert_of_get? {es : Entries α} {name : String} {v : α} (h : get? es name = some v) :
    insert es name v = es := by
  induction es with
  | nil => cases h
  | cons e rest ih =>
    obtain ⟨k, x⟩ := e
    by_cases hk : k = name
    · simp only [get?, if_pos hk, Option.some.injEq] at h
      simp only [insert, if_pos hk, h]
    · rw [get?_cons_of_ne hk] at h
      simp only [insert, if_neg hk, ih h]

theorem eq_of_mem_insert {es : Entries α} {name : String} {v : α} {e : String × α}
    (h : e ∈ es.insert name v) : e ∈ es ∨ e.2 = v := by
  induction es with
  | nil => exact .inr (List.mem_singleton.1 h ▸ rfl)
  | cons e' rest ih =>
    obtain ⟨k, w⟩ := e'
    rw [insert] at h
    split_ifs at h with hk
    · rcases List.mem_cons.1 h with rfl | h
      · exact .inr rfl
      · exact .inl (List.mem_cons_of_mem _ h)
    · rcases List.mem_cons.1 h with rfl | h
      · exact .inl List.mem_cons_self
      · exact (ih h).imp_left (List.mem_cons_of_mem _)

theorem exists_of_mem_merge {es news : Entries α} {e : String × α} (h : e ∈ merge es news) :
    ∃ e' ∈ es ++ news, e'.2 = e.2 := by
  induction news generalizing es with
  | nil => exact ⟨e, by simpa [merge] using h, rfl⟩
  | cons e₁ rest ih =>
    have hrest : e ∈ merge (es.insert e₁.1 e₁.2) rest := h
    obtain ⟨e', he', heq⟩ := ih hrest
    rcases List.mem_append.1 he' with he' | he'
    · rcases eq_of_mem_insert he' with hold | hnew
      · exact ⟨e', List.mem_append_left _ hold, heq⟩
      · exact ⟨e₁, by simp, hnew.symm.trans heq⟩
    · exact ⟨e', by simp [he'], heq⟩

/-- Entries of new and distinct names go last. -/
theorem merge_eq_append {es news : Entries α} (hd : Distinct (es ++ news)) :
    merge es news = es ++ news := by
  induction news generalizing es with
  | nil => exact (List.append_nil es).symm
  | cons e rest ih =>
    obtain ⟨k, v⟩ := e
    have hnew : get? es k = none := by
      refine get?_eq_none fun hmem => ?_
      have hd' : (names es ++ k :: names rest).Nodup := by simpa [Distinct, names] using hd
      exact (List.nodup_append.1 hd').2.2 k hmem k List.mem_cons_self rfl
    have hd' : Distinct ((es ++ [(k, v)]) ++ rest) := by simpa using hd
    have hmerge : merge es ((k, v) :: rest) = merge (insert es k v) rest := rfl
    rw [hmerge, insert_of_get?_eq_none hnew, ih hd', List.append_assoc]
    rfl

theorem ofList_eq_self {es : Entries α} (hd : Distinct es) : ofList es = es :=
  merge_eq_append hd

theorem Distinct.insert {es : Entries α} (hd : Distinct es) (name : String) (v : α) :
    Distinct (insert es name v) := by
  unfold Distinct
  rw [names_insert]
  by_cases hmem : name ∈ names es
  · rw [if_pos hmem]
    exact hd
  · rw [if_neg hmem]
    refine List.nodup_append.2 ⟨hd, by simp, ?_⟩
    rintro a ha b hb rfl
    exact hmem (List.mem_singleton.1 hb ▸ ha)

theorem Distinct.merge {es : Entries α} (hd : Distinct es) (news : Entries α) :
    Distinct (merge es news) := by
  induction news generalizing es with
  | nil => exact hd
  | cons e rest ih => exact ih (hd.insert e.1 e.2)

theorem get?_merge (es : Entries α) {news : Entries α} (hd : Distinct news) (name : String) :
    get? (merge es news) name = (get? news name).or (get? es name) := by
  induction news generalizing es with
  | nil => rfl
  | cons e rest ih =>
    obtain ⟨k, v⟩ := e
    have hd' : k ∉ names rest ∧ Distinct rest := List.nodup_cons.1 hd
    have hmerge : merge es ((k, v) :: rest) = merge (insert es k v) rest := rfl
    rw [hmerge, ih _ hd'.2]
    by_cases hk : k = name
    · subst hk
      rw [get?_eq_none hd'.1, get?_insert_self]
      simp [get?]
    · rw [get?_insert_of_ne es v (Ne.symm hk), get?_cons_of_ne hk]

theorem mem_names_of_mem_erase {es : Entries α} {name other : String}
    (h : other ∈ names (erase es name)) : other ∈ names es := by
  induction es with
  | nil => cases h
  | cons e rest ih =>
    obtain ⟨k, w⟩ := e
    by_cases hk : k = name
    · rw [erase, if_pos hk] at h
      exact List.mem_cons_of_mem _ h
    · rw [erase, if_neg hk] at h
      rcases List.mem_cons.1 h with rfl | h
      · exact List.mem_cons_self
      · exact List.mem_cons_of_mem _ (ih h)

theorem Distinct.erase {es : Entries α} (hd : Distinct es) (name : String) :
    Distinct (erase es name) := by
  induction es with
  | nil => exact hd
  | cons e rest ih =>
    obtain ⟨k, w⟩ := e
    have hd' : k ∉ names rest ∧ Distinct rest := List.nodup_cons.1 hd
    by_cases hk : k = name
    · rw [Entries.erase, if_pos hk]
      exact hd'.2
    · rw [Entries.erase, if_neg hk]
      exact List.nodup_cons.2 ⟨fun h => hd'.1 (mem_names_of_mem_erase h), ih hd'.2⟩

theorem get?_erase_self {es : Entries α} (hd : Distinct es) (name : String) :
    get? (erase es name) name = none := by
  induction es with
  | nil => rfl
  | cons e rest ih =>
    obtain ⟨k, w⟩ := e
    have hd' : k ∉ names rest ∧ Distinct rest := List.nodup_cons.1 hd
    by_cases hk : k = name
    · rw [erase, if_pos hk]
      exact get?_eq_none (hk ▸ hd'.1)
    · rw [erase, if_neg hk, get?_cons_of_ne hk]
      exact ih hd'.2

/-- An entry that came last under a new name leaves nothing behind. -/
theorem erase_append_of_get?_eq_none {es : Entries α} {name : String} (h : get? es name = none)
    (v : α) : erase (es ++ [(name, v)]) name = es := by
  induction es with
  | nil => simp [erase]
  | cons e rest ih =>
    obtain ⟨k, w⟩ := e
    by_cases hk : k = name
    · simp [get?, hk] at h
    · rw [get?_cons_of_ne hk] at h
      rw [List.cons_append, erase, if_neg hk, ih h]

theorem get?_erase_of_ne (es : Entries α) {name other : String} (h : other ≠ name) :
    get? (erase es name) other = get? es other := by
  induction es with
  | nil => rfl
  | cons e rest ih =>
    obtain ⟨k, w⟩ := e
    by_cases hk : k = name
    · rw [erase, if_pos hk, get?_cons_of_ne fun hko => h (hko.symm.trans hk)]
    · rw [erase, if_neg hk, get?, get?, ih]

end RemoteModel.Entries
