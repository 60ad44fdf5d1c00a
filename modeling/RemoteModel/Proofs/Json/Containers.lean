import RemoteModel.Proofs.Json.Location

/-!
# Children and gaps

A child of a container has neighbours on both sides. Writing to the child keeps them where they
are, and erasing it closes the gap (`split_of_get?`, `split_of_getElem?`).

**Erasing.** In an object the other members keep their names. In a list the items behind the gap
move down, so only the items before it keep their positions (`child?_eraseChild_of_ne`,
`child?_eraseChild_behind`).

**Documents.** Writing and erasing keep documents (`IsDocument.put`, `IsDocument.eraseChild`).
-/

namespace RemoteModel

/-! ## Neighbours -/

namespace Entries

variable {α : Type} {es : Entries α} {name : String} {v : α}

theorem split_of_get? (h : get? es name = some v) :
    ∃ front back, es = front ++ (name, v) :: back ∧ es.erase name = front ++ back ∧
      ∀ w, es.insert name w = front ++ (name, w) :: back := by
  induction es with
  | nil => cases h
  | cons e rest ih =>
    obtain ⟨k, w⟩ := e
    by_cases hk : k = name
    · subst hk
      simp only [get?, if_true, Option.some.injEq] at h
      subst h
      exact ⟨[], rest, rfl, by simp [erase], fun x => by simp [insert]⟩
    · rw [get?_cons_of_ne hk] at h
      obtain ⟨front, back, hes, herase, hinsert⟩ := ih h
      refine ⟨(k, w) :: front, back, by rw [hes]; rfl, ?_, fun x => ?_⟩
      · simp only [erase, if_neg hk, herase, List.cons_append]
      · simp only [insert, if_neg hk, hinsert, List.cons_append]

theorem erase_of_get?_eq_none (h : get? es name = none) : es.erase name = es := by
  induction es with
  | nil => rfl
  | cons e rest ih =>
    obtain ⟨k, w⟩ := e
    by_cases hk : k = name
    · simp [get?, hk] at h
    · rw [get?_cons_of_ne hk] at h
      simp only [erase, if_neg hk, ih h]

theorem mem_of_mem_insert {e : String × α} (h : e ∈ es.insert name v) :
    e ∈ es ∨ e = (name, v) := by
  cases hget : get? es name with
  | none =>
    rw [insert_of_get?_eq_none hget, List.mem_append, List.mem_singleton] at h
    exact h
  | some w =>
    obtain ⟨front, back, hes, -, hinsert⟩ := split_of_get? hget
    rw [hinsert, List.mem_append, List.mem_cons] at h
    rw [hes, List.mem_append, List.mem_cons]
    rcases h with h | h | h
    · exact .inl (.inl h)
    · exact .inr h
    · exact .inl (.inr (.inr h))

theorem mem_of_mem_merge {e : String × α} {news : Entries α} (h : e ∈ merge es news) :
    e ∈ es ∨ e ∈ news := by
  induction news generalizing es with
  | nil => exact .inl h
  | cons m rest ih =>
    rcases ih h with h | h
    · rcases mem_of_mem_insert h with h | rfl
      · exact .inl h
      · exact .inr List.mem_cons_self
    · exact .inr (List.mem_cons_of_mem _ h)

theorem mem_of_mem_erase {e : String × α} (h : e ∈ es.erase name) : e ∈ es := by
  cases hget : get? es name with
  | none => rwa [erase_of_get?_eq_none hget] at h
  | some w =>
    obtain ⟨front, back, hes, herase, -⟩ := split_of_get? hget
    rw [herase, List.mem_append] at h
    rw [hes, List.mem_append, List.mem_cons]
    rcases h with h | h
    · exact .inl h
    · exact .inr (.inr h)

theorem get?_erase_eq_none (hd : es.Distinct) {other : String} (h : get? es other = none) :
    get? (es.erase name) other = none := by
  by_cases hname : other = name
  · rw [hname]
    exact get?_erase_self hd name
  · rw [get?_erase_of_ne es hname, h]

end Entries

namespace Json

theorem split_of_getElem? {items : List Json} {n : Nat} {v : Json} (h : items[n]? = some v) :
    ∃ front back, items = front ++ v :: back ∧ items.eraseIdx n = front ++ back ∧
      ∀ w, items.set n w = front ++ w :: back := by
  obtain ⟨hn, rfl⟩ := List.getElem?_eq_some_iff.1 h
  refine ⟨items.take n, items.drop (n + 1), ?_, List.eraseIdx_eq_take_drop_succ .., fun w => ?_⟩
  · rw [← List.drop_eq_getElem_cons hn, List.take_append_drop]
  · rw [List.set_eq_take_append_cons_drop, if_pos hn]

/-! ## Erasing -/

/-- The container without a child. -/
def eraseChild : Json → Step → Json
  | .obj ms, .member name => .obj (Entries.erase ms name)
  | .arr items, .item n => .arr (items.eraseIdx n)
  | v, _ => v

/-- Other members stay, and so do the items before the one that is erased. -/
theorem child?_eraseChild_of_ne {s t : Step} (v : Json) (h : s ≠ t)
    (hbehind : ∀ i j, s = .item i → t = .item j → ¬ i < j) :
    child? (eraseChild v s) t = child? v t := by
  cases v with
  | arr items =>
    cases s with
    | member _ => rfl
    | item i =>
      cases t with
      | member _ => rfl
      | item j =>
        have hj : j < i := by
          have hle := hbehind i j rfl rfl
          have hne : i ≠ j := fun hij => h (congrArg Step.item hij)
          omega
        exact List.getElem?_eraseIdx_of_lt hj
  | obj ms =>
    cases s with
    | item _ => rfl
    | member name =>
      cases t with
      | item _ => rfl
      | member other =>
        exact Entries.get?_erase_of_ne ms fun hno => h (congrArg Step.member hno.symm)
  | _ => rfl

/-- The items behind the one that is erased move down. -/
theorem child?_eraseChild_behind {i j : Nat} (v : Json) (h : i < j) :
    child? (eraseChild v (.item i)) (.item (j - 1)) = child? v (.item j) := by
  cases v with
  | arr items =>
    show (items.eraseIdx i)[j - 1]? = items[j]?
    rw [List.getElem?_eraseIdx_of_ge (by omega)]
    congr 1
    omega
  | _ => rfl

/-! ## Documents -/

section Documents

variable {v w u : Json} {s : Step} {l : Location}

theorem WellFormed.setChild (hv : v.WellFormed) (hw : w.WellFormed) :
    (setChild w v s).WellFormed := by
  cases v <;> cases s <;> try exact hv
  · refine wellFormedItems_iff.2 fun x hx => ?_
    rcases List.mem_or_eq_of_mem_set hx with hx | rfl
    · exact wellFormedItems_iff.1 hv x hx
    · exact hw
  · refine ⟨hv.1.insert _ _, wellFormedMembers_iff.2 fun m hm => ?_⟩
    rcases Entries.mem_of_mem_insert hm with hm | rfl
    · exact wellFormedMembers_iff.1 hv.2 m hm
    · exact hw

theorem WellFormed.eraseChild (hv : v.WellFormed) : (eraseChild v s).WellFormed := by
  cases v <;> cases s <;> try exact hv
  · exact wellFormedItems_iff.2 fun x hx =>
      wellFormedItems_iff.1 hv x (List.mem_of_mem_eraseIdx hx)
  · exact ⟨Entries.Distinct.erase hv.1 _, wellFormedMembers_iff.2 fun m hm =>
      wellFormedMembers_iff.1 hv.2 m (Entries.mem_of_mem_erase hm)⟩

theorem WellFormed.put (hv : v.WellFormed) (hw : w.WellFormed) : (put w l v).WellFormed := by
  induction l generalizing v with
  | nil => exact hw
  | cons s l ih =>
    cases hs : child? v s with
    | none => simpa only [Json.put, hs] using hv
    | some u =>
      rw [put_cons w l hs]
      exact hv.setChild (ih (hv.child hs))

theorem Indexable.setChild (hv : v.Indexable) (hw : w.Indexable) :
    (setChild w v s).Indexable := by
  cases v <;> cases s <;> try exact hv
  · refine ⟨by simpa using hv.1, indexableItems_iff.2 fun x hx => ?_⟩
    rcases List.mem_or_eq_of_mem_set hx with hx | rfl
    · exact indexableItems_iff.1 hv.2 x hx
    · exact hw
  · refine indexableMembers_iff.2 fun m hm => ?_
    rcases Entries.mem_of_mem_insert hm with hm | rfl
    · exact indexableMembers_iff.1 hv m hm
    · exact hw

theorem Indexable.eraseChild (hv : v.Indexable) : (eraseChild v s).Indexable := by
  cases v <;> cases s <;> try exact hv
  · exact ⟨Nat.le_trans (List.length_eraseIdx_le ..) hv.1, indexableItems_iff.2 fun x hx =>
      indexableItems_iff.1 hv.2 x (List.mem_of_mem_eraseIdx hx)⟩
  · exact indexableMembers_iff.2 fun m hm =>
      indexableMembers_iff.1 hv m (Entries.mem_of_mem_erase hm)

theorem Indexable.put (hv : v.Indexable) (hw : w.Indexable) : (put w l v).Indexable := by
  induction l generalizing v with
  | nil => exact hw
  | cons s l ih =>
    cases hs : child? v s with
    | none => simpa only [Json.put, hs] using hv
    | some u =>
      rw [put_cons w l hs]
      exact hv.setChild (ih (hv.child hs))

theorem IsDocument.setChild (hv : v.IsDocument) (hw : w.IsDocument) :
    (setChild w v s).IsDocument :=
  ⟨hv.wellFormed.setChild hw.wellFormed, hv.indexable.setChild hw.indexable⟩

theorem IsDocument.put (hv : v.IsDocument) (hw : w.IsDocument) : (put w l v).IsDocument :=
  ⟨hv.wellFormed.put hw.wellFormed, hv.indexable.put hw.indexable⟩

theorem IsDocument.eraseChild (hv : v.IsDocument) : (eraseChild v s).IsDocument :=
  ⟨hv.wellFormed.eraseChild, hv.indexable.eraseChild⟩

end Documents

end Json

end RemoteModel
