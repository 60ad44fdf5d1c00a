import RemoteModel.Failure
import RemoteModel.Proofs.Except

/-!
# When a check succeeds

A compound check succeeds exactly when its parts do. The lemmas below take such a success apart:
side by side (`both_eq_ok`), under a name (`under_eq_ok`), for the items of a list (`list_eq_ok`)
and for the fields of an object (`required_eq_ok`, `defaulted_eq_ok`, `fields_eq_ok`).

A field that may be missing is read back from any object that shows it (`optional_of_shown`): one
that has its value under its first name, or nothing or `null` for a missing value.
-/

namespace RemoteModel

namespace Checked

variable {α β : Type}

theorem map_eq_ok {f : α → β} {x : Checked α} {b : β} :
    f <$> x = .ok b ↔ ∃ a, x = .ok a ∧ f a = b := by
  cases x with
  | ok a =>
    show Checked.ok (f a) = .ok b ↔ _
    simp
  | bad is =>
    show Checked.bad is = .ok b ↔ _
    simp

theorem both_eq_ok {f : Checked (α → β)} {x : Checked α} {b : β} :
    f.both x = .ok b ↔ ∃ g a, f = .ok g ∧ x = .ok a ∧ g a = b := by
  cases f <;> cases x <;> simp [both]

theorem seq_eq_ok {f : Checked (α → β)} {x : Checked α} {b : β} :
    f <*> x = .ok b ↔ ∃ g a, f = .ok g ∧ x = .ok a ∧ g a = b := both_eq_ok

theorem under_eq_ok {name : String} {x : Checked α} {a : α} :
    x.under name = .ok a ↔ x = .ok a := by
  cases x <;> simp [under]

theorem orFail_eq_ok {x : Checked α} {a : α} : x.orFail = .ok a ↔ x = .ok a := by
  cases x <;> simp [orFail]

theorem orUndecodable_eq_ok {expected : String} {payload : Json} {x : Checked α} {a : α} :
    x.orUndecodable expected payload = .ok a ↔ x = .ok a := by
  cases x <;> simp [orUndecodable]

theorem orUndecodable_eq_error {expected : String} {payload : Json} {x : Checked α} {e : Error}
    (h : x.orUndecodable expected payload = .error e) : e = .undecodable expected payload := by
  cases x with
  | ok a => simp [orUndecodable] at h
  | bad is =>
    simp only [orUndecodable, Except.error.injEq] at h
    exact h.symm

end Checked

namespace Check

variable {α : Type}

theorem fields_eq_ok {f : Entries Json → Checked α} {v : Json} {a : α} :
    fields f v = .ok a ↔ ∃ ms, v = .obj ms ∧ f ms = .ok a := by
  cases v <;> simp [fields, misfit]

theorem required_eq_ok {ms : Entries Json} {name : String} {c : Check α} {a : α} :
    required ms [name] c = .ok a ↔ ∃ v, ms.get? name = some v ∧ c v = .ok a := by
  cases h : ms.get? name with
  | none => simp [required, find?, h]
  | some v => simp [required, find?, h, Checked.under_eq_ok]

theorem defaulted_eq_ok {ms : Entries Json} {names : List String} {default a : α} {c : Check α} :
    defaulted ms names default c = .ok a ↔
      (find? ms names = none ∧ default = a) ∨
        ∃ name v, find? ms names = some (name, v) ∧ c v = .ok a := by
  cases h : find? ms names with
  | none => simp [defaulted, h]
  | some found =>
    obtain ⟨name, v⟩ := found
    simp only [defaulted, h, Checked.under_eq_ok, reduceCtorEq, false_and, false_or,
      Option.some.injEq, Prod.mk.injEq]
    constructor
    · intro hv
      exact ⟨name, v, ⟨rfl, rfl⟩, hv⟩
    · rintro ⟨_, _, ⟨rfl, rfl⟩, hv⟩
      exact hv

theorem find?_eq_none {ms : Entries Json} {names : List String}
    (h : ∀ name ∈ names, ms.get? name = none) : find? ms names = none := by
  induction names with
  | nil => rfl
  | cons name rest ih =>
    obtain ⟨hname, hrest⟩ := List.forall_mem_cons.1 h
    simp only [find?, hname, ih hrest]

theorem get?_of_find? {ms : Entries Json} {names : List String} {name : String} {v : Json}
    (h : find? ms names = some (name, v)) : ms.get? name = some v := by
  induction names with
  | nil => cases h
  | cons first rest ih =>
    cases hget : ms.get? first with
    | none => exact ih (by simpa [find?, hget] using h)
    | some w =>
      simp only [find?, hget, Option.some.injEq, Prod.mk.injEq] at h
      rw [← h.1, ← h.2, hget]

theorem exists_of_optional {ms : Entries Json} {names : List String} {c : Check α} {a : α}
    (h : optional ms names c = .ok (some a)) :
    ∃ name v, ms.get? name = some v ∧ c v = .ok a := by
  rcases defaulted_eq_ok.1 h with ⟨-, hnone⟩ | ⟨name, v, hfind, hv⟩
  · cases hnone
  · refine ⟨name, v, get?_of_find? hfind, ?_⟩
    cases hc : c v with
    | ok b => cases v <;> simp_all [nullable, Checked.map]
    | bad issues => cases v <;> simp_all [nullable, Checked.map]

theorem optional_of_get? {ms : Entries Json} {name : String} {others : List String} {c : Check α}
    {v : Json} (hget : ms.get? name = some v) (hv : v ≠ .null) :
    optional ms (name :: others) c = ((c v).map some).under name := by
  have hnullable : nullable c v = (c v).map some := by
    cases v with
    | null => exact absurd rfl hv
    | _ => rfl
  simp only [optional, defaulted, find?, hget, hnullable]

/-- A field is read back from an object that shows it. -/
theorem optional_of_shown {ms : Entries Json} {name : String} {others : List String} {c : Check α}
    {wire : α → Json} {x : Option α}
    (hshown : Json.ofOption (ms.get? name) = Json.ofOption (x.map wire))
    (hothers : ∀ n ∈ others, ms.get? n = none) (hnull : ∀ a, wire a ≠ .null)
    (hback : ∀ a, x = some a → c (wire a) = .ok a) :
    optional ms (name :: others) c = .ok x := by
  cases x with
  | none =>
    cases hget : ms.get? name with
    | none => simp [optional, defaulted, find?, hget, find?_eq_none hothers]
    | some v =>
      have hv : v = .null := by simpa [hget, Json.ofOption] using hshown
      simp [optional, defaulted, find?, hget, hv, nullable, Checked.under]
  | some a =>
    have hget : ms.get? name = some (wire a) := by
      cases hget : ms.get? name with
      | none => exact absurd (by simpa [hget, Json.ofOption] using hshown.symm) (hnull a)
      | some v => rw [show v = wire a by simpa [hget, Json.ofOption] using hshown]
    rw [optional_of_get? hget (hnull a), hback a rfl]
    rfl

/-! ## Items and members -/

theorem items_eq_ok {c : Check α} {n : Nat} {vs : List Json} {as : List α} :
    items c n vs = .ok as ↔ List.Forall₂ (fun v a => c v = .ok a) vs as := by
  induction vs generalizing n as with
  | nil => simp [items, eq_comm]
  | cons v rest ih =>
    simp only [items, Checked.both_eq_ok, Checked.map_eq_ok, Checked.under_eq_ok, ih,
      List.forall₂_cons_left_iff]
    constructor
    · rintro ⟨_, as', ⟨a, ha, rfl⟩, has, rfl⟩
      exact ⟨a, as', ha, has, rfl⟩
    · rintro ⟨a, as', ha, has, rfl⟩
      exact ⟨_, as', ⟨a, ha, rfl⟩, has, rfl⟩

theorem list_eq_ok {c : Check α} {v : Json} {as : List α} :
    list c v = .ok as ↔ ∃ vs, v = .arr vs ∧ List.Forall₂ (fun v a => c v = .ok a) vs as := by
  cases v <;> simp [list, misfit, items_eq_ok]

theorem list_map {c : Check α} {wire : α → Json} {as : List α}
    (h : ∀ a ∈ as, c (wire a) = .ok a) : list c (.arr (as.map wire)) = .ok as :=
  list_eq_ok.2 ⟨_, rfl, List.forall₂_map_left_iff.2 (List.forall₂_same.2 h)⟩

theorem members_eq_ok {c : Check α} {ms : Entries Json} {as : Entries α} :
    members c ms = .ok as ↔ List.Forall₂ (fun m a => m.1 = a.1 ∧ c m.2 = .ok a.2) ms as := by
  induction ms generalizing as with
  | nil => simp [members, eq_comm]
  | cons m rest ih =>
    obtain ⟨k, v⟩ := m
    simp only [members, Checked.both_eq_ok, Checked.map_eq_ok, Checked.under_eq_ok, ih,
      List.forall₂_cons_left_iff]
    constructor
    · rintro ⟨_, as', ⟨a, ha, rfl⟩, has, rfl⟩
      exact ⟨(k, a), as', ⟨rfl, ha⟩, has, rfl⟩
    · rintro ⟨⟨k', a⟩, as', ⟨rfl, ha⟩, has, rfl⟩
      exact ⟨_, as', ⟨a, ha, rfl⟩, has, rfl⟩

/-! ## Single values -/

theorem text_eq_ok {v : Json} {s : String} : text v = .ok s ↔ v = .str s := by
  cases v <;> simp [text, misfit]

theorem word_eq_ok {named? : String → Option α} {v : Json} {a : α} :
    word named? v = .ok a ↔ ∃ s, v = .str s ∧ named? s = some a := by
  cases v with
  | str s => cases h : named? s <;> simp [word, ofOption, misfit, h]
  | _ => simp [word, misfit]

end Check

end RemoteModel
