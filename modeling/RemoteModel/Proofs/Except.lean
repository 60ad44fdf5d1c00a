import Mathlib.Data.List.Forall2

/-!
# Functions that may fail

What is made of a result is made only if there is one (`bind_eq_ok`, `map_eq_ok`). A function is
applied to all items of a list exactly when it succeeds for each of them (`mapM_eq_ok`), and
otherwise the first failure is that of the whole (`mapM_eq_error`, `mapM_append`).

Results and what they are made of are related item by item: each result comes from an item
(`exists_left_of_mem`), and what is made and turned back is as it was (`eq_of_forall₂`).
-/

namespace RemoteModel

variable {ε α β : Type} {f : α → Except ε β} {xs before after : List α} {ys : List β} {x : α}
  {e : ε}

theorem toOption_eq_some {x : Except ε α} {a : α} : x.toOption = some a ↔ x = .ok a := by
  cases x <;> simp [Except.toOption]

theorem toOption_map (g : α → β) (x : Except ε α) : (x.map g).toOption = x.toOption.map g := by
  cases x <;> rfl

theorem bind_eq_ok {g : α → Except ε β} {x : Except ε α} {b : β} :
    x.bind g = .ok b ↔ ∃ a, x = .ok a ∧ g a = .ok b := by
  cases x <;> simp [Except.bind]

theorem map_eq_ok {g : α → β} {x : Except ε α} {b : β} :
    x.map g = .ok b ↔ ∃ a, x = .ok a ∧ g a = b := by
  cases x <;> simp [Except.map]

theorem map_eq_error {g : α → β} {x : Except ε α} {e : ε} : x.map g = .error e ↔ x = .error e := by
  cases x <;> simp [Except.map]

theorem mapM_eq_ok : xs.mapM f = .ok ys ↔ List.Forall₂ (fun x y => f x = .ok y) xs ys := by
  constructor
  · intro h
    induction xs generalizing ys with
    | nil =>
      rw [List.mapM_nil] at h
      cases h
      exact .nil
    | cons x rest ih =>
      rw [List.mapM_cons] at h
      cases hx : f x with
      | error e => simp [hx, bind, Except.bind] at h
      | ok y =>
        cases hr : rest.mapM f with
        | error e => simp [hx, hr, bind, Except.bind] at h
        | ok ys' =>
          simp only [hx, hr, bind, Except.bind, pure, Except.pure, Except.ok.injEq] at h
          subst h
          exact .cons hx (ih hr)
  · intro h
    induction h with
    | nil => rfl
    | cons hx _ ih => simp [List.mapM_cons, hx, ih, bind, Except.bind, pure, Except.pure]

/-- A failure is that of the first item that fails. -/
theorem mapM_eq_error (h : xs.mapM f = .error e) :
    ∃ before x after ys, xs = before ++ x :: after ∧
      List.Forall₂ (fun x y => f x = .ok y) before ys ∧ f x = .error e := by
  induction xs with
  | nil => simp [pure, Except.pure] at h
  | cons x rest ih =>
    rw [List.mapM_cons] at h
    cases hx : f x with
    | error e' =>
      simp only [hx, bind, Except.bind, Except.error.injEq] at h
      exact ⟨[], x, rest, [], rfl, .nil, h ▸ hx⟩
    | ok y =>
      cases hr : rest.mapM f with
      | ok ys => simp [hx, hr, bind, Except.bind, pure, Except.pure] at h
      | error e' =>
        simp only [hx, hr, bind, Except.bind, Except.error.injEq] at h
        obtain ⟨before, w, after, ys, hsplit, hbefore, hw⟩ := ih (h ▸ hr)
        exact ⟨x :: before, w, after, y :: ys, by rw [hsplit]; rfl, .cons hx hbefore, hw⟩

theorem mapM_append (hbefore : List.Forall₂ (fun x y => f x = .ok y) before ys)
    (hx : f x = .error e) : (before ++ x :: after).mapM f = .error e := by
  rw [List.mapM_append, mapM_eq_ok.2 hbefore, List.mapM_cons, hx]
  rfl

/-! ## Lists that are related item by item -/

theorem exists_left_of_mem {R : α → β → Prop} {y : β} (h : List.Forall₂ R xs ys) (hy : y ∈ ys) :
    ∃ x ∈ xs, R x y := by
  induction h with
  | nil => cases hy
  | cons hR _ ih =>
    rcases List.mem_cons.1 hy with rfl | hy
    · exact ⟨_, List.mem_cons_self, hR⟩
    · obtain ⟨x, hx, hR⟩ := ih hy
      exact ⟨x, List.mem_cons_of_mem _ hx, hR⟩

theorem forall₂_of_mem {R S : α → β → Prop} (h : List.Forall₂ R xs ys)
    (hS : ∀ x ∈ xs, ∀ y, R x y → S x y) : List.Forall₂ S xs ys := by
  induction h with
  | nil => exact .nil
  | cons hR _ ih =>
    obtain ⟨hx, hrest⟩ := List.forall_mem_cons.1 hS
    exact .cons (hx _ hR) (ih hrest)

/-- Two relations in a row that lead back for each item lead back for the list. -/
theorem eq_of_forall₂ {R : α → β → Prop} {S : β → α → Prop} {zs : List α}
    (hR : List.Forall₂ R xs ys) (hS : List.Forall₂ S ys zs)
    (hback : ∀ x ∈ xs, ∀ y z, R x y → S y z → z = x) : zs = xs := by
  induction hR generalizing zs with
  | nil =>
    cases hS
    rfl
  | cons hxy _ ih =>
    cases hS with
    | cons hyz hrest =>
      rw [hback _ List.mem_cons_self _ _ hxy hyz,
        ih hrest fun x hx => hback x (List.mem_cons_of_mem _ hx)]

end RemoteModel
