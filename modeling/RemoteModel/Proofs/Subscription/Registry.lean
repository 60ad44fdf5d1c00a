import RemoteModel.Proofs.Entries
import RemoteModel.Subscription.Registry

/-!
# What a step of the registry touches

A step on a channel leaves all other channels and their registrations alone (`Touches`). Events
that do not close a channel leave its registration alone, too (`Holds.report`).
-/

namespace RemoteModel.Subscription.Registry

variable {r r' r'' : Registry} {n m : Nat} {modeluri : String}

/-- The model of a channel. -/
def modeluri? (r : Registry) (n : Nat) : Option String := (r.channels[n]?).map Channel.modeluri

/-- The registrations differ at most in a channel: it may have changed, but for its model, and it
may have left the registry. -/
structure Touches (n : Nat) (r r' : Registry) : Prop where
  length : r'.channels.length = r.channels.length
  modeluri? : ∀ m, r'.modeluri? m = r.modeluri? m
  other : ∀ m, m ≠ n → r'.channels[m]? = r.channels[m]?
  fewer : ∀ u m, r'.registered.get? u = some m → r.registered.get? u = some m
  kept : ∀ u m, m ≠ n → r.registered.get? u = some m → r'.registered.get? u = some m
  distinct : r'.registered.Distinct

namespace Touches

theorem refl (hd : r.registered.Distinct) : Touches n r r where
  length := rfl
  modeluri? _ := rfl
  other _ _ := rfl
  fewer _ _ h := h
  kept _ _ _ h := h
  distinct := hd

theorem trans (h : Touches n r r') (h' : Touches n r' r'') : Touches n r r'' where
  length := h'.length.trans h.length
  modeluri? m := (h'.modeluri? m).trans (h.modeluri? m)
  other m hm := (h'.other m hm).trans (h.other m hm)
  fewer u m hu := h.fewer u m (h'.fewer u m hu)
  kept u m hm hu := h'.kept u m hm (h.kept u m hm hu)
  distinct := h'.distinct

theorem get?_eq_none (ht : Touches n r r') (h : r.registered.get? modeluri = none) :
    r'.registered.get? modeluri = none := by
  cases hget : r'.registered.get? modeluri with
  | none => rfl
  | some m => exact absurd (ht.fewer modeluri m hget) (by simp [h])

end Touches

/-! ## Single steps -/

/-- Erasing a model whose channel is the touched one. -/
theorem touches_erase (hd : r.registered.Distinct) (h : r.registered.get? modeluri = some n) :
    Touches n r { r with registered := r.registered.erase modeluri } where
  length := rfl
  modeluri? _ := rfl
  other _ _ := rfl
  fewer u m hu := by
    by_cases hne : u = modeluri
    · rw [hne, Entries.get?_erase_self hd] at hu
      cases hu
    · rwa [Entries.get?_erase_of_ne _ hne] at hu
  kept u m hm hu := by
    have hne : u ≠ modeluri := by
      rintro rfl
      exact hm (Option.some.inj (hu.symm.trans h))
    rwa [Entries.get?_erase_of_ne _ hne]
  distinct := Entries.Distinct.erase hd modeluri

theorem touches_modify (hd : r.registered.Distinct) {f : Channel → Channel}
    (hf : ∀ c, (f c).modeluri = c.modeluri) : Touches n r (r.modify n f) where
  length := List.length_modify ..
  modeluri? m := by
    unfold modeluri? modify
    by_cases hm : n = m
    · subst hm
      rw [List.getElem?_modify_eq]
      cases r.channels[n]? with
      | none => rfl
      | some c => exact congrArg some (hf c)
    · rw [List.getElem?_modify_ne _ _ hm]
  other m hm := List.getElem?_modify_ne _ _ (Ne.symm hm)
  fewer _ _ h := h
  kept _ _ _ h := h
  distinct := hd

theorem touches_drop (hd : r.registered.Distinct) : Touches n r (r.drop n) := by
  unfold drop
  cases r.channels[n]? with
  | none => exact .refl hd
  | some c =>
    by_cases h : r.registered.get? c.modeluri = some n
    · simp only [h, if_true]
      exact touches_erase hd h
    · simp only [h, if_false]
      exact .refl hd

/-- A report changes the state of its channel, and a close that is taken drops the channel. -/
theorem notify_fst (r : Registry) (n : Nat) (e : Event) :
    (r.notify n e).1 = r.modify n (fun c => { c with state := c.state.after e }) ∨
      ((∃ code reason, e = .closed code reason) ∧
        (r.notify n e).1 = (r.modify n fun c => { c with state := c.state.after e }).drop n) := by
  unfold notify
  cases h : r.channels[n]? with
  | none =>
    left
    simp [modify, List.modify_eq_self (List.getElem?_eq_none_iff.1 h)]
  | some c =>
    simp only
    split
    · exact .inr ⟨⟨_, _, rfl⟩, rfl⟩
    · exact .inl rfl

theorem touches_notify (hd : r.registered.Distinct) (e : Event) :
    Touches n r (r.notify n e).1 := by
  have hmodify : Touches n r (r.modify n fun c => { c with state := c.state.after e }) :=
    touches_modify hd fun _ => rfl
  rcases notify_fst r n e with h | ⟨-, h⟩
  · rw [h]
    exact hmodify
  · rw [h]
    exact hmodify.trans (touches_drop hmodify.distinct)

theorem touches_abandon (hd : r.registered.Distinct) : Touches n r (r.abandon n) := by
  have hmodify : Touches n r (r.modify n fun c => { c with state := .closed }) :=
    touches_modify hd fun _ => rfl
  exact hmodify.trans (touches_drop hmodify.distinct)

/-! ## Responses -/

theorem report_cons (e : Event) (rest : List Event) :
    (r.report true n (e :: rest)).1 = ((r.notify n e).1.report true n rest).1 := by
  rw [report]
  split <;> simp_all

theorem report_failure (es : List Event) (r : Registry) : (r.report true n es).2.2 = none := by
  induction es generalizing r with
  | nil => rfl
  | cons e rest ih =>
    rw [report]
    split <;> simp [ih]

theorem touches_report (hd : r.registered.Distinct) (es : List Event) :
    Touches n r (r.report true n es).1 := by
  induction es generalizing r with
  | nil => exact .refl hd
  | cons e rest ih =>
    rw [report_cons]
    have hnotify := touches_notify (n := n) hd e
    exact hnotify.trans (ih hnotify.distinct)

/-! ## Registered channels -/

/-- A channel is the registered one of a model, and it is not closed. -/
def Holds (r : Registry) (modeluri : String) (n : Nat) : Prop :=
  r.registered.get? modeluri = some n ∧ ∃ c, r.channels[n]? = some c ∧ c.state ≠ .closed

namespace Holds

theorem isSubscribed (h : r.Holds modeluri n) : r.isSubscribed modeluri = true := by
  obtain ⟨hget, c, hc, hstate⟩ := h
  simp [Registry.isSubscribed, state, channel?, hget, hc, hstate]

theorem touches (h : r.Holds modeluri m) (hm : m ≠ n) (ht : Touches n r r') :
    r'.Holds modeluri m := by
  obtain ⟨hget, c, hc, hstate⟩ := h
  exact ⟨ht.kept modeluri m hm hget, c, (ht.other m hm).trans hc, hstate⟩

theorem modify (h : r.Holds modeluri m) {f : Channel → Channel}
    (hf : ∀ c, c.state ≠ .closed → (f c).state ≠ .closed) : (r.modify n f).Holds modeluri m := by
  obtain ⟨hget, c, hc, hstate⟩ := h
  by_cases hn : n = m
  · subst hn
    refine ⟨hget, f c, ?_, hf c hstate⟩
    show (r.channels.modify n f)[n]? = some (f c)
    rw [List.getElem?_modify_eq, hc]
    rfl
  · exact ⟨hget, c, (List.getElem?_modify_ne _ _ hn).trans hc, hstate⟩

/-- Only a close ends a registration. -/
theorem notify (h : r.Holds modeluri m) {e : Event} (he : ∀ code reason, e ≠ .closed code reason) :
    (r.notify n e).1.Holds modeluri m := by
  rcases notify_fst r n e with hfst | ⟨⟨code, reason, hclosed⟩, -⟩
  · rw [hfst]
    refine h.modify fun c hc => ?_
    cases e with
    | opened => exact State.noConfusion
    | failed _ =>
      show (if c.state = .closed then State.closed else .error) ≠ .closed
      rw [if_neg hc]
      exact State.noConfusion
    | closed code reason => exact absurd rfl (he code reason)
    | arrived _ => exact hc
  · exact absurd hclosed (he code reason)

theorem report (h : r.Holds modeluri m) {es : List Event}
    (hes : ∀ e ∈ es, ∀ code reason, e ≠ .closed code reason) :
    (r.report true n es).1.Holds modeluri m := by
  induction es generalizing r with
  | nil => exact h
  | cons e rest ih =>
    rw [report_cons]
    exact ih (h.notify (hes e List.mem_cons_self)) fun e' he' =>
      hes e' (List.mem_cons_of_mem _ he')

end Holds

/-! ## Registering and withdrawing -/

theorem register_eq_some {listener : Listener} {o : Options}
    (h : r.register modeluri listener o = some r') :
    ∃ c : Channel, c.modeluri = modeluri ∧ c.state = .opening ∧ r'.channels = r.channels ++ [c] ∧
      r'.registered = r.registered.insert modeluri r.channels.length := by
  obtain ⟨address, -, rfl⟩ := Option.map_eq_some_iff.1 h
  exact ⟨_, rfl, rfl, rfl, rfl⟩

theorem modeluri?_concat {c : Channel} (h : r'.channels = r.channels ++ [c]) (m : Nat) :
    r'.modeluri? m = if m = r.channels.length then some c.modeluri else r.modeluri? m := by
  unfold modeluri?
  rw [h]
  rcases Nat.lt_trichotomy m r.channels.length with hlt | heq | hgt
  · rw [if_neg (Nat.ne_of_lt hlt), List.getElem?_append_left hlt]
  · rw [if_pos heq, heq, List.getElem?_concat_length]
    rfl
  · rw [if_neg (Nat.ne_of_gt hgt), List.getElem?_eq_none (by simpa using Nat.succ_le_of_lt hgt),
      List.getElem?_eq_none (Nat.le_of_lt hgt)]

theorem withdraw_eq_some (h : r.withdraw modeluri = some (r', n)) :
    r.registered.get? modeluri = some n ∧
      r' = { r with registered := r.registered.erase modeluri } := by
  obtain ⟨k, hk, heq⟩ := Option.map_eq_some_iff.1 h
  cases heq
  exact ⟨hk, rfl⟩

theorem touches_withdraw (hd : r.registered.Distinct) (h : r.withdraw modeluri = some (r', n)) :
    Touches n r r' := by
  obtain ⟨hget, rfl⟩ := withdraw_eq_some h
  exact touches_erase hd hget

end RemoteModel.Subscription.Registry
