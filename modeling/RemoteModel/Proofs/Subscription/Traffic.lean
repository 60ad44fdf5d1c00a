import RemoteModel.Proofs.Subscription.Registry
import RemoteModel.Subscription.Traffic

/-!
# What a happening changes

**Signals.** A signal touches its own channel alone, and a connection that is over stays over
(`touches_signal`, `isBusy_of_signal`). A channel whose connection is not over after a signal is
registered if it was before (`holds_signal`).

**Calls.** A call that ends subscriptions takes them off the registry one by one and changes no
line (`endEach_induction`, `lines_endEach`).

**Changes.** `Change` lists all that a happening can change (`change_next`).
-/

namespace RemoteModel.Subscription

/-! ## Lines -/

namespace Line

/-- The connection is being made, or it is live. -/
def isBusy : Line → Bool
  | connecting => true
  | settled s => s.isOpen

theorem isBusy_of_isLive {l : Line} (h : l.isLive = true) : l.isBusy = true := by
  cases l with
  | connecting => cases h
  | settled s => exact h

theorem respond_of_over {l : Line} (h : l.isBusy = false) (address : String) (s : Signal) :
    l.respond address s = (l, {}) := by
  cases l with
  | connecting => cases h
  | settled socket =>
    have hopen : socket.isOpen = false := h
    cases s with
    | connected attempt => rfl
    | arrived frame => simp [respond, Socket.receive, hopen]
    | ended e => simp [respond, Socket.finish, hopen]

theorem isBusy_of_respond {l : Line} {address : String} {s : Signal}
    (h : (l.respond address s).1.isBusy = true) : l.isBusy = true := by
  cases hbusy : l.isBusy with
  | true => rfl
  | false =>
    rw [respond_of_over hbusy, hbusy] at h
    cases h

/-- A channel whose connection is not over after a signal has neither failed nor closed. -/
theorem respond_of_busy {l : Line} {address : String} {s : Signal}
    (h : (l.respond address s).1.isBusy = true) :
    (l.respond address s).2.failure = none ∧
      ∀ e ∈ (l.respond address s).2.events, ∀ code reason, e ≠ .closed code reason := by
  cases l with
  | connecting =>
    cases s with
    | connected attempt =>
      rcases attempt with _ | failure
      · simp [respond, Socket.open]
      · cases failure <;> simp [respond, Socket.open, isBusy] at h
    | arrived frame => simp [respond]
    | ended e => simp [respond]
  | settled socket =>
    cases s with
    | connected attempt => simp [respond]
    | arrived frame =>
      by_cases hopen : socket.isOpen = true <;> simp [respond, Socket.receive, hopen]
    | ended e =>
      by_cases hopen : socket.isOpen = true
      · simp [respond, Socket.finish, hopen, isBusy] at h
      · simp [respond, Socket.finish, hopen]

theorem isConnecting_of_respond {l : Line} {address : String} {s : Signal}
    (h : (l.respond address s).1.isConnecting = true) : l.isConnecting = true := by
  cases l with
  | connecting => rfl
  | settled socket => cases s <;> simp [respond, isConnecting] at h

end Line

namespace Traffic

open Registry (Touches)

variable {t t' : Traffic} {n m : Nat} {s : Signal} {modeluri : String} {rest : List String}

/-- The connection of a channel is being made, or it is live. -/
def isBusy (t : Traffic) (n : Nat) : Bool := (t.lines[n]?).any Line.isBusy

theorem isBusy_of_isLive (h : t.isLive n = true) : t.isBusy n = true := by
  unfold isLive at h
  unfold isBusy
  cases hl : t.lines[n]? with
  | none =>
    rw [hl] at h
    cases h
  | some l =>
    rw [hl] at h
    exact Line.isBusy_of_isLive h

theorem isLive_of_isConnecting (h : t.isConnecting n = true) : t.isLive n = false := by
  unfold isConnecting at h
  unfold isLive
  cases hl : t.lines[n]? with
  | none => rfl
  | some l =>
    rw [hl] at h
    cases l with
    | connecting => rfl
    | settled socket => cases h

theorem isBusy_eq_false (hc : t.isConnecting n = false) (hl : t.isLive n = false) :
    t.isBusy n = false := by
  unfold isConnecting at hc
  unfold isLive at hl
  unfold isBusy
  cases h : t.lines[n]? with
  | none => rfl
  | some l =>
    rw [h] at hc hl
    cases l with
    | connecting => cases hc
    | settled socket => exact hl

/-! What is known of the lines is known of their connections. -/

theorem isBusy_congr (h : t'.lines = t.lines) (n : Nat) : t'.isBusy n = t.isBusy n := by
  unfold isBusy
  rw [h]

theorem isLive_congr (h : t'.lines = t.lines) (n : Nat) : t'.isLive n = t.isLive n := by
  unfold isLive
  rw [h]

theorem isConnecting_congr (h : t'.lines = t.lines) (n : Nat) :
    t'.isConnecting n = t.isConnecting n := by
  unfold isConnecting
  rw [h]

/-! ## Signals -/

theorem respond?_eq_some {l : Line} {response : Response} :
    t.respond? n s = some (l, response) ↔
      ∃ c before, t.registry.channels[n]? = some c ∧ t.lines[n]? = some before ∧
        before.respond c.address s = (l, response) := by
  unfold respond?
  cases t.registry.channels[n]? with
  | none => simp
  | some c => cases t.lines[n]? <;> simp

theorem signal_of_none (h : t.respond? n s = none) : t.signal n s = t := by
  unfold signal
  rw [h]

/-- A channel that does not fail stays in the registry that it has reported to. -/
theorem signal_registry {l : Line} {response : Response} (h : t.respond? n s = some (l, response)) :
    (t.signal n s).registry =
      if response.failure = none then (t.registry.report true n response.events).1
      else (((t.registry.report true n response.events).1.abandon n).close conduct n).1 := by
  unfold signal
  rw [h]
  have hreport : (t.registry.respond conduct n response).2.2 = response.failure := by
    show Option.or (t.registry.report true n response.events).2.2 _ = _
    rw [Registry.report_failure]
    rfl
  simp only
  split
  · rename_i r ds heq
    rw [heq] at hreport
    rw [if_pos hreport.symm]
    exact (congrArg Prod.fst heq).symm
  · rename_i r ds failure heq
    rw [heq] at hreport
    rw [if_neg fun hnone => Option.some_ne_none _ (hreport.trans hnone)]
    rw [show (t.registry.report true n response.events).1 = r from congrArg Prod.fst heq]

theorem signal_lines {l : Line} {response : Response} (h : t.respond? n s = some (l, response)) :
    (t.signal n s).lines = t.lines.set n l := by
  unfold signal
  rw [h]

@[simp] theorem signal_withdrawals (t : Traffic) (n : Nat) (s : Signal) :
    (t.signal n s).withdrawals = t.withdrawals := by
  unfold signal
  split <;> rfl

theorem touches_close {r : Registry} (hd : r.registered.Distinct) :
    Touches n r (r.close conduct n).1 :=
  Registry.touches_modify hd fun _ => rfl

theorem touches_signal (hd : t.registry.registered.Distinct) (n : Nat) (s : Signal) :
    Touches n t.registry (t.signal n s).registry := by
  cases h : t.respond? n s with
  | none =>
    rw [signal_of_none h]
    exact .refl hd
  | some after =>
    rw [signal_registry h]
    have hreport := Registry.touches_report (n := n) hd after.2.events
    split
    · exact hreport
    · have habandon := hreport.trans (Registry.touches_abandon hreport.distinct)
      exact habandon.trans (touches_close habandon.distinct)

theorem length_lines_signal (t : Traffic) (n : Nat) (s : Signal) :
    (t.signal n s).lines.length = t.lines.length := by
  cases h : t.respond? n s with
  | none => rw [signal_of_none h]
  | some after => rw [signal_lines h, List.length_set]

theorem signal_line_of_ne (h : m ≠ n) : (t.signal n s).lines[m]? = t.lines[m]? := by
  cases hr : t.respond? n s with
  | none => rw [signal_of_none hr]
  | some after => rw [signal_lines hr, List.getElem?_set_ne (Ne.symm h)]

theorem signal_line_self {l : Line} {response : Response} (h : t.respond? n s = some (l, response)) :
    (t.signal n s).lines[n]? = some l := by
  obtain ⟨c, before, -, hbefore, -⟩ := respond?_eq_some.1 h
  rw [signal_lines h]
  exact List.getElem?_set_self (List.getElem?_eq_some_iff.1 hbefore).1

theorem told_of_over (h : t.isBusy n = false) (s : Signal) : t.told n s = [] := by
  unfold told
  cases hr : t.respond? n s with
  | none => rfl
  | some after =>
    obtain ⟨c, before, -, hbefore, heq⟩ := respond?_eq_some.1 hr
    unfold isBusy at h
    rw [hbefore] at h
    have hresponse := congrArg Prod.snd (heq.symm.trans (Line.respond_of_over h c.address s))
    simp only at hresponse ⊢
    rw [hresponse]

/-- What every line has had before a signal that has it afterwards, every channel has had. -/
theorem any_of_signal {p : Line → Bool}
    (hp : ∀ l address, p (Line.respond address l s).1 = true → p l = true)
    (h : ((t.signal n s).lines[m]?).any p = true) : (t.lines[m]?).any p = true := by
  by_cases hm : m = n
  · subst hm
    cases hr : t.respond? m s with
    | none => rwa [signal_of_none hr] at h
    | some after =>
      obtain ⟨c, before, -, hbefore, heq⟩ := respond?_eq_some.1 hr
      have hl : (before.respond c.address s).1 = after.1 := congrArg Prod.fst heq
      rw [signal_line_self hr, ← hl] at h
      rw [hbefore]
      exact hp before c.address h
  · rwa [signal_line_of_ne hm] at h

/-- **What is over stays over.** -/
theorem isBusy_of_signal (h : (t.signal n s).isBusy m = true) : t.isBusy m = true :=
  any_of_signal (fun _ _ => Line.isBusy_of_respond) h

theorem isConnecting_of_signal (h : (t.signal n s).isConnecting m = true) :
    t.isConnecting m = true :=
  any_of_signal (fun _ _ => Line.isConnecting_of_respond) h

/-- **A channel that is not over keeps its registration.** -/
theorem holds_signal (hd : t.registry.registered.Distinct)
    (hbusy : (t.signal n s).isBusy m = true) (h : t.registry.Holds modeluri m) :
    (t.signal n s).registry.Holds modeluri m := by
  by_cases hm : m = n
  · subst hm
    cases hr : t.respond? m s with
    | none => rwa [signal_of_none hr]
    | some after =>
      obtain ⟨c, before, -, -, heq⟩ := respond?_eq_some.1 hr
      unfold isBusy at hbusy
      rw [signal_line_self hr] at hbusy
      have hl : (before.respond c.address s).1 = after.1 := congrArg Prod.fst heq
      have hresponse : (before.respond c.address s).2 = after.2 := congrArg Prod.snd heq
      obtain ⟨hfailure, hevents⟩ := Line.respond_of_busy (hl ▸ hbusy)
      rw [hresponse] at hfailure hevents
      rw [signal_registry hr, if_pos hfailure]
      exact h.report hevents
  · exact h.touches hm (touches_signal hd n s)

/-! ## Calls -/

theorem answered_eq_none : (t.withdrawal modeluri n rest).answered = none ↔ t.isLive n = true := by
  unfold withdrawal
  cases t.isLive n <;> simp

theorem eq_of_answered {count : Nat} (h : (t.withdrawal modeluri n rest).answered = some count) :
    count = t.registry.channels.length := by
  unfold withdrawal at h
  cases hlive : t.isLive n with
  | true => simp [hlive] at h
  | false =>
    simp only [hlive, Bool.false_eq_true, if_false, Option.some.injEq] at h
    exact h.symm

theorem withdraw_eq_some (h : t.withdraw modeluri rest = some (n, t')) :
    ∃ r, t.registry.withdraw modeluri = some (r, n) ∧ t'.registry = (r.close conduct n).1 ∧
      t'.lines = t.lines ∧ t'.withdrawals = t.withdrawals ++ [t.withdrawal modeluri n rest] := by
  obtain ⟨⟨r, k⟩, hr, heq⟩ := Option.map_eq_some_iff.1 h
  cases heq
  exact ⟨r, hr, rfl, rfl, rfl⟩

theorem touches_withdraw (hd : t.registry.registered.Distinct)
    (h : t.withdraw modeluri rest = some (n, t')) : Touches n t.registry t'.registry := by
  obtain ⟨r, hr, hregistry, -, -⟩ := withdraw_eq_some h
  have hwithdraw := Registry.touches_withdraw hd hr
  rw [hregistry]
  exact hwithdraw.trans (touches_close hwithdraw.distinct)

theorem get?_of_withdraw (h : t.withdraw modeluri rest = some (n, t')) :
    t.registry.registered.get? modeluri = some n := by
  obtain ⟨r, hr, -⟩ := withdraw_eq_some h
  exact (Registry.withdraw_eq_some hr).1

theorem get?_withdraw (hd : t.registry.registered.Distinct)
    (h : t.withdraw modeluri rest = some (n, t')) :
    t'.registry.registered.get? modeluri = none := by
  obtain ⟨r, hr, hregistry, -, -⟩ := withdraw_eq_some h
  rw [hregistry, (Registry.withdraw_eq_some hr).2]
  exact Entries.get?_erase_self hd modeluri

/-- What ending each subscription preserves, ending all of them preserves. -/
theorem endEach_induction {P : Traffic → Prop}
    (hstep : ∀ t t' modeluri rest n, P t → t.withdraw modeluri rest = some (n, t') → P t')
    (uris : List String) (t : Traffic) (h : P t) : P (endEach uris t) := by
  induction uris generalizing t with
  | nil => exact h
  | cons modeluri rest ih =>
    rw [endEach]
    cases hw : t.withdraw modeluri rest with
    | none => exact ih t h
    | some after =>
      have hafter := hstep t after.2 modeluri rest after.1 h hw
      simp only
      split
      · exact hafter
      · exact ih after.2 hafter

@[simp] theorem lines_endEach (uris : List String) (t : Traffic) :
    (endEach uris t).lines = t.lines := by
  refine endEach_induction (P := fun x => x.lines = t.lines) ?_ uris t rfl
  intro x x' modeluri rest n hx hw
  obtain ⟨r, -, -, hlines, -⟩ := withdraw_eq_some hw
  exact hlines.trans hx

theorem mem_withdrawals_endEach (uris : List String) {w : Withdrawal} (h : w ∈ t.withdrawals) :
    w ∈ (endEach uris t).withdrawals := by
  refine endEach_induction (P := fun x => w ∈ x.withdrawals) ?_ uris t h
  intro x x' modeluri rest n hx hw
  obtain ⟨r, -, -, -, hwithdrawals⟩ := withdraw_eq_some hw
  rw [hwithdrawals]
  exact List.mem_append_left _ hx

/-- A line that is busy after a channel has been made was busy before, or it is the new one. -/
theorem isBusy_of_lines_concat {n : Nat} (h : t'.lines = t.lines ++ [.connecting])
    (hbusy : t'.isBusy n = true) : t.isBusy n = true ∨ n = t.lines.length := by
  unfold isBusy at hbusy ⊢
  rw [h] at hbusy
  rcases Nat.lt_trichotomy n t.lines.length with hlt | heq | hgt
  · rw [List.getElem?_append_left hlt] at hbusy
    exact .inl hbusy
  · exact .inr heq
  · rw [List.getElem?_eq_none (by simpa using Nat.succ_le_of_lt hgt)] at hbusy
    cases hbusy

theorem mem_withdrawals_answer {k : Nat} {w v : Withdrawal} (h : v ∈ (t.answer k w).withdrawals) :
    v ∈ t.withdrawals ∨ v = { w with answered := some t.registry.channels.length } :=
  List.mem_or_eq_of_mem_set h

/-! ## Changes -/

/-- What a happening can change. -/
inductive Change (t : Traffic) : Traffic → Prop
  | none : Change t t
  | signal (n : Nat) (s : Signal) : Change t (t.signal n s)
  /-- A channel is made for a model that is not subscribed. -/
  | made {modeluri : String} {listener : Listener} {o : Options} {r : Registry}
      (hfree : t.registry.isSubscribed modeluri = false)
      (hr : t.registry.register modeluri listener o = some r) :
      Change t { t with registry := r, lines := t.lines ++ [.connecting] }
  | ended (uris : List String) : Change t (endEach uris t)
  /-- A caller is told that the connection has ended that the call has waited for. -/
  | answered {k : Nat} {w : Withdrawal} (hw : t.withdrawals[k]? = some w)
      (hwaits : w.answered = Option.none) (hlive : t.isLive w.channel = false) :
      Change t (endEach w.rest (t.answer k w))

theorem change_subscribe (t : Traffic) (modeluri : String) (listener : Listener) (o : Options) :
    Change t (t.subscribe modeluri listener o) := by
  unfold subscribe
  by_cases hsubscribed : t.registry.isSubscribed modeluri = true
  · rw [if_pos hsubscribed]
    exact .none
  · rw [if_neg hsubscribed]
    cases hr : t.registry.register modeluri listener o with
    | none => exact .none
    | some r => exact .made (Bool.eq_false_iff.2 hsubscribed) hr

theorem change_resume (t : Traffic) (k : Nat) : Change t (t.resume k) := by
  unfold resume
  cases hw : t.withdrawals[k]? with
  | none => exact .none
  | some w =>
    simp only
    split
    · rename_i hready
      exact .answered hw hready.1 hready.2
    · exact .none

theorem change_next (t : Traffic) (happening : Happening) : Change t (t.next happening) := by
  cases happening with
  | subscribe modeluri listener o => exact change_subscribe t modeluri listener o
  | unsubscribe modeluri => exact .ended [modeluri]
  | closeAll => exact .ended _
  | signal n s => exact .signal n s
  | resume k => exact change_resume t k

end Traffic

end RemoteModel.Subscription
