import RemoteModel.Proofs.Subscription.Traffic

/-!
# Lines, registrations and withdrawals belong to channels

Every line belongs to a channel, and every registration and every withdrawal to a channel of its
model (`Linked`). Every happening keeps this (`Linked.next`), so it holds in every run.

**Single calls.** A call that runs while nothing else happens does what the registry does in one
step (`subscribe_alone`, `unsubscribe_alone`).
-/

namespace RemoteModel.Subscription.Traffic

open Registry (Touches)

variable {t t' : Traffic} {n m : Nat} {modeluri : String} {rest : List String}

/-- Every line belongs to a channel, and every registration and every withdrawal to a channel of
its model, which was there when the caller was told. -/
structure Linked (t : Traffic) : Prop where
  aligned : t.lines.length = t.registry.channels.length
  distinct : t.registry.registered.Distinct
  registered : ∀ u n, t.registry.registered.get? u = some n → t.registry.modeluri? n = some u
  withdrawn : ∀ w ∈ t.withdrawals, t.registry.modeluri? w.channel = some w.modeluri
  counted : ∀ w ∈ t.withdrawals, ∀ count, w.answered = some count →
    count ≤ t.registry.channels.length

namespace Linked

theorem start (baseUrl defaultFormat : String) : (start baseUrl defaultFormat).Linked where
  aligned := rfl
  distinct := List.nodup_nil
  registered _ _ h := by cases h
  withdrawn _ h := by cases h
  counted _ h := by cases h

theorem lt_of_modeluri? (h : t.Linked) (hn : t.registry.modeluri? n = some modeluri) :
    n < t.lines.length := by
  obtain ⟨c, hc, -⟩ := Option.map_eq_some_iff.1 hn
  rw [h.aligned]
  exact (List.getElem?_eq_some_iff.1 hc).1

theorem of_touches (h : t.Linked) (ht : Touches n t.registry t'.registry)
    (hlines : t'.lines.length = t.lines.length)
    (hw : ∀ w ∈ t'.withdrawals, t.registry.modeluri? w.channel = some w.modeluri ∧
      ∀ count, w.answered = some count → count ≤ t.registry.channels.length) : t'.Linked where
  aligned := by rw [hlines, h.aligned, ht.length]
  distinct := ht.distinct
  registered u m hu := (ht.modeluri? m).trans (h.registered u m (ht.fewer u m hu))
  withdrawn w hmem := (ht.modeluri? w.channel).trans (hw w hmem).1
  counted w hmem count hcount := by
    rw [ht.length]
    exact (hw w hmem).2 count hcount

theorem signal (h : t.Linked) (n : Nat) (s : Signal) : (t.signal n s).Linked := by
  refine h.of_touches (touches_signal h.distinct n s) (length_lines_signal t n s) fun w hw => ?_
  rw [signal_withdrawals] at hw
  exact ⟨h.withdrawn w hw, h.counted w hw⟩

theorem withdraw (h : t.Linked) (hw : t.withdraw modeluri rest = some (n, t')) : t'.Linked := by
  obtain ⟨r, -, -, hlines, hwithdrawals⟩ := withdraw_eq_some hw
  refine h.of_touches (touches_withdraw h.distinct hw) (by rw [hlines]) fun v hv => ?_
  rw [hwithdrawals] at hv
  rcases List.mem_append.1 hv with hv | hv
  · exact ⟨h.withdrawn v hv, h.counted v hv⟩
  · cases List.mem_singleton.1 hv
    exact ⟨h.registered modeluri n (get?_of_withdraw hw), fun count hcount =>
      Nat.le_of_eq (eq_of_answered hcount)⟩

theorem endEach (h : t.Linked) (uris : List String) : (endEach uris t).Linked :=
  endEach_induction (fun _ _ _ _ _ hx hw => hx.withdraw hw) uris t h

theorem made (h : t.Linked) {listener : Listener} {o : Options} {r : Registry}
    (hr : t.registry.register modeluri listener o = some r) :
    Linked { t with registry := r, lines := t.lines ++ [.connecting] } := by
  obtain ⟨c, hmodel, -, hchannels, hregistered⟩ := Registry.register_eq_some hr
  have hold : ∀ m u, t.registry.modeluri? m = some u → r.modeluri? m = some u := by
    intro m u hm
    have hlt := h.lt_of_modeluri? hm
    rw [Registry.modeluri?_concat hchannels, ← h.aligned, if_neg (Nat.ne_of_lt hlt), hm]
  refine ⟨?_, ?_, ?_, ?_, ?_⟩
  · simp [hchannels, h.aligned]
  · simp only [hregistered]
    exact Entries.Distinct.insert h.distinct _ _
  · intro u m hu
    simp only [hregistered] at hu
    by_cases hne : u = modeluri
    · subst hne
      rw [Entries.get?_insert_self, Option.some.injEq] at hu
      rw [Registry.modeluri?_concat hchannels, if_pos hu.symm, hmodel]
    · rw [Entries.get?_insert_of_ne _ _ hne] at hu
      exact hold m u (h.registered u m hu)
  · intro w hw
    exact hold _ _ (h.withdrawn w hw)
  · intro w hw count hcount
    have hle := h.counted w hw count hcount
    simp only [hchannels, List.length_append]
    exact Nat.le_add_right_of_le hle

theorem answer (h : t.Linked) {k : Nat} {w : Withdrawal} (hw : t.withdrawals[k]? = some w) :
    (t.answer k w).Linked := by
  refine h.of_touches (n := 0) (.refl h.distinct) rfl fun v hv => ?_
  rcases mem_withdrawals_answer hv with hv | rfl
  · exact ⟨h.withdrawn v hv, h.counted v hv⟩
  · refine ⟨h.withdrawn w (List.mem_of_getElem? hw), fun count hcount => ?_⟩
    exact Nat.le_of_eq (Option.some.inj hcount).symm

theorem change (h : t.Linked) (hc : Change t t') : t'.Linked := by
  cases hc with
  | none => exact h
  | signal n s => exact h.signal n s
  | made _ hr => exact h.made hr
  | ended uris => exact h.endEach uris
  | answered hw _ _ => exact (h.answer hw).endEach _

/-- **Every happening keeps the links.** -/
theorem next (h : t.Linked) (happening : Happening) : (t.next happening).Linked :=
  h.change (change_next t happening)

theorem run (h : t.Linked) (hs : List Happening) : (t.run hs).Linked := by
  induction hs generalizing t with
  | nil => exact h
  | cons happening rest ih => exact ih (h.next happening)

/-- Ending subscriptions makes no channel, and the models of the channels stay. -/
theorem same_channels_endEach (h : t.Linked) (uris : List String) :
    (Traffic.endEach uris t).registry.channels.length = t.registry.channels.length ∧
      ∀ m, (Traffic.endEach uris t).registry.modeluri? m = t.registry.modeluri? m := by
  refine (endEach_induction (P := fun x => x.Linked ∧
    x.registry.channels.length = t.registry.channels.length ∧
      ∀ m, x.registry.modeluri? m = t.registry.modeluri? m) ?_ uris t ⟨h, rfl, fun _ => rfl⟩).2
  intro x x' modeluri rest n ⟨hx, hlength, hmodel⟩ hw
  have ht := touches_withdraw hx.distinct hw
  exact ⟨hx.withdraw hw, ht.length.trans hlength, fun m => (ht.modeluri? m).trans (hmodel m)⟩

end Linked

/-! ## Calls that run alone -/

theorem respond_connected (address : String) (attempt : Option Failure) :
    (Line.connecting.respond address (.connected attempt)).2 =
      (({ address := "" } : Socket).open attempt).2 := by
  rcases attempt with _ | failure
  · rfl
  · cases failure <;> rfl

theorem respond?_of_no_line (h : t.lines[n]? = none) (s : Signal) : t.respond? n s = none := by
  unfold respond?
  rw [h]
  cases t.registry.channels[n]? <;> rfl

/-- **Subscribing alone.** A call that subscribes while nothing else happens does what the registry
does in one step. -/
theorem subscribe_alone (h : t.Linked) (modeluri : String) (listener : Listener) (o : Options)
    (attempt : Option Failure) :
    ((t.subscribe modeluri listener o).signal t.lines.length (.connected attempt)).registry =
      (t.registry.subscribe
        (fun _ => { conduct with opening := (({ address := "" } : Socket).open attempt).2 })
        modeluri listener o).registry := by
  have hnew : t.lines[t.lines.length]? = none := List.getElem?_eq_none (Nat.le_refl _)
  unfold subscribe Registry.subscribe
  by_cases hsubscribed : t.registry.isSubscribed modeluri = true
  · rw [if_pos hsubscribed, if_pos hsubscribed, signal_of_none (respond?_of_no_line hnew _)]
    split <;> rfl
  · rw [if_neg hsubscribed, if_neg hsubscribed]
    cases hr : t.registry.register modeluri listener o with
    | none =>
      simp only
      rw [signal_of_none (respond?_of_no_line hnew _)]
    | some r =>
      obtain ⟨c, -, -, hchannels, -⟩ := Registry.register_eq_some hr
      have hresponse : (Traffic.mk r (t.lines ++ [.connecting]) t.withdrawals).respond?
          t.lines.length (.connected attempt) =
            some (_, (Line.connecting.respond c.address (.connected attempt)).2) :=
        respond?_eq_some.2 ⟨c, .connecting, by simp [hchannels, h.aligned], by simp, rfl⟩
      rw [respond_connected] at hresponse
      simp only
      rw [signal_registry hresponse, h.aligned]
      generalize (({ address := "" } : Socket).open attempt).2 = response
      have hreport := Registry.report_failure (n := t.registry.channels.length) response.events r
      rcases hx : r.report true t.registry.channels.length response.events with ⟨next, ds, failure⟩
      rw [hx] at hreport
      cases hreport
      cases hfailure : response.failure <;>
        simp [Registry.respond, conduct, hx, hfailure, Registry.close, Registry.report]

/-- **Ending alone.** A call that ends a subscription while nothing else happens does what the
registry does in one step. -/
theorem unsubscribe_alone (h : t.Linked) (e : Ending)
    (hn : t.registry.registered.get? modeluri = some n) (hc : t.isConnecting n = false) :
    ((endEach [modeluri] t).signal n (.ended e)).registry =
      (t.registry.unsubscribe
        (fun _ => { conduct with closing := { events := if t.isLive n then e.events else [] } })
        modeluri).registry := by
  have hwithdraw : t.registry.withdraw modeluri =
      some ({ t.registry with registered := t.registry.registered.erase modeluri }, n) := by
    rw [Registry.withdraw, hn]
    rfl
  obtain ⟨t', ht'⟩ : ∃ t', t.withdraw modeluri [] = some (n, t') := by
    rw [withdraw, hwithdraw]
    exact ⟨_, rfl⟩
  obtain ⟨r, hr, hregistry, hlines, -⟩ := withdraw_eq_some ht'
  have hend : endEach [modeluri] t = t' := by
    rw [endEach, ht']
    exact ite_self t'
  have hlt := h.lt_of_modeluri? (h.registered modeluri n hn)
  have hlinked := h.withdraw ht'
  have hc' : n < t'.registry.channels.length := by
    rw [← hlinked.aligned, hlines]
    exact hlt
  cases hl : t.lines[n]? with
  | none => exact absurd hlt (Nat.not_lt_of_le (List.getElem?_eq_none_iff.1 hl))
  | some l =>
    cases l with
    | connecting => simp [isConnecting, hl, Line.isConnecting] at hc
    | settled socket =>
      have hlive : t.isLive n = socket.isOpen := by
        unfold isLive
        rw [hl]
        rfl
      have hresponse : t'.respond? n (.ended e) =
          some (.settled (socket.finish e).1, (socket.finish e).2) :=
        respond?_eq_some.2
          ⟨_, .settled socket, List.getElem?_eq_getElem hc', by rw [hlines, hl], rfl⟩
      have hfinish : (socket.finish e).2 = { events := if socket.isOpen then e.events else [] } := by
        unfold Socket.finish
        cases socket.isOpen <;> rfl
      rw [hend, signal_registry hresponse, hfinish, if_pos rfl, hlive, hregistry]
      cases hwithdraw.symm.trans hr
      unfold Registry.unsubscribe
      rw [hwithdraw]
      rfl

end RemoteModel.Subscription.Traffic
