import RemoteModel.Proofs.Subscription.Linked

/-!
# Calls and connections take turns

In a considerate run no call subscribes to a model while a call waits that ends a subscription of
it, and no call ends a subscription whose own call still waits for its connection.

**The invariant.** Such a run keeps the calls and the connections in order (`Orderly.run`):

* *accounts*: a connection that is not over is that of the registered channel of its model, or a
  call waits for its end;
* *turns*: a model whose subscription is being ended has no registered channel, and all calls
  that wait wait for one channel of it; and
* *ends*: when a caller has been told, all connections of the model are over until a channel is
  made for it again.
-/

namespace RemoteModel.Subscription.Traffic

open Registry (Touches)

variable {t t' : Traffic} {n m : Nat} {modeluri : String} {rest : List String}

/-! ## Considerate runs -/

/-- The model for which a happening makes a channel. -/
def made? (t : Traffic) (h : Happening) : Option String :=
  (t.next h).registry.modeluri? t.registry.channels.length

/-- A call has regard for the calls that wait. -/
structure Considerate (t : Traffic) (h : Happening) : Prop where
  /-- No channel is made for a model while a call waits that ends a subscription of it. -/
  making : ∀ w ∈ t.withdrawals, t.made? h = some w.modeluri → w.answered ≠ none
  /-- No subscription is ended while its own call waits for the connection. -/
  ending : ∀ w ∈ (t.next h).withdrawals, (t.next h).isConnecting w.channel = false

/-- All calls of a run have regard for the calls that wait. -/
def ConsiderateRun : Traffic → List Happening → Prop
  | _, [] => True
  | t, h :: rest => Considerate t h ∧ ConsiderateRun (t.next h) rest

instance (t : Traffic) (h : Happening) : Decidable (Considerate t h) :=
  decidable_of_iff
    ((∀ w ∈ t.withdrawals, t.made? h = some w.modeluri → w.answered ≠ none) ∧
      ∀ w ∈ (t.next h).withdrawals, (t.next h).isConnecting w.channel = false)
    ⟨fun hc => ⟨hc.1, hc.2⟩, fun hc => ⟨hc.making, hc.ending⟩⟩

instance decidableConsiderateRun :
    (t : Traffic) → (hs : List Happening) → Decidable (ConsiderateRun t hs)
  | _, [] => isTrue trivial
  | t, h :: rest =>
    have := decidableConsiderateRun (t.next h) rest
    inferInstanceAs (Decidable (_ ∧ _))

/-! ## The invariant -/

/-- The calls that wait and the connections that are not over take turns. -/
structure Orderly (t : Traffic) : Prop extends t.Linked where
  patient : ∀ w ∈ t.withdrawals, t.isConnecting w.channel = false
  accounted : ∀ n, t.isBusy n = true →
    (∃ u, t.registry.Holds u n) ∨ ∃ w ∈ t.withdrawals, w.answered = none ∧ w.channel = n
  alone : ∀ w ∈ t.withdrawals, w.answered = none → t.registry.registered.get? w.modeluri = none
  once : ∀ w ∈ t.withdrawals, ∀ v ∈ t.withdrawals, w.answered = none → v.answered = none →
    w.modeluri = v.modeluri → w.channel = v.channel
  ended : ∀ w ∈ t.withdrawals, ∀ count, w.answered = some count →
    (∀ n, t.registry.modeluri? n = some w.modeluri → n < count) →
      ∀ n, t.registry.modeluri? n = some w.modeluri → t.isBusy n = false

namespace Orderly

theorem start (baseUrl defaultFormat : String) : (start baseUrl defaultFormat).Orderly where
  toLinked := Linked.start baseUrl defaultFormat
  patient _ h := by cases h
  accounted _ h := by cases h
  alone _ h := by cases h
  once _ h := by cases h
  ended _ h := by cases h

/-- The channel whose connection is not over, if the subscription of its model is registered. -/
theorem eq_of_registered (h : t.Orderly) (hu : t.registry.registered.get? modeluri = some n)
    (hm : t.registry.modeluri? m = some modeluri) (hbusy : t.isBusy m = true) : m = n := by
  rcases h.accounted m hbusy with ⟨u, hget, -⟩ | ⟨w, hw, hwaits, rfl⟩
  · have hmodel : u = modeluri := Option.some.inj ((h.registered u m hget).symm.trans hm)
    subst hmodel
    exact Option.some.inj (hget.symm.trans hu)
  · have hmodel : w.modeluri = modeluri := Option.some.inj ((h.withdrawn w hw).symm.trans hm)
    rw [← hmodel, h.alone w hw hwaits] at hu
    cases hu

/-- The channel whose connection is not over, if a call ends the subscription of its model. -/
theorem eq_of_waiting (h : t.Orderly) {w : Withdrawal} (hw : w ∈ t.withdrawals)
    (hwaits : w.answered = none) (hm : t.registry.modeluri? m = some w.modeluri)
    (hbusy : t.isBusy m = true) : m = w.channel := by
  rcases h.accounted m hbusy with ⟨u, hget, -⟩ | ⟨v, hv, hvwaits, rfl⟩
  · have hmodel : u = w.modeluri := Option.some.inj ((h.registered u m hget).symm.trans hm)
    rw [hmodel, h.alone w hw hwaits] at hget
    cases hget
  · have hmodel : v.modeluri = w.modeluri := Option.some.inj ((h.withdrawn v hv).symm.trans hm)
    exact h.once v hv w hw hvwaits hwaits hmodel

/-! ## Each happening -/

theorem signal (h : t.Orderly) (n : Nat) (s : Signal) : (t.signal n s).Orderly where
  toLinked := h.toLinked.signal n s
  patient w hw := by
    rw [signal_withdrawals] at hw
    refine Bool.eq_false_iff.2 fun hc => ?_
    exact absurd (isConnecting_of_signal hc) (by simp [h.patient w hw])
  accounted m hm := by
    rw [signal_withdrawals]
    rcases h.accounted m (isBusy_of_signal hm) with ⟨u, hu⟩ | hw
    · exact .inl ⟨u, holds_signal h.distinct hm hu⟩
    · exact .inr hw
  alone w hw hwaits := by
    rw [signal_withdrawals] at hw
    exact (touches_signal h.distinct n s).get?_eq_none (h.alone w hw hwaits)
  once w hw v hv := by
    rw [signal_withdrawals] at hw hv
    exact h.once w hw v hv
  ended w hw count hcount hlast m hm := by
    rw [signal_withdrawals] at hw
    have hmodel := (touches_signal h.distinct n s).modeluri?
    rw [hmodel] at hm
    have hover := h.ended w hw count hcount (fun k hk => hlast k ((hmodel k).trans hk)) m hm
    refine Bool.eq_false_iff.2 fun hbusy => ?_
    exact absurd (isBusy_of_signal hbusy) (by simp [hover])

/-- A call ends the subscription of a model whose connection has been made. -/
theorem withdraw (h : t.Orderly) (hw : t.withdraw modeluri rest = some (n, t'))
    (hn : t.isConnecting n = false) : t'.Orderly := by
  have ht := touches_withdraw h.distinct hw
  have hregistered := get?_of_withdraw hw
  obtain ⟨r, -, -, hlines, hwithdrawals⟩ := withdraw_eq_some hw
  have hmem : ∀ v, v ∈ t'.withdrawals ↔ v ∈ t.withdrawals ∨ v = t.withdrawal modeluri n rest := by
    intro v
    rw [hwithdrawals, List.mem_append, List.mem_singleton]
  -- No call waits for the model, since it is registered.
  have hfirst : ∀ v ∈ t.withdrawals, v.answered = none → v.modeluri ≠ modeluri := by
    rintro v hv hwaits rfl
    exact absurd (h.alone v hv hwaits) (by simp [hregistered])
  refine ⟨h.toLinked.withdraw hw, ?_, ?_, ?_, ?_, ?_⟩
  · intro v hv
    rw [isConnecting_congr hlines]
    rcases (hmem v).1 hv with hv | rfl
    · exact h.patient v hv
    · exact hn
  · intro m hm
    rw [isBusy_congr hlines] at hm
    rcases h.accounted m hm with ⟨u, hu⟩ | ⟨v, hv, hwaits⟩
    · by_cases hmn : m = n
      · subst hmn
        refine .inr ⟨_, (hmem _).2 (.inr rfl), answered_eq_none.2 ?_, rfl⟩
        cases hlive : t.isLive m with
        | true => rfl
        | false => rw [isBusy_eq_false hn hlive] at hm; cases hm
      · exact .inl ⟨u, hu.touches hmn ht⟩
    · exact .inr ⟨v, (hmem v).2 (.inl hv), hwaits⟩
  · intro v hv hwaits
    rcases (hmem v).1 hv with hv | rfl
    · exact ht.get?_eq_none (h.alone v hv hwaits)
    · exact get?_withdraw h.distinct hw
  · intro v hv v' hv' hwaits hwaits' hmodel
    rcases (hmem v).1 hv with hv | rfl <;> rcases (hmem v').1 hv' with hv' | rfl
    · exact h.once v hv v' hv' hwaits hwaits' hmodel
    · exact absurd hmodel (hfirst v hv hwaits)
    · exact absurd hmodel.symm (hfirst v' hv' hwaits')
    · rfl
  · intro v hv count hcount hlast m hm
    rw [isBusy_congr hlines]
    rw [ht.modeluri?] at hm
    rcases (hmem v).1 hv with hv | rfl
    · exact h.ended v hv count hcount (fun k hk => hlast k ((ht.modeluri? k).trans hk)) m hm
    · refine Bool.eq_false_iff.2 fun hbusy => ?_
      have hmn := h.eq_of_registered hregistered hm hbusy
      subst hmn
      have hlive : t.isLive m = false :=
        Bool.eq_false_iff.2 fun hlive => by simp [answered_eq_none.2 hlive] at hcount
      rw [isBusy_eq_false hn hlive] at hbusy
      cases hbusy

theorem endEach (h : t.Orderly) (uris : List String)
    (hpatient : ∀ w ∈ (endEach uris t).withdrawals, t.isConnecting w.channel = false) :
    (endEach uris t).Orderly := by
  induction uris generalizing t with
  | nil => exact h
  | cons modeluri rest ih =>
    rw [Traffic.endEach] at hpatient ⊢
    cases hw : t.withdraw modeluri rest with
    | none =>
      rw [hw] at hpatient
      exact ih h hpatient
    | some after =>
      obtain ⟨n, t'⟩ := after
      rw [hw] at hpatient
      obtain ⟨r, -, -, hlines, hwithdrawals⟩ := withdraw_eq_some hw
      have hmem : t.withdrawal modeluri n rest ∈ t'.withdrawals := by
        rw [hwithdrawals]
        exact List.mem_append_right _ List.mem_cons_self
      simp only at hpatient ⊢
      split at hpatient
      · rw [if_pos ‹_›]
        exact h.withdraw hw (hpatient _ hmem)
      · rw [if_neg ‹_›]
        refine ih (h.withdraw hw (hpatient _ (mem_withdrawals_endEach rest hmem))) fun v hv => ?_
        rw [isConnecting_congr hlines]
        exact hpatient v hv

/-- A caller who has waited is told that the subscription has ended. -/
theorem answer (h : t.Orderly) {k : Nat} {w : Withdrawal} (hw : t.withdrawals[k]? = some w)
    (hwaits : w.answered = none) (hlive : t.isLive w.channel = false) : (t.answer k w).Orderly := by
  have hwmem := List.mem_of_getElem? hw
  have hover : t.isBusy w.channel = false := isBusy_eq_false (h.patient w hwmem) hlive
  -- A withdrawal that waits has waited before.
  have hstill : ∀ v ∈ (t.answer k w).withdrawals, v.answered = none → v ∈ t.withdrawals := by
    intro v hv hvwaits
    rcases mem_withdrawals_answer hv with hv | rfl
    · exact hv
    · cases hvwaits
  refine ⟨h.toLinked.answer hw, ?_, ?_, ?_, ?_, ?_⟩
  · intro v hv
    rcases mem_withdrawals_answer hv with hv | rfl
    · exact h.patient v hv
    · exact h.patient w hwmem
  · intro m hm
    rcases h.accounted m hm with hu | ⟨v, hv, hvwaits, rfl⟩
    · exact .inl hu
    · obtain ⟨j, hj⟩ := List.getElem?_of_mem hv
      refine .inr ⟨v, List.mem_of_getElem? (i := j) ?_, hvwaits, rfl⟩
      have hjk : k ≠ j := by
        rintro rfl
        cases hw.symm.trans hj
        exact absurd (show t.isBusy w.channel = true from hm) (by simp [hover])
      exact (List.getElem?_set_ne hjk).trans hj
  · intro v hv hvwaits
    exact h.alone v (hstill v hv hvwaits) hvwaits
  · intro v hv v' hv' hvwaits hvwaits' hmodel
    exact h.once v (hstill v hv hvwaits) v' (hstill v' hv' hvwaits') hvwaits hvwaits' hmodel
  · intro v hv count hcount hlast m hm
    rcases mem_withdrawals_answer hv with hv | rfl
    · exact h.ended v hv count hcount hlast m hm
    · refine Bool.eq_false_iff.2 fun hbusy => ?_
      rw [h.eq_of_waiting hwmem hwaits hm hbusy] at hbusy
      exact absurd (show t.isBusy w.channel = true from hbusy) (by simp [hover])

theorem made (h : t.Orderly) {listener : Listener} {o : Options} {r : Registry}
    (hfree : t.registry.isSubscribed modeluri = false)
    (hr : t.registry.register modeluri listener o = some r)
    (hmaking : ∀ w ∈ t.withdrawals,
      r.modeluri? t.registry.channels.length = some w.modeluri → w.answered ≠ none) :
    Orderly { t with registry := r, lines := t.lines ++ [.connecting] } := by
  obtain ⟨c, hmodel, hstate, hchannels, hregistered⟩ := Registry.register_eq_some hr
  have hmodeluri := Registry.modeluri?_concat hchannels
  rw [hmodel] at hmodeluri
  -- Calls that wait wait for other models.
  have hother : ∀ w ∈ t.withdrawals, w.answered = none → w.modeluri ≠ modeluri := by
    intro w hw hwaits hwmodel
    refine hmaking w hw ?_ hwaits
    rw [hmodeluri, if_pos rfl, hwmodel]
  refine ⟨h.toLinked.made hr, ?_, ?_, ?_, ?_, ?_⟩
  · intro w hw
    have hlt := h.lt_of_modeluri? (h.withdrawn w hw)
    have hpatient := h.patient w hw
    unfold isConnecting at hpatient ⊢
    simpa only [List.getElem?_append_left hlt] using hpatient
  · intro m hm
    rcases isBusy_of_lines_concat rfl hm with hm | rfl
    · rcases h.accounted m hm with ⟨u, hu⟩ | hw
      · have hne : u ≠ modeluri := by
          rintro rfl
          exact absurd hu.isSubscribed (by simp [hfree])
        obtain ⟨hget, c', hc', hopen⟩ := hu
        refine .inl ⟨u, ?_, c', ?_, hopen⟩
        · simpa only [hregistered, Entries.get?_insert_of_ne _ _ hne] using hget
        · have hlt := (List.getElem?_eq_some_iff.1 hc').1
          simpa only [hchannels, List.getElem?_append_left hlt] using hc'
      · exact .inr hw
    · refine .inl ⟨modeluri, ?_, c, ?_, ?_⟩
      · simp only [hregistered, h.aligned, Entries.get?_insert_self]
      · simp only [hchannels, h.aligned, List.getElem?_concat_length]
      · rw [hstate]
        exact State.noConfusion
  · intro w hw hwaits
    simpa only [hregistered, Entries.get?_insert_of_ne _ _ (hother w hw hwaits)] using
      h.alone w hw hwaits
  · exact h.once
  · intro w hw count hcount hlast m hm
    simp only [hmodeluri] at hlast hm
    have hcounted := h.counted w hw count hcount
    have hne : w.modeluri ≠ modeluri := by
      intro hwmodel
      have hlt := hlast t.registry.channels.length (by rw [if_pos rfl, hwmodel])
      exact absurd hcounted (Nat.not_le_of_lt hlt)
    have hold : ∀ k, t.registry.modeluri? k = some w.modeluri → k < count := by
      intro k hk
      refine hlast k ?_
      have hlt := h.lt_of_modeluri? hk
      rw [h.aligned] at hlt
      rw [if_neg (Nat.ne_of_lt hlt), hk]
    have hmold : m ≠ t.registry.channels.length := by
      rintro rfl
      rw [if_pos rfl, Option.some.injEq] at hm
      exact hne hm.symm
    rw [if_neg hmold] at hm
    have hover := h.ended w hw count hcount hold m hm
    refine Bool.eq_false_iff.2 fun hbusy => ?_
    rcases isBusy_of_lines_concat rfl hbusy with hbusy | heq
    · exact absurd hbusy (by simp [hover])
    · exact hmold (heq.trans h.aligned)

theorem change (h : t.Orderly) (hc : Change t t')
    (hmaking : ∀ w ∈ t.withdrawals,
      t'.registry.modeluri? t.registry.channels.length = some w.modeluri → w.answered ≠ none)
    (hending : ∀ w ∈ t'.withdrawals, t'.isConnecting w.channel = false) : t'.Orderly := by
  cases hc with
  | none => exact h
  | signal n s => exact h.signal n s
  | made hfree hr => exact h.made hfree hr hmaking
  | ended uris =>
    refine h.endEach uris fun w hw => ?_
    rw [← hending w hw]
    exact (isConnecting_congr (lines_endEach _ _) _).symm
  | answered hw hwaits hlive =>
    refine (h.answer hw hwaits hlive).endEach _ fun v hv => ?_
    rw [← hending v hv]
    exact (isConnecting_congr (lines_endEach _ _) _).symm

/-- **One happening.** A call that has regard for the calls that wait keeps the order. -/
theorem next (h : t.Orderly) {happening : Happening} (hc : Considerate t happening) :
    (t.next happening).Orderly :=
  h.change (change_next t happening) hc.making hc.ending

/-- **A run.** -/
theorem run {hs : List Happening} (h : t.Orderly) (hc : ConsiderateRun t hs) :
    (t.run hs).Orderly := by
  induction hs generalizing t with
  | nil => exact h
  | cons happening rest ih => exact ih (h.next hc.1) hc.2

end Orderly

end RemoteModel.Subscription.Traffic
