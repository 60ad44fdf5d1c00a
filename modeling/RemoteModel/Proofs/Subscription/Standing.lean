import RemoteModel.Proofs.Subscription.Switchboard

/-!
# Registered channels are not closed

**Main statement.** `registered_stand`: in every run of calls and events in which listeners take
what they are told, a registered model has a channel of its own that is not closed, so to be
registered and to be subscribed are the same. An event changes nothing but the state of its own
channel and ends no registration but that of its own channel.

The invariant is `Standing`. A move can break it only at the one channel that it touches
(`Standing.of_touches`), and whatever closes a channel takes it off the registry in the same
move: a report of a close that is taken, and a call that gives up its channel
(`get?_drop_ne`).
-/

namespace RemoteModel.Subscription

namespace Registry

variable {r r' : Registry} {n m : Nat} {modeluri : String}

/-- Each registered model has a channel that is not closed, and listeners take closes. -/
structure Standing (r : Registry) : Prop where
  distinct : r.registered.Distinct
  own : ∀ u n, r.registered.get? u = some n → r.modeluri? n = some u
  held : ∀ u n, r.registered.get? u = some n → r.Holds u n
  taken : ∀ p ∈ r.parties, ∀ code reason, p.2.fails (.closed code reason) = none

/-! ## Leaving the registry -/

theorem channels_drop : (r.drop n).channels = r.channels := by
  unfold drop
  cases r.channels[n]? with
  | none => rfl
  | some c => simp only; split <;> rfl

theorem get?_drop_ne (hd : r.registered.Distinct)
    (hown : r.registered.get? modeluri = some n → r.modeluri? n = some modeluri) :
    (r.drop n).registered.get? modeluri ≠ some n := by
  intro hget
  have hbefore := hown ((touches_drop hd).fewer modeluri n hget)
  obtain ⟨c, hc, hmodel⟩ := Option.map_eq_some_iff.1 hbefore
  simp only [drop, hc, hmodel] at hget
  by_cases h : r.registered.get? modeluri = some n
  · simp [h, Entries.get?_erase_self hd] at hget
  · rw [if_neg h] at hget
    exact h hget

theorem get?_abandon_ne (hd : r.registered.Distinct)
    (hown : r.registered.get? modeluri = some n → r.modeluri? n = some modeluri) :
    (r.abandon n).registered.get? modeluri ≠ some n := by
  have hclosed : Touches n r (r.modify n fun c => { c with state := .closed }) :=
    touches_modify hd fun _ => rfl
  refine get?_drop_ne hclosed.distinct fun hget => ?_
  rw [hclosed.modeluri?]
  exact hown hget

theorem notify_closed {c : Channel} {code : Int} {reason : String} (hc : r.channels[n]? = some c)
    (htaken : c.listener.fails (.closed code reason) = none) :
    (r.notify n (.closed code reason)).1 =
      (r.modify n fun c => { c with state := .closed }).drop n := by
  have hreact : (c.listener.react c.modeluri (.closed code reason)).2 = none := by
    unfold Listener.react
    cases c.listener.protocol with
    | none => exact htaken
    | some protocol => exact htaken
  simp only [notify, hc, hreact]
  rfl

/-! ## Edits -/

namespace Standing

/-- Only the channel that is touched has to be looked at. -/
theorem of_touches (h : r.Standing) (ht : Touches n r r') (hparties : r'.parties = r.parties)
    (hself : ∀ u, r'.registered.get? u = some n → r'.Holds u n) : r'.Standing where
  distinct := ht.distinct
  own u m hu := by
    rw [ht.modeluri?]
    exact h.own u m (ht.fewer u m hu)
  held u m hu := by
    by_cases hm : m = n
    · subst hm
      exact hself u hu
    · exact (h.held u m (ht.fewer u m hu)).touches hm ht
  taken p hp := h.taken p (hparties ▸ hp)

/-- A channel that is closed and dropped at once is not missed. -/
theorem closed_and_dropped (h : r.Standing) (n : Nat) :
    ((r.modify n fun c => { c with state := .closed }).drop n).Standing := by
  refine h.of_touches (touches_abandon h.distinct) parties_abandon fun u hu => ?_
  exact absurd hu (get?_abandon_ne h.distinct (h.own u n))

theorem notify (h : r.Standing) (n : Nat) (e : Event) : (r.notify n e).1.Standing := by
  by_cases he : ∃ code reason, e = .closed code reason
  · obtain ⟨code, reason, rfl⟩ := he
    cases hc : r.channels[n]? with
    | none => simpa [Registry.notify, hc] using h
    | some c =>
      have hmem : (c.modeluri, c.listener) ∈ r.parties :=
        List.mem_map_of_mem (f := fun c : Channel => (c.modeluri, c.listener))
          (List.mem_of_getElem? hc)
      rw [notify_closed hc (h.taken _ hmem code reason)]
      exact h.closed_and_dropped n
  · have ht := touches_notify (n := n) h.distinct e
    refine h.of_touches ht (parties_notify e) fun u hu => ?_
    exact (h.held u n (ht.fewer u n hu)).notify fun code reason heq => he ⟨code, reason, heq⟩

theorem withdraw (h : r.Standing) (hw : r.withdraw modeluri = some (r', n)) : r'.Standing := by
  have ht := touches_withdraw h.distinct hw
  obtain ⟨hget, rfl⟩ := withdraw_eq_some hw
  refine h.of_touches ht rfl fun u hu => ?_
  have hmodel : u = modeluri :=
    Option.some.inj ((h.own u n (ht.fewer u n hu)).symm.trans (h.own modeluri n hget))
  subst hmodel
  simp [Entries.get?_erase_self h.distinct] at hu

theorem modify (h : r.Standing) {f : Channel → Channel}
    (hf : ∀ c, (f c).modeluri = c.modeluri ∧ (f c).listener = c.listener ∧
      (f c).state = c.state) : (r.modify n f).Standing := by
  have ht : Touches n r (r.modify n f) := touches_modify h.distinct fun c => (hf c).1
  refine h.of_touches ht (parties_modify fun c => by rw [(hf c).1, (hf c).2.1]) fun u hu => ?_
  exact (h.held u n (ht.fewer u n hu)).modify fun c hc => by rwa [(hf c).2.2]

theorem edits (h : r.Standing) (hedits : Edits r r') : r'.Standing := by
  induction hedits with
  | refl => exact h
  | tail _ hedit ih =>
    cases hedit with
    | noted n e => exact ih.notify n e
    | abandoned n => exact ih.closed_and_dropped n
    | withdrawn hw => exact ih.withdraw hw
    | asked n => exact ih.modify fun _ => ⟨rfl, rfl, rfl⟩
    | handed n text => exact ih.modify fun _ => ⟨rfl, rfl, rfl⟩

theorem register (h : r.Standing) {listener : Listener} {o : Options}
    (htaken : ∀ code reason, listener.fails (.closed code reason) = none)
    (hr : r.register modeluri listener o = some r') : r'.Standing := by
  obtain ⟨c, hmodel, hstate, hchannels, hregistered⟩ := register_eq_some hr
  have hmodeluri := modeluri?_concat hchannels
  have hold : ∀ u n, u ≠ modeluri → r'.registered.get? u = some n →
      r.registered.get? u = some n := by
    intro u n hu hget
    rwa [hregistered, Entries.get?_insert_of_ne _ _ hu] at hget
  have hlt : ∀ u n, r.registered.get? u = some n → n < r.channels.length := by
    intro u n hget
    obtain ⟨-, c, hc, -⟩ := h.held u n hget
    exact (List.getElem?_eq_some_iff.1 hc).1
  refine ⟨?_, ?_, ?_, ?_⟩
  · rw [hregistered]
    exact h.distinct.insert modeluri _
  · intro u n hget
    rw [hmodeluri]
    by_cases hu : u = modeluri
    · subst hu
      rw [hregistered, Entries.get?_insert_self, Option.some.injEq] at hget
      rw [if_pos hget.symm, hmodel]
    · have hget' := hold u n hu hget
      rw [if_neg (Nat.ne_of_lt (hlt u n hget'))]
      exact h.own u n hget'
  · intro u n hget
    refine ⟨hget, ?_⟩
    by_cases hu : u = modeluri
    · subst hu
      rw [hregistered, Entries.get?_insert_self, Option.some.injEq] at hget
      subst hget
      refine ⟨c, ?_, ?_⟩
      · rw [hchannels]
        exact List.getElem?_concat_length
      · rw [hstate]
        exact State.noConfusion
    · have hget' := hold u n hu hget
      obtain ⟨-, c', hc', hopen⟩ := h.held u n hget'
      refine ⟨c', ?_, hopen⟩
      rwa [hchannels, List.getElem?_append_left (hlt u n hget')]
  · intro p hp
    rw [parties_register hr, List.mem_append, List.mem_singleton] at hp
    rcases hp with hp | rfl
    · exact h.taken p hp
    · exact htaken

theorem isSubscribed_iff (h : r.Standing) (modeluri : String) :
    r.isSubscribed modeluri = true ↔ modeluri ∈ r.registered.names := by
  constructor
  · intro hsub
    by_cases hmem : modeluri ∈ r.registered.names
    · exact hmem
    · have hnone := Entries.get?_eq_none hmem
      simp [Registry.isSubscribed, state, channel?, hnone] at hsub
  · intro hmem
    obtain ⟨⟨u, n⟩, hentry, rfl⟩ := List.mem_map.1 hmem
    exact (h.held u n (Entries.get?_of_mem h.distinct hentry)).isSubscribed

end Standing

end Registry

namespace Switchboard

open Registry (Standing)

variable {t t' : Switchboard}

theorem Turn.standing {m : Move} (hturn : Turn t m t') (h : t.registry.Standing)
    (htaken : ∀ modeluri listener o making, m = .subscribe modeluri listener o making →
      ∀ e, listener.fails e = none) : t'.registry.Standing := by
  cases hturn with
  | made hmakes hr => exact h.register (fun code reason => htaken _ _ _ _ rfl _) hr
  | edited hedits _ _ => exact h.edits hedits

theorem standing_run (h : t.registry.Standing) (ms : List Move)
    (htaken : ∀ modeluri listener o making, .subscribe modeluri listener o making ∈ ms →
      ∀ e, listener.fails e = none) : (t.run ms).registry.Standing := by
  induction ms generalizing t with
  | nil => exact h
  | cons m rest ih =>
    have hnext := (turn_next t m).standing h fun modeluri listener o making hm =>
      htaken modeluri listener o making (hm ▸ List.mem_cons_self)
    exact ih hnext fun modeluri listener o making hm =>
      htaken modeluri listener o making (List.mem_cons_of_mem _ hm)

theorem standing_start (baseUrl defaultFormat : String) :
    (start baseUrl defaultFormat).registry.Standing where
  distinct := List.nodup_nil
  own _ _ h := by cases h
  held _ _ h := by cases h
  taken _ h := by cases h

/-- **Registered channels are not closed.** After a run of calls and events in which listeners
take what they are told, a registered model has a channel that is not closed; to be registered, to
be subscribed and to be listed as subscribed are the same; and an event of any channel changes the
state of that channel alone, registers nothing, and leaves the registrations of all other channels
as they were. -/
theorem registered_stand (baseUrl defaultFormat : String) (ms : List Move)
    (htaken : ∀ modeluri listener o making, .subscribe modeluri listener o making ∈ ms →
      ∀ e, listener.fails e = none) :
    let r := ((start baseUrl defaultFormat).run ms).registry
    (∀ modeluri n, (modeluri, n) ∈ r.registered →
      ∃ c, r.channels[n]? = some c ∧ c.modeluri = modeluri ∧ c.state ≠ .closed) ∧
    (∀ modeluri, (r.isSubscribed modeluri = true ↔ modeluri ∈ r.registered.names) ∧
      (modeluri ∈ r.subscribed ↔ modeluri ∈ r.registered.names)) ∧
    ∀ n e, let r' := (r.notify n e).1
      r'.channels = r.channels.modify n (fun c => { c with state := c.state.after e }) ∧
      (∀ modeluri m, r'.registered.get? modeluri = some m →
        r.registered.get? modeluri = some m) ∧
      ∀ modeluri m, m ≠ n → r.registered.get? modeluri = some m →
        r'.registered.get? modeluri = some m := by
  intro r
  have h : r.Standing := standing_run (standing_start baseUrl defaultFormat) ms htaken
  refine ⟨?_, ?_, ?_⟩
  · intro modeluri n hentry
    have hget := Entries.get?_of_mem h.distinct hentry
    obtain ⟨-, c, hc, hopen⟩ := h.held modeluri n hget
    have hmodel := h.own modeluri n hget
    simp only [Registry.modeluri?, hc, Option.map_some, Option.some.injEq] at hmodel
    exact ⟨c, hc, hmodel, hopen⟩
  · intro modeluri
    refine ⟨h.isSubscribed_iff modeluri, ?_⟩
    rw [Registry.subscribed, List.mem_filter, h.isSubscribed_iff, and_self]
  · intro n e r'
    have ht := Registry.touches_notify (n := n) h.distinct e
    refine ⟨?_, ht.fewer, ht.kept⟩
    rcases Registry.notify_fst r n e with hfst | ⟨-, hfst⟩
    · exact congrArg Registry.channels hfst
    · exact (congrArg Registry.channels hfst).trans Registry.channels_drop

/-- A channel that has been replaced reports a close: its successor stays registered. -/
theorem registered_stand_replaced :
    let ms : List Move :=
      [.subscribe "m" { protocol := some .v2 } {} none, .unsubscribe "m",
        .subscribe "m" { protocol := some .v2 } {} none, .event 0 (.closed 1000 "")]
    let r := ((start "http://h/" "json").run ms).registry
    r.registered = [("m", 1)] ∧ r.isSubscribed "m" = true ∧
      ∃ c, r.channels[1]? = some c ∧ c.modeluri = "m" ∧ c.state ≠ .closed := by
  intro ms r
  have htaken : ∀ modeluri listener o making,
      .subscribe modeluri listener o making ∈ ms → ∀ e, listener.fails e = none := by
    intro modeluri listener o making hmem e
    simp only [ms, List.mem_cons, Move.subscribe.injEq, reduceCtorEq, List.not_mem_nil, or_false,
      false_or] at hmem
    rcases hmem with ⟨-, rfl, -, -⟩ | ⟨-, rfl, -, -⟩ <;> rfl
  have hregistered : r.registered = [("m", 1)] := by decide +kernel
  obtain ⟨hown, hsame, -⟩ := registered_stand "http://h/" "json" ms htaken
  refine ⟨hregistered, (hsame "m").1.2 ?_, hown "m" 1 ?_⟩
  · show "m" ∈ r.registered.names
    rw [hregistered]
    exact List.mem_singleton_self "m"
  · show ("m", 1) ∈ r.registered
    rw [hregistered]
    exact List.mem_singleton_self ("m", 1)

end Switchboard

end RemoteModel.Subscription
