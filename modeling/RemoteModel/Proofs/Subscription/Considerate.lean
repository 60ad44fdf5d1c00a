import RemoteModel.Proofs.Subscription.Orderly

/-!
# One connection for each model

A client is to have at most one live connection for a model (`Exclusive`), and none once a caller
has been told that the subscription has ended (`Quiet`). Neither holds of every run: a channel
that is asked to close while it is connecting goes on connecting, and a subscription that is being
ended leaves its model free for the next one at once.

**Theorem (`considerate_runs`).** Both hold at every moment of a run in which no call subscribes to
a model while a call waits that ends a subscription of it, and no call ends a subscription whose
own call still waits for its connection. Every other run has a beginning from which the calls that
have started, and the network, can go on to a moment where one of them fails.

The first half follows from the order that such a run keeps (`Orderly`). For the second half the
first call without regard is found, and the attempt that it has overlooked ends in a connection.
-/

namespace RemoteModel.Subscription

/-- No call starts: the network does something, or a call goes on. -/
def Happening.IsCompletion : Happening → Prop
  | signal _ _ => True
  | resume _ => True
  | _ => False

namespace Traffic

open Registry (Touches)

variable {t t' : Traffic} {n m : Nat} {modeluri : String} {rest : List String}

/-! ## What is expected -/

/-- At most one connection of a model is live. -/
def Exclusive (t : Traffic) : Prop :=
  ∀ n m u, t.isLive n = true → t.isLive m = true →
    t.registry.modeluri? n = some u → t.registry.modeluri? m = some u → n = m

/-- Once a caller has been told that a subscription has ended, and as long as no channel is made
for the model again, no connection of the model is live and its listeners are told neither that
one has opened nor of a frame. -/
def Quiet (t : Traffic) : Prop :=
  ∀ w ∈ t.withdrawals, ∀ count, w.answered = some count →
    (∀ n, t.registry.modeluri? n = some w.modeluri → n < count) →
      ∀ n, t.registry.modeluri? n = some w.modeluri →
        t.isLive n = false ∧
          ∀ s, .opened ∉ t.told n s ∧ ∀ frame, .arrived frame ∉ t.told n s

namespace Orderly

theorem exclusive (h : t.Orderly) : t.Exclusive := by
  intro n m u hn hm hnu hmu
  have hnbusy := isBusy_of_isLive hn
  have hmbusy := isBusy_of_isLive hm
  rcases h.accounted n hnbusy with ⟨v, hget, -⟩ | ⟨w, hw, hwaits, rfl⟩
  · have hmodel : v = u := Option.some.inj ((h.registered v n hget).symm.trans hnu)
    exact (h.eq_of_registered (hmodel ▸ hget) hmu hmbusy).symm
  · have hmodel : w.modeluri = u := Option.some.inj ((h.withdrawn w hw).symm.trans hnu)
    exact (h.eq_of_waiting hw hwaits (hmodel ▸ hmu) hmbusy).symm

theorem quiet (h : t.Orderly) : t.Quiet := by
  intro w hw count hcount hlast n hn
  have hover := h.ended w hw count hcount hlast n hn
  refine ⟨?_, fun s => ?_⟩
  · cases hlive : t.isLive n with
    | false => rfl
    | true => exact absurd (isBusy_of_isLive hlive) (by simp [hover])
  · rw [told_of_over hover]
    exact ⟨List.not_mem_nil, fun _ => List.not_mem_nil⟩

end Orderly

/-! ## Runs without regard -/

theorem exists_first_of_not_considerate {hs : List Happening} (h : ¬ ConsiderateRun t hs) :
    ∃ p happening q, hs = p ++ happening :: q ∧ ConsiderateRun t p ∧
      ¬ Considerate (t.run p) happening := by
  induction hs generalizing t with
  | nil => exact absurd trivial h
  | cons happening rest ih =>
    by_cases hc : Considerate t happening
    · obtain ⟨p, x, q, rfl, hp, hx⟩ := ih fun hrest => h ⟨hc, hrest⟩
      exact ⟨happening :: p, x, q, rfl, ⟨hc, hp⟩, hx⟩
    · exact ⟨[], happening, rest, rfl, trivial, hc⟩

theorem considerateRun_of_append {p q : List Happening} (h : ConsiderateRun t (p ++ q)) :
    ConsiderateRun t p := by
  induction p generalizing t with
  | nil => trivial
  | cons happening p ih => exact ⟨h.1, ih h.2⟩

/-- An attempt may end in a connection. -/
theorem isLive_signal_connected (h : t.Linked) (hn : t.isConnecting n = true) :
    (t.signal n (.connected none)).isLive n = true := by
  unfold isConnecting at hn
  cases hl : t.lines[n]? with
  | none => simp [hl] at hn
  | some l =>
    rw [hl] at hn
    cases l with
    | settled socket => cases hn
    | connecting =>
      have hlt : n < t.registry.channels.length :=
        h.aligned ▸ (List.getElem?_eq_some_iff.1 hl).1
      have hr := respond?_eq_some.2
        ⟨_, _, List.getElem?_eq_getElem hlt, hl, (rfl : _ = Line.respond _ _ (.connected none))⟩
      unfold isLive
      rw [signal_line_self hr]
      rfl

theorem not_quiet (h : t.Linked) {w : Withdrawal} (hw : w ∈ t.withdrawals)
    (hanswered : w.answered = some t.registry.channels.length)
    (hmodel : t.registry.modeluri? n = some w.modeluri) (hlive : t.isLive n = true) :
    ¬ t.Quiet := by
  intro hquiet
  have hlast : ∀ m, t.registry.modeluri? m = some w.modeluri → m < t.registry.channels.length :=
    fun m hm => h.aligned ▸ h.lt_of_modeluri? hm
  have hover := (hquiet w hw _ hanswered hlast n hmodel).1
  rw [hover] at hlive
  cases hlive

/-- Two connections of a model become live, or a call that waits goes on while one is live. -/
theorem exists_failure_of_waiting (h : t.Linked) {w : Withdrawal} (hw : w ∈ t.withdrawals)
    (hwaits : w.answered = none) (hn : t.isConnecting n = true)
    (hmodel : t.registry.modeluri? n = some w.modeluri) (hne : w.channel ≠ n) :
    ∃ q : List Happening, (∀ x ∈ q, x.IsCompletion) ∧
      ¬ ((t.run q).Exclusive ∧ (t.run q).Quiet) := by
  have hlive := isLive_signal_connected h hn
  have hlinked := h.signal n (.connected none)
  have ht := touches_signal h.distinct n (.connected none)
  have hw' : w ∈ (t.signal n (.connected none)).withdrawals := by rwa [signal_withdrawals]
  have hmodel' := (ht.modeluri? n).trans hmodel
  generalize hu : t.signal n (.connected none) = u at *
  cases hwlive : u.isLive w.channel with
  | true =>
    refine ⟨[.signal n (.connected none)], by simp [Happening.IsCompletion], fun hboth => hne ?_⟩
    rw [show t.run [.signal n (.connected none)] = u from hu] at hboth
    exact hboth.1 w.channel n w.modeluri hwlive hlive (hlinked.withdrawn w hw') hmodel'
  | false =>
    obtain ⟨k, hk⟩ := List.getElem?_of_mem hw'
    refine ⟨[.signal n (.connected none), .resume k], by simp [Happening.IsCompletion],
      fun hboth => ?_⟩
    have hresume : u.resume k = endEach w.rest (u.answer k w) := by
      unfold resume
      rw [hk]
      exact if_pos ⟨hwaits, hwlive⟩
    rw [show t.run [.signal n (.connected none), .resume k] = u.resume k by rw [← hu]; rfl,
      hresume] at hboth
    have hanswer := hlinked.answer hk
    obtain ⟨hlength, hsame⟩ := hanswer.same_channels_endEach w.rest
    have hv : { w with answered := some u.registry.channels.length } ∈
        (endEach w.rest (u.answer k w)).withdrawals :=
      mem_withdrawals_endEach w.rest
        (List.mem_set (List.getElem?_eq_some_iff.1 hk).1 _)
    refine not_quiet (n := n) (hanswer.endEach w.rest) hv ?_ ?_ ?_ hboth.2
    · rw [hlength]
      rfl
    · exact (hsame n).trans hmodel'
    · rw [isLive_congr (lines_endEach _ _)]
      exact hlive

/-- A connection becomes live after its subscription has ended. -/
theorem exists_failure_of_connecting (h : t.Linked) {w : Withdrawal} (hw : w ∈ t.withdrawals)
    (hanswered : w.answered = some t.registry.channels.length)
    (hc : t.isConnecting w.channel = true) :
    ∃ q : List Happening, (∀ x ∈ q, x.IsCompletion) ∧
      ¬ ((t.run q).Exclusive ∧ (t.run q).Quiet) := by
  refine ⟨[.signal w.channel (.connected none)], by simp [Happening.IsCompletion],
    fun hboth => ?_⟩
  have ht := touches_signal h.distinct w.channel (.connected none)
  refine not_quiet (w := w) (n := w.channel) (h.signal _ _) ?_ ?_ ?_
    (isLive_signal_connected h hc) hboth.2
  · rwa [signal_withdrawals]
  · rw [ht.length, hanswered]
  · exact (ht.modeluri? _).trans (h.withdrawn w hw)

/-- A call does not wait for a connection that is being made. -/
theorem answered_endEach (h : t.Linked) {uris : List String} {w : Withdrawal}
    (hw : w ∈ (endEach uris t).withdrawals) (hc : t.isConnecting w.channel = true) :
    w ∈ t.withdrawals ∨ w.answered = some t.registry.channels.length := by
  have hinduct := endEach_induction
    (P := fun x => x.Linked ∧ x.lines = t.lines ∧
      ∀ v ∈ x.withdrawals, t.isConnecting v.channel = true →
        v ∈ t.withdrawals ∨ v.answered = some t.registry.channels.length) ?_ uris t
    ⟨h, rfl, fun v hv _ => .inl hv⟩
  · exact hinduct.2.2 w hw hc
  · intro x x' modeluri rest n ⟨hx, hlines, hold⟩ hwithdraw
    obtain ⟨r, -, -, hlines', hwithdrawals⟩ := withdraw_eq_some hwithdraw
    refine ⟨hx.withdraw hwithdraw, hlines'.trans hlines, fun v hv hvc => ?_⟩
    rw [hwithdrawals] at hv
    rcases List.mem_append.1 hv with hv | hv
    · exact hold v hv hvc
    · cases List.mem_singleton.1 hv
      right
      have hidle : x.isLive n = false := by
        rw [isLive_congr hlines]
        exact isLive_of_isConnecting hvc
      rw [withdrawal, hidle, ← hx.aligned, hlines, h.aligned]
      rfl

/-- A call that ends a subscription too early has been answered at once. -/
theorem answered_of_connecting (h : t.Orderly) (hchange : Change t t') {w : Withdrawal}
    (hw : w ∈ t'.withdrawals) (hc : t'.isConnecting w.channel = true) :
    w.answered = some t'.registry.channels.length := by
  have hpatient : ∀ v ∈ t.withdrawals, t.isConnecting v.channel ≠ true :=
    fun v hv => by simp [h.patient v hv]
  cases hchange with
  | none => exact absurd hc (hpatient w hw)
  | signal n s =>
    rw [signal_withdrawals] at hw
    exact absurd (isConnecting_of_signal hc) (hpatient w hw)
  | made _ _ =>
    have hlt := h.lt_of_modeluri? (h.withdrawn w hw)
    refine absurd ?_ (hpatient w hw)
    unfold isConnecting at hc ⊢
    simpa only [List.getElem?_append_left hlt] using hc
  | ended uris =>
    rw [isConnecting_congr (lines_endEach _ _)] at hc
    rw [(h.same_channels_endEach _).1]
    exact (answered_endEach h.toLinked hw hc).resolve_left fun hold => hpatient w hold hc
  | answered hv hwaits hlive =>
    have hanswer := h.answer hv hwaits hlive
    rw [isConnecting_congr (lines_endEach _ _)] at hc
    rw [(hanswer.same_channels_endEach _).1]
    exact (answered_endEach hanswer.toLinked hw hc).resolve_left fun hold =>
      absurd hc (by simp [hanswer.patient w hold])

theorem made_of_modeluri? (h : t.Linked) (hchange : Change t t')
    (hmade : t'.registry.modeluri? t.registry.channels.length ≠ none) :
    t'.isConnecting t.registry.channels.length = true ∧ t'.withdrawals = t.withdrawals := by
  have hnone : t.registry.modeluri? t.registry.channels.length = none := by
    simp [Registry.modeluri?]
  cases hchange with
  | none => exact absurd hnone hmade
  | signal n s =>
    rw [(touches_signal h.distinct n s).modeluri?] at hmade
    exact absurd hnone hmade
  | made _ _ =>
    rw [← h.aligned]
    exact ⟨by simp [isConnecting, Line.isConnecting], rfl⟩
  | ended uris =>
    rw [(h.same_channels_endEach _).2] at hmade
    exact absurd hnone hmade
  | answered hw _ _ =>
    rw [((h.answer hw).same_channels_endEach _).2] at hmade
    exact absurd hnone hmade

/-- A call without regard can be followed to a failure. -/
theorem exists_failure (h : t.Orderly) {happening : Happening} (hc : ¬ Considerate t happening) :
    ∃ q : List Happening, (∀ x ∈ q, x.IsCompletion) ∧
      ¬ (((t.next happening).run q).Exclusive ∧ ((t.next happening).run q).Quiet) := by
  have hlinked := h.toLinked.next happening
  by_cases hending : ∀ w ∈ (t.next happening).withdrawals,
      (t.next happening).isConnecting w.channel = false
  · have hmaking : ¬ ∀ w ∈ t.withdrawals, t.made? happening = some w.modeluri →
        w.answered ≠ none := fun hmaking => hc ⟨hmaking, hending⟩
    simp only [Classical.not_forall, ne_eq, Classical.not_not, exists_prop] at hmaking
    obtain ⟨w, hw, hmade, hwaits⟩ := hmaking
    have hsome : t.made? happening ≠ none := by simp [hmade]
    obtain ⟨hconnecting, hwithdrawals⟩ :=
      made_of_modeluri? h.toLinked (change_next t happening) hsome
    refine exists_failure_of_waiting hlinked (by rwa [hwithdrawals]) hwaits hconnecting hmade ?_
    exact Nat.ne_of_lt (h.aligned ▸ h.lt_of_modeluri? (h.withdrawn w hw))
  · simp only [Classical.not_forall, Bool.not_eq_false, exists_prop] at hending
    obtain ⟨w, hw, hconnecting⟩ := hending
    exact exists_failure_of_connecting hlinked hw
      (answered_of_connecting h (change_next t happening) hw hconnecting) hconnecting

/-- **One connection for each model.** At every moment of a considerate run at most one connection
of a model is live, and none once a caller has been told that the subscription has ended. From
some moment of any other run, the calls that have started and the network can go on to one where
this fails. -/
theorem considerate_runs (baseUrl defaultFormat : String) (hs : List Happening) :
    (ConsiderateRun (start baseUrl defaultFormat) hs →
      ∀ p, p <+: hs → ((start baseUrl defaultFormat).run p).Exclusive ∧
        ((start baseUrl defaultFormat).run p).Quiet) ∧
    (¬ ConsiderateRun (start baseUrl defaultFormat) hs →
      ∃ p q : List Happening, p <+: hs ∧ (∀ x ∈ q, x.IsCompletion) ∧
        ¬ (((start baseUrl defaultFormat).run (p ++ q)).Exclusive ∧
          ((start baseUrl defaultFormat).run (p ++ q)).Quiet)) := by
  constructor
  · rintro hc p ⟨q, rfl⟩
    have horderly := (Orderly.start baseUrl defaultFormat).run (considerateRun_of_append hc)
    exact ⟨horderly.exclusive, horderly.quiet⟩
  · intro hc
    obtain ⟨p, happening, rest, rfl, hp, hx⟩ := exists_first_of_not_considerate hc
    have horderly := (Orderly.start baseUrl defaultFormat).run hp
    obtain ⟨q, hq, hfail⟩ := exists_failure horderly hx
    refine ⟨p ++ [happening], q, ⟨rest, by simp⟩, hq, ?_⟩
    simpa [run] using hfail

/-- A subscription is ended, and when its connection has ended it is made again. -/
def renewal : List Happening :=
  [.subscribe "m" { protocol := none } {}, .signal 0 (.connected none), .unsubscribe "m",
    .signal 0 (.ended {}), .resume 0, .subscribe "m" { protocol := none } {},
    .signal 1 (.connected none)]

/-- A considerate run, after which a connection is live. -/
theorem considerate_runs_renewal :
    ConsiderateRun (start "http://h/" "json") renewal ∧
      ((start "http://h/" "json").run renewal).isLive 1 = true ∧
      ((start "http://h/" "json").run renewal).Exclusive ∧
        ((start "http://h/" "json").run renewal).Quiet := by
  have hc : ConsiderateRun (start "http://h/" "json") renewal := by decide +kernel
  exact ⟨hc, by decide +kernel, (considerate_runs _ _ _).1 hc _ List.prefix_rfl⟩

/-- A subscription is ended while it is being made, and its connection is made afterwards. -/
def earlyEnd : List Happening :=
  [.subscribe "m" { protocol := none } {}, .unsubscribe "m", .signal 0 (.connected none)]

/-- A subscription is made while the one before it is being ended. -/
def earlyStart : List Happening :=
  [.subscribe "m" { protocol := none } {}, .signal 0 (.connected none), .unsubscribe "m",
    .subscribe "m" { protocol := none } {}, .signal 1 (.connected none)]

/-- Neither promise holds of every run. -/
theorem early_runs_fail :
    ¬ ((start "http://h/" "json").run earlyEnd).Quiet ∧
      ¬ ((start "http://h/" "json").run earlyStart).Exclusive := by
  constructor
  · have hw : { modeluri := "m", channel := 0, answered := some 1 } ∈
        ((start "http://h/" "json").run earlyEnd).withdrawals := by decide +kernel
    exact not_quiet (n := 0) ((Linked.start _ _).run _) hw (by decide +kernel) (by decide +kernel)
      (by decide +kernel)
  · intro hexclusive
    have heq : 0 = 1 := hexclusive 0 1 "m" (by decide +kernel) (by decide +kernel)
      (by decide +kernel) (by decide +kernel)
    cases heq

end Traffic

end RemoteModel.Subscription
