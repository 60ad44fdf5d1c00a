import RemoteModel.Proofs.Subscription.Linked
import RemoteModel.Proofs.Subscription.Sessions
import RemoteModel.Proofs.Subscription.Standing
import RemoteModel.Proofs.Subscription.Uninterrupted

/-!
# The life of a channel

**Main statement.** `channel_lifetime`: a channel that cannot be connected calls its handlers for a
failure and a close; one that is connected calls them for its opening, for each frame in order,
for a failure if the connection breaks, and for the close, which is the last call and the only one
of its kind. Handlers that fail change nothing about it, and opening does not fail. When the
registry is among the handlers and its listener takes closes, the model is not subscribed
afterwards, and nothing is sent.

The calls are those of a session. For the registration there is one invariant, `Settling`: while one
call has subscribed to a model and no other one does, the model is registered with the channel of
that call at most, and not any more once the connection is over. Any signal of the channel keeps
it, because the last thing that the channel reports is a close or a failure to open
(`signal_over`); everything else that happens touches other channels.
-/

namespace RemoteModel.Subscription

/-! ## Registrations -/

/-- The signals of a channel among some happenings. -/
def Happening.signalsOf (n : Nat) (hs : List Happening) : List Signal :=
  hs.filterMap fun
    | .signal m s => if m = n then some s else none
    | _ => none

namespace Registry

variable {r : Registry} {n : Nat} {modeluri : String}

theorem report_concat (es : List Event) (e : Event) (r : Registry) :
    (r.report true n (es ++ [e])).1 = ((r.report true n es).1.notify n e).1 := by
  induction es generalizing r with
  | nil => exact report_cons e []
  | cons first rest ih => rw [List.cons_append, report_cons, report_cons, ih]

theorem get?_notify_closed_ne {listener : Listener} {code : Int} {reason : String}
    (hd : r.registered.Distinct)
    (hown : r.registered.get? modeluri = some n → r.modeluri? n = some modeluri)
    (hparty : r.parties[n]? = some (modeluri, listener))
    (htaken : listener.fails (.closed code reason) = none) :
    (r.notify n (.closed code reason)).1.registered.get? modeluri ≠ some n := by
  rw [parties, List.getElem?_map, Option.map_eq_some_iff] at hparty
  obtain ⟨c, hc, heq⟩ := hparty
  cases heq
  rw [notify_closed hc htaken]
  exact get?_abandon_ne hd hown

end Registry

namespace Traffic

open Registry (Touches)

variable {t t' : Traffic} {n m : Nat} {modeluri : String}

theorem parties_signal (t : Traffic) (n : Nat) (s : Signal) :
    (t.signal n s).registry.parties = t.registry.parties := by
  cases h : t.respond? n s with
  | none => rw [signal_of_none h]
  | some after =>
    have hreport := Switchboard.edits_report true n after.2.events t.registry
    rw [signal_registry h]
    split
    · exact Registry.parties_of_edits hreport
    · exact Registry.parties_of_edits ((hreport.tail (.abandoned n)).trans
        (.head (.asked n) (Switchboard.edits_close conduct n _)))

/-- **The registry is among the handlers.** What it notes of a signal is what its handlers make of
it, unless the channel fails to open. -/
theorem registry_signal_eq_dispatch {s : Signal} {l : Line} {response : Response}
    (h : t.respond? n s = some (l, response)) (hfailure : response.failure = none) :
    (t.signal n s).registry =
      ((Handlers.ofRegistry n).dispatch response.events (t.registry, [])).1.1 := by
  rw [signal_registry h, if_pos hfailure, Handlers.dispatch_ofRegistry]

/-- A call of a model is the only one that has subscribed to it since: the model is registered with
the channel of the call at most, and not if the connection is over. -/
structure Settling (modeluri : String) (n : Nat) (t : Traffic) : Prop where
  only : ∀ m, t.registry.registered.get? modeluri = some m → m = n
  party : ∃ listener, t.registry.parties[n]? = some (modeluri, listener) ∧
    ∀ code reason, listener.fails (.closed code reason) = none
  gone : t.isBusy n = false → t.registry.registered.get? modeluri ≠ some n

namespace Settling

theorem of_touches (h : Settling modeluri n t) (ht : Touches m t.registry t'.registry)
    (hparties : t'.registry.parties = t.registry.parties)
    (hover : t'.isBusy n = false →
      t.isBusy n = false ∨ t'.registry.registered.get? modeluri ≠ some n) :
    Settling modeluri n t' where
  only k hk := h.only k (ht.fewer modeluri k hk)
  party := by
    rw [hparties]
    exact h.party
  gone hbusy := by
    rcases hover hbusy with hbefore | hnot
    · exact fun hget => h.gone hbefore (ht.fewer modeluri n hget)
    · exact hnot

/-- What a channel has said last when its connection is over takes it off the registry. -/
theorem signal_over (h : Settling modeluri n t) (hl : t.Linked) {s : Signal}
    (hbusy : t.isBusy n = true) (hover : (t.signal n s).isBusy n = false) :
    (t.signal n s).registry.registered.get? modeluri ≠ some n := by
  cases hr : t.respond? n s with
  | none =>
    rw [signal_of_none hr, hbusy] at hover
    cases hover
  | some after =>
    obtain ⟨l, response⟩ := after
    obtain ⟨c, before, hc, hbefore, heq⟩ := respond?_eq_some.1 hr
    have hbefore' : before.isBusy = true := by
      simpa [isBusy, hbefore] using hbusy
    have hafter : (before.respond c.address s).1.isBusy = false := by
      rw [heq]
      simpa [isBusy, signal_line_self hr] using hover
    have hresponse : (before.respond c.address s).2 = response := congrArg Prod.snd heq
    have hown : ∀ es, (t.registry.report true n es).1.registered.Distinct ∧
        ((t.registry.report true n es).1.registered.get? modeluri = some n →
          (t.registry.report true n es).1.modeluri? n = some modeluri) := by
      intro es
      have htouches := Registry.touches_report (n := n) hl.distinct es
      refine ⟨htouches.distinct, fun hget => ?_⟩
      rw [htouches.modeluri?]
      exact hl.registered modeluri n (htouches.fewer modeluri n hget)
    rw [signal_registry hr]
    rcases Line.respond_of_ending hbefore' hafter with ⟨hfailure, -⟩ | ⟨es, code, reason, hes, -⟩
    · rw [hresponse] at hfailure
      rw [if_neg hfailure]
      obtain ⟨hd, hreport⟩ := hown response.events
      have habandon := Registry.touches_abandon (n := n) hd
      intro hget
      exact Registry.get?_abandon_ne hd hreport
        ((touches_close habandon.distinct).fewer modeluri n hget)
    · rw [hresponse] at hes
      obtain ⟨listener, hparty, htaken⟩ := h.party
      obtain ⟨hd, hreport⟩ := hown es
      have hclosed : (t.registry.report true n response.events).1.registered.get? modeluri ≠
          some n := by
        rw [hes, Registry.report_concat]
        exact Registry.get?_notify_closed_ne hd hreport
          (by rwa [Registry.parties_of_edits (Switchboard.edits_report ..)]) (htaken code reason)
      split
      · exact hclosed
      · intro hget
        have habandon := Registry.touches_abandon (n := n)
          (hown response.events).1
        exact hclosed (habandon.fewer modeluri n
          ((touches_close habandon.distinct).fewer modeluri n hget))

theorem signal (h : Settling modeluri n t) (hl : t.Linked) (m : Nat) (s : Signal) :
    Settling modeluri n (t.signal m s) := by
  refine h.of_touches (touches_signal hl.distinct m s) (parties_signal t m s) fun hover => ?_
  cases hbusy : t.isBusy n with
  | false => exact .inl rfl
  | true =>
    by_cases hm : n = m
    · subst hm
      exact .inr (h.signal_over hl hbusy hover)
    · have hsame : (t.signal m s).isBusy n = t.isBusy n := by
        unfold isBusy
        rw [signal_line_of_ne hm]
      rw [hsame, hbusy] at hover
      cases hover

theorem endEach (h : Settling modeluri n t) (hl : t.Linked) (uris : List String) :
    Settling modeluri n (endEach uris t) := by
  refine (endEach_induction (P := fun x => x.Linked ∧ Settling modeluri n x) ?_ uris t
    ⟨hl, h⟩).2
  intro x x' u rest k ⟨hx, hsettling⟩ hw
  refine ⟨hx.withdraw hw, ?_⟩
  obtain ⟨r, hr, hregistry, hlines, -⟩ := withdraw_eq_some hw
  refine hsettling.of_touches (touches_withdraw hx.distinct hw) ?_ fun hover => .inl ?_
  · rw [hregistry]
    exact Registry.parties_of_edits
      (.trans (.single (.withdrawn hr)) (.head (.asked k) (Switchboard.edits_close conduct k r)))
  · rwa [isBusy_congr hlines] at hover

theorem made (h : Settling modeluri n t) (hl : t.Linked) {u : String} (hu : modeluri ≠ u)
    {listener : Listener} {o : Options} {r : Registry}
    (hr : t.registry.register u listener o = some r) :
    Settling modeluri n { t with registry := r, lines := t.lines ++ [.connecting] } := by
  obtain ⟨listener', hparty, htaken⟩ := h.party
  have hlt : n < t.registry.parties.length := (List.getElem?_eq_some_iff.1 hparty).1
  obtain ⟨c, -, -, -, hregistered⟩ := Registry.register_eq_some hr
  have hget : r.registered.get? modeluri = t.registry.registered.get? modeluri := by
    rw [hregistered, Entries.get?_insert_of_ne _ _ hu]
  refine ⟨fun m hm => h.only m (hget ▸ hm), ⟨listener', ?_, htaken⟩, fun hover => ?_⟩
  · show r.parties[n]? = _
    rw [Registry.parties_register hr, List.getElem?_append_left hlt, hparty]
  · have hline : (t.lines ++ [Line.connecting])[n]? = t.lines[n]? := by
      refine List.getElem?_append_left ?_
      rwa [hl.aligned, ← Registry.length_parties]
    show r.registered.get? modeluri ≠ some n
    rw [hget]
    refine h.gone ?_
    unfold isBusy at hover ⊢
    rwa [hline] at hover

theorem next (h : Settling modeluri n t) (hl : t.Linked) {happening : Happening}
    (hother : ∀ listener o, happening ≠ .subscribe modeluri listener o) :
    Settling modeluri n (t.next happening) := by
  cases happening with
  | subscribe u listener o =>
    have hu : modeluri ≠ u := fun hu => hother listener o (hu ▸ rfl)
    show Settling modeluri n (t.subscribe u listener o)
    unfold subscribe
    split
    · exact h
    · cases hr : t.registry.register u listener o with
      | none => exact h
      | some r => exact h.made hl hu hr
  | unsubscribe u => exact h.endEach hl [u]
  | closeAll => exact h.endEach hl _
  | signal m s => exact h.signal hl m s
  | resume k =>
    show Settling modeluri n (t.resume k)
    unfold resume
    cases hw : t.withdrawals[k]? with
    | none => exact h
    | some w =>
      have hanswer : Settling modeluri n (t.answer k w) := ⟨h.only, h.party, h.gone⟩
      simp only
      split
      · exact hanswer.endEach (hl.answer hw) w.rest
      · exact h

theorem run (h : Settling modeluri n t) (hl : t.Linked) {hs : List Happening}
    (hother : ∀ listener o, .subscribe modeluri listener o ∉ hs) :
    Settling modeluri n (t.run hs) := by
  induction hs generalizing t with
  | nil => exact h
  | cons happening rest ih =>
    refine ih (h.next hl fun listener o heq => hother listener o (heq ▸ List.mem_cons_self))
      (hl.next happening) fun listener o hmem => hother listener o (List.mem_cons_of_mem _ hmem)

theorem not_subscribed (h : Settling modeluri n t) (hover : t.isBusy n = false) :
    t.registry.registered.get? modeluri = none := by
  cases hget : t.registry.registered.get? modeluri with
  | none => rfl
  | some m => exact absurd (h.only m hget ▸ hget) (h.gone hover)

end Settling

/-! ## Lines in a run -/

/-- Where a line stands depends on the signals of its channel alone. -/
theorem exists_line_next (hl : t.Linked) {l : Line} (h : t.lines[n]? = some l)
    (happening : Happening) :
    ∃ l', (t.next happening).lines[n]? = some l' ∧
      l'.status = (Happening.signalsOf n [happening]).foldl Status.after l.status := by
  have hlt := (List.getElem?_eq_some_iff.1 h).1
  cases happening with
  | subscribe u listener o =>
    refine ⟨l, ?_, rfl⟩
    show (t.subscribe u listener o).lines[n]? = some l
    unfold subscribe
    split
    · exact h
    · split
      · exact h
      · exact (List.getElem?_append_left hlt).trans h
  | unsubscribe u =>
    refine ⟨l, ?_, rfl⟩
    show (endEach [u] t).lines[n]? = some l
    rwa [lines_endEach]
  | closeAll =>
    refine ⟨l, ?_, rfl⟩
    show (endEach _ t).lines[n]? = some l
    rwa [lines_endEach]
  | signal m s =>
    by_cases hm : m = n
    · subst hm
      have hc : m < t.registry.channels.length := hl.aligned ▸ hlt
      have hr : t.respond? m s = some (l.respond t.registry.channels[m].address s) :=
        respond?_eq_some.2 ⟨_, l, List.getElem?_eq_getElem hc, h, rfl⟩
      refine ⟨_, signal_line_self hr, ?_⟩
      have hsignals : Happening.signalsOf m [.signal m s] = [s] := by simp [Happening.signalsOf]
      rw [hsignals]
      exact l.status_respond _ s
    · refine ⟨l, (signal_line_of_ne (Ne.symm hm)).trans h, ?_⟩
      simp [Happening.signalsOf, hm]
  | resume k =>
    refine ⟨l, ?_, rfl⟩
    show (t.resume k).lines[n]? = some l
    unfold resume
    split
    · exact h
    · split
      · rwa [lines_endEach]
      · exact h

theorem exists_line_run (hl : t.Linked) {l : Line} (h : t.lines[n]? = some l)
    (hs : List Happening) :
    ∃ l', (t.run hs).lines[n]? = some l' ∧
      l'.status = (Happening.signalsOf n hs).foldl Status.after l.status := by
  induction hs generalizing t l with
  | nil => exact ⟨l, h, rfl⟩
  | cons happening rest ih =>
    obtain ⟨l', hl', hstatus⟩ := exists_line_next hl h happening
    obtain ⟨last, hlast, hrest⟩ := ih (hl.next happening) hl'
    refine ⟨last, hlast, ?_⟩
    have hsplit : Happening.signalsOf n (happening :: rest) =
        Happening.signalsOf n [happening] ++ Happening.signalsOf n rest :=
      List.filterMap_append (l := [happening])
    rw [hrest, hstatus, hsplit, List.foldl_append]

/-- After a session of its channel a model is not registered, if no other call has subscribed to it
since. -/
theorem get?_session (hl : t.Linked) {listener : Listener} {o : Options} {r : Registry}
    (htaken : ∀ e, listener.fails e = none)
    (hr : t.registry.register modeluri listener o = some r) {hs : List Happening}
    (hother : ∀ listener o, .subscribe modeluri listener o ∉ hs) {attempt : Option Failure}
    {frames : List Frame} {e : Ending} {after : List Signal}
    (hsession : Happening.signalsOf t.registry.channels.length hs =
      session attempt frames e ++ after) :
    (Traffic.run { t with registry := r, lines := t.lines ++ [.connecting] }
      hs).registry.registered.get? modeluri = none := by
  obtain ⟨c, -, -, hchannels, hregistered⟩ := Registry.register_eq_some hr
  have hline : (t.lines ++ [Line.connecting])[t.registry.channels.length]? = some .connecting := by
    rw [← hl.aligned]
    exact List.getElem?_concat_length
  have hsettling : Settling modeluri t.registry.channels.length
      { t with registry := r, lines := t.lines ++ [.connecting] } := by
    refine ⟨fun m hm => ?_, ⟨listener, ?_, fun code reason => htaken _⟩, fun hover => ?_⟩
    · simp only [hregistered, Entries.get?_insert_self, Option.some.injEq] at hm
      exact hm.symm
    · show r.parties[_]? = _
      rw [Registry.parties_register hr, ← Registry.length_parties]
      exact List.getElem?_concat_length
    · simp [isBusy, hline, Line.isBusy] at hover
  have hmade := hl.made hr
  obtain ⟨l, hlast, hstatus⟩ := exists_line_run hmade hline hs
  have hover : l.status = .finished := by
    rw [hstatus, hsession]
    exact Status.after_session attempt frames e after
  refine (hsettling.run hmade hother).not_subscribed ?_
  cases hbusy : l.isBusy with
  | false => simpa [isBusy, hlast] using hbusy
  | true => exact absurd hover ((l.isBusy_iff).1 hbusy)

theorem get?_subscribe (hl : t.Linked) {listener : Listener} {o : Options}
    (htaken : ∀ e, listener.fails e = none)
    (hfree : t.registry.isSubscribed modeluri = false)
    (haddress : address? t.registry.baseUrl t.registry.defaultFormat modeluri o ≠ none)
    {hs : List Happening} (hother : ∀ listener o, .subscribe modeluri listener o ∉ hs)
    {attempt : Option Failure} {frames : List Frame} {e : Ending} {after : List Signal}
    (hsession : Happening.signalsOf t.registry.channels.length hs =
      session attempt frames e ++ after) :
    ((t.subscribe modeluri listener o).run hs).registry.registered.get? modeluri = none := by
  obtain ⟨text, htext⟩ := Option.ne_none_iff_exists'.1 haddress
  obtain ⟨r, hr⟩ : ∃ r, t.registry.register modeluri listener o = some r :=
    ⟨_, Option.map_eq_some_iff.2 ⟨text, htext, rfl⟩⟩
  have hsubscribe : t.subscribe modeluri listener o =
      { t with registry := r, lines := t.lines ++ [.connecting] } := by
    simp [subscribe, hfree, hr]
  rw [hsubscribe]
  exact get?_session hl htaken hr hother hsession

end Traffic

/-! ## The main statement -/

/-- **The life of a channel.** Whatever the handlers remember and however they fail: what the
network does, a close is called for last and once. A channel that cannot be connected calls its
handlers for the failure and for an abnormal close; one that is connected calls them for its
opening, for each frame in order, for a failure if the connection breaks, and for the close with
the code and the reason of the connection. Opening does not fail. If the channel belongs to a call
that has subscribed to a model with a listener that takes what it is told, and no other call has
subscribed to the model since, the model is not subscribed afterwards and nothing is sent. -/
theorem channel_lifetime {σ : Type} (h : Handlers σ) (memory : σ) (address : String)
    (lost : Option (String × String)) (frames : List Frame) (e : Ending) (after : List Signal) :
    let attempt := lost.map fun (kind, text) => Failure.disconnected kind text
    let a := Attended.run address h { memory := memory } (session attempt frames e ++ after)
    (a.failure = none ∧ a.calls.map Handled.event =
      match lost with
      | some (kind, text) => [.failed (.failure (.disconnected kind text)), .closed 1006 text]
      | none => [.opened] ++ frames.map Event.arrived ++
          (e.broken.map fun failure => Event.failed (.failure failure)).toList ++
            [.closed (e.code.getD 1006) (e.reason.getD "")]) ∧
    (∀ signals, ∃ body last,
      (Attended.run address h { memory := memory } signals).calls.map Handled.event =
          body ++ last ∧
        (∀ e ∈ body, ∀ code reason, e ≠ .closed code reason) ∧
        (last = [] ∨ ∃ code reason, last = [.closed code reason])) ∧
    ∀ baseUrl defaultFormat before modeluri listener o hs,
      let t := (Traffic.start baseUrl defaultFormat).run before
      let t' := (t.subscribe modeluri listener o).run hs
      t.registry.isSubscribed modeluri = false →
      address? t.registry.baseUrl t.registry.defaultFormat modeluri o ≠ none →
      (∀ e, listener.fails e = none) →
      (∀ listener o, .subscribe modeluri listener o ∉ hs) →
      Happening.signalsOf t.registry.channels.length hs = session attempt frames e ++ after →
        t'.registry.isSubscribed modeluri = false ∧
        ∀ conduct message,
          t'.registry.send conduct modeluri message = ⟨t'.registry, [], .ok false⟩ := by
  intro attempt a
  refine ⟨⟨?_, ?_⟩, ?_, ?_⟩
  · -- The attempt ends with the first signal.
    have hrun : a = (Attended.next address h { memory := memory } (.connected attempt)).run address
        h (frames.map Signal.arrived ++ [.ended e] ++ after) := rfl
    rw [hrun, Attended.failure_run]
    · cases lost <;> rfl
    · cases lost <;> rfl
  · rw [Attended.calls_run]
    cases lost with
    | none =>
      refine (Line.tells_session frames e after).trans ?_
      simp [Ending.events, abnormalClosure]
    | some failure =>
      exact Line.tells_session_disconnected failure.1 failure.2 frames e after
  · intro signals
    rw [Attended.calls_run]
    exact Line.exists_tells_eq address .connecting signals
  · intro baseUrl defaultFormat before modeluri listener o hs t t' hfree haddress htaken hother
      hsession
    have hl : t.Linked := (Traffic.Linked.start baseUrl defaultFormat).run before
    have hget : t'.registry.registered.get? modeluri = none :=
      Traffic.get?_subscribe hl htaken hfree haddress hother hsession
    refine ⟨?_, fun conduct message => ?_⟩
    · simp [Registry.isSubscribed, Registry.state, Registry.channel?, hget]
    · simp [Registry.send, hget]

/-- Handlers that count and always fail; the connection breaks without a code, and meanwhile a call
ends another subscription. -/
theorem channel_lifetime_broken :
    let counts : Handlers Nat := ⟨fun count _ => (count + 1, some .wrongType)⟩
    let v2 : Listener := { protocol := some .v2 }
    let e : Ending := { broken := some (.raised "OSError" "gone") }
    let a := Attended.run "ws://h/" counts { memory := 0 } (session none [.text "x"] e)
    let t := (Traffic.start "http://h/" "json").run [.subscribe "k" v2 {}]
    let t' := (t.subscribe "m" v2 {}).run
      [.signal 1 (.connected none), .unsubscribe "k", .signal 1 (.arrived (.text "x")),
        .signal 1 (.ended e)]
    a.calls.map Handled.event =
        [.opened, .arrived (.text "x"), .failed (.failure (.raised "OSError" "gone")),
          .closed 1006 ""] ∧
      t'.registry.isSubscribed "m" = false := by
  intro counts v2 e a t t'
  obtain ⟨⟨-, hcalls⟩, -, hregistry⟩ :=
    channel_lifetime counts 0 "ws://h/" none [.text "x"] e []
  refine ⟨hcalls, ?_⟩
  have hchannels : t.registry.channels.length = 1 := by decide +kernel
  have hsession : Happening.signalsOf t.registry.channels.length
      [.signal 1 (.connected none), .unsubscribe "k", .signal 1 (.arrived (.text "x")),
        .signal 1 (.ended e)] = session none [.text "x"] e ++ [] := by
    rw [hchannels]
    rfl
  exact (hregistry "http://h/" "json" [.subscribe "k" v2 {}] "m" v2 {} _ (by decide +kernel)
    (by decide +kernel) (fun _ => rfl) (by simp) hsession).1

end RemoteModel.Subscription
