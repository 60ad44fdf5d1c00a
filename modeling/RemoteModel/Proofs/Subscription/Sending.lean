import RemoteModel.Proofs.Client.Readings
import RemoteModel.Proofs.Envelope
import RemoteModel.Proofs.Subscription.Failing
import RemoteModel.Proofs.Subscription.Linked
import RemoteModel.Proofs.Subscription.Reports
import RemoteModel.Subscription.Sending

/-!
# Who gets a message

**Main statement.** `send_reaches`: in every state that calls and events can lead to, a message for
a model is handed to the registered channel of the model and to no other, unless that channel has
reported a close and no opening since. A client then answers that it has been sent, if the channel
takes it. Without such a channel nothing is handed over; the first version answers that there is
none, and the second one fails.

* *Registries*: what a registered channel has reported decides about its state (`Records`), and
  the state decides whether a text is handed over (`send_registered`, `send_refused`).
* *Connections*: a channel that has reported nothing is still connecting, one that has reported its
  opening is live, and one that has reported a close is over (`Line.Fits`). So over connections a
  text is written exactly if the channel has opened and not closed since.

A channel that has not opened yet is the one case in which being handed a text and being open are
not the same: `sent_before_opening` has a channel that takes it.
-/

namespace RemoteModel

namespace Subscription

/-! ## What channels are handed -/

namespace Registry

variable {r : Registry} {n : Nat} {modeluri : String} {conduct : Nat → Conduct}
  {reports reports' : Nat → List Event}

/-- What the channels have been handed. -/
def texts (r : Registry) : List (List String) := r.channels.map Channel.sent

theorem texts_modify {f : Channel → Channel} (hf : ∀ c, (f c).sent = c.sent) :
    (r.modify n f).texts = r.texts := by
  refine List.ext_getElem? fun k => ?_
  simp only [texts, modify, List.getElem?_map, List.getElem?_modify]
  cases r.channels[k]? with
  | none => rfl
  | some c => by_cases hk : n = k <;> simp [hk, hf]

theorem texts_handOver (r : Registry) (n : Nat) (text : String) :
    (r.handOver n text).texts = r.texts.modify n (· ++ [text]) := by
  refine List.ext_getElem? fun k => ?_
  simp only [texts, handOver, modify, List.getElem?_map, List.getElem?_modify]
  cases r.channels[k]? with
  | none => rfl
  | some c => by_cases hk : n = k <;> simp [hk]

theorem texts_notify (r : Registry) (n : Nat) (e : Event) : (r.notify n e).1.texts = r.texts := by
  have hmodify : (r.modify n fun c => { c with state := c.state.after e }).texts = r.texts :=
    texts_modify fun _ => rfl
  rcases notify_fst r n e with h | ⟨-, h⟩
  · rw [h, hmodify]
  · rw [h, ← hmodify, texts, channels_drop]
    rfl

theorem texts_respond (c : Conduct) (n : Nat) (response : Response) (r : Registry) :
    (r.respond c n response).1.texts = r.texts :=
  report_induction (P := fun x => x.texts = r.texts)
    (fun x e hx => (texts_notify x n e).trans hx) c.shielded response.events rfl

/-- A message for a model that is subscribed is handed to its channel, which may fail. -/
theorem send_registered (conduct : Nat → Conduct) (m : Envelope)
    (hn : r.registered.get? modeluri = some n) (hsubscribed : r.isSubscribed modeluri = true) :
    (r.send conduct modeluri (.ok m)).registry.texts = r.texts.modify n (· ++ [m.toText]) ∧
      ∀ failure, (∀ count, (conduct n).sending count = { failure := failure }) →
        (r.send conduct modeluri (.ok m)).result = orFailure true failure := by
  have hsend : ∃ count, r.send conduct modeluri (.ok m) =
      ⟨((r.handOver n m.toText).respond (conduct n) n ((conduct n).sending count)).1,
        ((r.handOver n m.toText).respond (conduct n) n ((conduct n).sending count)).2.1,
        orFailure true
          ((r.handOver n m.toText).respond (conduct n) n ((conduct n).sending count)).2.2⟩ := by
    unfold send
    rw [hn, hsubscribed]
    exact ⟨_, rfl⟩
  obtain ⟨count, hsend⟩ := hsend
  rw [hsend]
  refine ⟨?_, fun failure hfailure => ?_⟩
  · rw [← texts_handOver]
    exact texts_respond ..
  · simp only [hfailure]
    rfl

theorem send_refused (h : ∀ n, r.registered.get? modeluri = some n →
      r.isSubscribed modeluri = false) (message : Checked Envelope) :
    r.send conduct modeluri message = ⟨r, [], .ok false⟩ := by
  unfold send
  cases hn : r.registered.get? modeluri with
  | none => rfl
  | some n => rw [h n hn]

theorem Records.report (h : r.Records reports) (hn : n < r.channels.length) (es : List Event)
    (hother : ∀ k, k ≠ n → reports' k = reports k) (hself : reports' n = reports n ++ es) :
    (r.report true n es).1.Records reports' := by
  induction es generalizing r reports with
  | nil =>
    have hsame : reports' = reports := funext fun k => by
      by_cases hk : k = n
      · rw [hk, hself, List.append_nil]
      · exact hother k hk
    rw [hsame]
    exact h
  | cons e rest ih =>
    have hnext : (r.notify n e).1.Records fun k => if k = n then reports k ++ [e] else reports k :=
      h.notify e (fun k hk => if_neg hk) (by rw [if_pos rfl, if_pos hn])
    rw [report_cons]
    refine ih hnext ?_ (fun k hk => ?_) ?_
    · rwa [(touches_notify h.distinct e).length]
    · rw [if_neg hk, hother k hk]
    · rw [if_pos rfl, hself, List.append_assoc]
      rfl

end Registry

/-! ## Connections -/

namespace Line

variable {l : Line} {es : List Event}

/-- Where a line stands is what its channel has reported. -/
def Fits : Line → List Event → Prop
  | connecting, es => es = []
  | settled s, es => if s.isOpen then ReportsOpen es else ReportsClosed es

/-- Unless the channel fails to open, its reports keep up with its line. -/
theorem Fits.respond (h : l.Fits es) {address : String} {s : Signal}
    (hfailure : (l.respond address s).2.failure = none) :
    (l.respond address s).1.Fits (es ++ (l.respond address s).2.events) := by
  cases l with
  | connecting =>
    obtain rfl : es = [] := h
    cases s with
    | connected attempt =>
      rcases attempt with _ | failure
      · exact (reportsOpen_opened : ReportsOpen ([] ++ [.opened]))
      · cases failure with
        | disconnected kind text =>
          exact (reportsClosed_closed :
            ReportsClosed ([.failed (.failure (.disconnected kind text))] ++ [.closed _ text]))
        | _ => simp [Line.respond, Socket.open] at hfailure
    | arrived _ | ended _ => rfl
  | settled socket =>
    cases hopen : socket.isOpen with
    | true =>
      have hreports : ReportsOpen es := by simpa [Fits, hopen] using h
      cases s with
      | connected _ => simpa [Line.respond, Fits, hopen] using hreports
      | arrived frame =>
        simpa [Line.respond, Socket.receive, Fits, hopen] using
          hreports.concat (e := .arrived frame) fun _ _ => Event.noConfusion
      | ended e =>
        have hclosed : ReportsClosed (es ++ e.events) := by
          rw [Ending.events, ← List.append_assoc]
          exact reportsClosed_closed
        simpa [Line.respond, Socket.finish, Fits, hopen] using hclosed
    | false =>
      rw [respond_of_over (l := settled socket) hopen, List.append_nil]
      exact h

theorem Fits.send (h : l.Fits es) (address text : String) (fault : Option Failure) :
    (l.send address text fault).1.Fits es := by
  cases l with
  | connecting => exact h
  | settled socket =>
    cases hopen : socket.isOpen <;> cases fault <;>
      simpa [Line.send, Socket.send, hopen, Fits] using h

theorem written_send (l : Line) (address text : String) (fault : Option Failure) :
    (l.send address text fault).1.written =
      if l.isLive ∧ fault = none then l.written ++ [text] else l.written := by
  cases l with
  | connecting => rfl
  | settled socket =>
    cases hopen : socket.isOpen <;> cases fault <;>
      simp [Line.send, Socket.send, hopen, written, isLive]

/-- A channel that has reported its opening and no close since is connected. -/
theorem Fits.isLive (h : l.Fits es) (hopen : ReportsOpen es) : l.isLive = true := by
  cases l with
  | connecting =>
    obtain rfl : es = [] := h
    obtain ⟨before, after, heq, -⟩ := hopen
    simp at heq
  | settled socket =>
    cases hsocket : socket.isOpen with
    | true => exact hsocket
    | false =>
      have hclosed : ReportsClosed es := by simpa [Fits, hsocket] using h
      exact absurd hclosed hopen.not_closed

/-- A channel that has reported neither is not connected yet. -/
theorem Fits.eq_connecting (h : l.Fits es) (hsilent : Silent es) : l = connecting := by
  cases l with
  | connecting => rfl
  | settled socket =>
    cases hsocket : socket.isOpen with
    | true =>
      have hopen : ReportsOpen es := by simpa [Fits, hsocket] using h
      obtain ⟨before, after, rfl, -⟩ := hopen
      exact absurd (by simp) hsilent.1
    | false =>
      have hclosed : ReportsClosed es := by simpa [Fits, hsocket] using h
      exact absurd hclosed hsilent.not_closed

theorem failure_send (h : l.isLive = true) (address text : String) (fault : Option Failure) :
    (l.send address text fault).2.failure = fault := by
  cases l with
  | connecting => cases h
  | settled socket =>
    have hsocket : socket.isOpen = true := h
    cases fault <;> simp [Line.send, Socket.send, hsocket]

end Line

namespace Traffic

open Registry (Records Touches)

variable {t : Traffic} {n : Nat} {modeluri : String} {reports : Nat → List Event} {m : Envelope}
  {fault : Option Failure}

/-! ## Reports over connections -/

/-- What a channel reports in an act. -/
def newReports (n : Nat) (t : Traffic) : Act → List Event
  | .happens (.signal k s) => if k = n then t.told n s else []
  | _ => []

theorem newReports_signal_self (t : Traffic) (n : Nat) (s : Signal) :
    t.newReports n (.happens (.signal n s)) = t.told n s := if_pos rfl

theorem newReports_signal_of_ne {k : Nat} (hk : k ≠ n) (t : Traffic) (s : Signal) :
    t.newReports k (.happens (.signal n s)) = [] := if_neg hk.symm

/-- What a channel has reported in some acts. -/
def reported (n : Nat) : Traffic → List Act → List Event
  | _, [] => []
  | t, act :: rest => t.newReports n act ++ (t.perform act).reported n rest

/-- What each channel has reported is noted in the registry, and it is where its line stands unless
the channel has left the registry. -/
structure Traced (t : Traffic) (reports : Nat → List Event) : Prop where
  aligned : t.lines.length = t.registry.channels.length
  records : t.registry.Records reports
  fits : ∀ n l, t.lines[n]? = some l →
    l.Fits (reports n) ∨ ∀ u, t.registry.registered.get? u ≠ some n

namespace Traced

theorem start (baseUrl defaultFormat : String) : (start baseUrl defaultFormat).Traced fun _ => [] where
  aligned := rfl
  records := Switchboard.records_start baseUrl defaultFormat
  fits _ _ h := by cases h

theorem of_touches {t' : Traffic} (h : t.Traced reports) (ht : Touches n t.registry t'.registry)
    (hlines : t'.lines = t.lines) (hrecords : t'.registry.Records reports) :
    t'.Traced reports where
  aligned := by rw [hlines, ht.length, h.aligned]
  records := hrecords
  fits k l hl := by
    rcases h.fits k l (hlines ▸ hl) with hfits | hgone
    · exact .inl hfits
    · exact .inr fun u hu => hgone u (ht.fewer u k hu)

section

variable {s : Signal} {l : Line} {response : Response}

theorem records_signal (h : t.Traced reports) (hr : t.respond? n s = some (l, response)) :
    (t.registry.report true n response.events).1.Records fun k =>
      reports k ++ t.newReports k (.happens (.signal n s)) := by
  obtain ⟨c, -, hc, -, -⟩ := respond?_eq_some.1 hr
  refine h.records.report (List.getElem?_eq_some_iff.1 hc).1 response.events (fun k hk => ?_) ?_
  · rw [newReports_signal_of_ne hk, List.append_nil]
  · rw [newReports_signal_self, told, hr]

/-- A channel keeps up with its line, and one that fails to open is given up. -/
theorem fits_signal (h : t.Traced reports) (hr : t.respond? n s = some (l, response)) :
    l.Fits (reports n ++ response.events) ∨
      ∀ u, (t.signal n s).registry.registered.get? u ≠ some n := by
  obtain ⟨c, before, -, hbefore, heq⟩ := respond?_eq_some.1 hr
  have hline : (before.respond c.address s).1 = l := congrArg Prod.fst heq
  have hresponse : (before.respond c.address s).2 = response := congrArg Prod.snd heq
  by_cases hfailure : response.failure = none
  · rcases h.fits n before hbefore with hfits | hgone
    · refine .inl ?_
      rw [← hline, ← hresponse]
      exact hfits.respond (hresponse ▸ hfailure)
    · exact .inr fun u hu => hgone u ((touches_signal h.records.distinct n s).fewer u n hu)
  · have hreport := h.records_signal hr
    refine .inr fun u hu => ?_
    rw [signal_registry hr, if_neg hfailure] at hu
    exact Registry.get?_abandon_ne hreport.distinct (hreport.own u n) hu

theorem signal (h : t.Traced reports) (n : Nat) (s : Signal) :
    (t.signal n s).Traced fun k => reports k ++ t.newReports k (.happens (.signal n s)) := by
  cases hr : t.respond? n s with
  | none =>
    have hquiet : (fun k => reports k ++ t.newReports k (.happens (.signal n s))) = reports :=
      funext fun k => by
        by_cases hk : k = n
        · rw [hk, newReports_signal_self, told, hr]
          exact List.append_nil _
        · rw [newReports_signal_of_ne hk, List.append_nil]
    rw [hquiet, signal_of_none hr]
    exact h
  | some after =>
    obtain ⟨l, response⟩ := after
    have hreport := h.records_signal hr
    have ht := touches_signal h.records.distinct n s
    refine ⟨?_, ?_, fun k x hx => ?_⟩
    · rw [length_lines_signal, ht.length, h.aligned]
    · rw [signal_registry hr]
      split
      · exact hreport
      · exact (hreport.abandon n).asked n
    · by_cases hk : k = n
      · subst hk
        rw [signal_line_self hr, Option.some.injEq] at hx
        subst hx
        rw [newReports_signal_self, told, hr]
        exact h.fits_signal hr
      · rw [signal_line_of_ne hk] at hx
        rw [newReports_signal_of_ne hk, List.append_nil]
        rcases h.fits k x hx with hfits | hgone
        · exact .inl hfits
        · exact .inr fun u hu => hgone u (ht.fewer u k hu)

end

theorem endEach (h : t.Traced reports) (uris : List String) :
    (endEach uris t).Traced reports := by
  refine endEach_induction (P := fun x => x.Traced reports) (fun x x' u rest k hx hw => ?_) uris t h
  obtain ⟨r, hr, hregistry, hlines, -⟩ := withdraw_eq_some hw
  refine hx.of_touches (touches_withdraw hx.records.distinct hw) hlines ?_
  rw [hregistry]
  exact (hx.records.withdraw hr).asked k

theorem made (h : t.Traced reports) {listener : Listener} {o : Options} {r : Registry}
    (hr : t.registry.register modeluri listener o = some r) :
    Traced { t with registry := r, lines := t.lines ++ [.connecting] } reports := by
  obtain ⟨c, -, -, hchannels, hregistered⟩ := Registry.register_eq_some hr
  refine ⟨by simp [hchannels, h.aligned], h.records.register hr, fun k l hl => ?_⟩
  rcases Nat.lt_trichotomy k t.lines.length with hlt | heq | hgt
  · rw [List.getElem?_append_left hlt] at hl
    rcases h.fits k l hl with hfits | hgone
    · exact .inl hfits
    · refine .inr fun u hu => ?_
      simp only [hregistered] at hu
      by_cases hne : u = modeluri
      · subst hne
        rw [Entries.get?_insert_self, Option.some.injEq, ← h.aligned] at hu
        exact absurd hu (Nat.ne_of_gt hlt)
      · rw [Entries.get?_insert_of_ne _ _ hne] at hu
        exact hgone u hu
  · subst heq
    rw [List.getElem?_concat_length, Option.some.injEq] at hl
    subst hl
    exact .inl (h.records.fresh _ (Nat.le_of_eq h.aligned.symm))
  · rw [List.getElem?_eq_none (by simpa using Nat.succ_le_of_lt hgt)] at hl
    cases hl

theorem subscribe (h : t.Traced reports) (modeluri : String) (listener : Listener) (o : Options) :
    (t.subscribe modeluri listener o).Traced reports := by
  unfold Traffic.subscribe
  split
  · exact h
  · cases hr : t.registry.register modeluri listener o with
    | none => exact h
    | some r => exact h.made hr

theorem resume (h : t.Traced reports) (k : Nat) : (t.resume k).Traced reports := by
  unfold Traffic.resume
  cases hw : t.withdrawals[k]? with
  | none => exact h
  | some w =>
    have hanswer : (t.answer k w).Traced reports := ⟨h.aligned, h.records, h.fits⟩
    simp only
    split
    · exact hanswer.endEach w.rest
    · exact h

theorem handOver (h : t.Traced reports) (n : Nat) (text : String) (fault : Option Failure) :
    (t.handOver n text fault).1.Traced reports := by
  unfold Traffic.handOver
  split
  · rename_i c l hc hl
    refine ⟨?_, h.records.handed n text, fun k x hx => ?_⟩
    · have hlength : (t.registry.handOver n text).channels.length = t.registry.channels.length :=
        List.length_modify ..
      rw [List.length_set, hlength, h.aligned]
    · by_cases hk : n = k
      · subst hk
        have hx' : (t.lines.set n (l.send c.address text fault).1)[n]? = some x := hx
        rw [List.getElem?_set_self (List.getElem?_eq_some_iff.1 hl).1, Option.some.injEq] at hx'
        subst hx'
        exact (h.fits n l hl).imp_left fun hfits => hfits.send c.address text fault
      · have hx' : (t.lines.set n (l.send c.address text fault).1)[k]? = some x := hx
        rw [List.getElem?_set_ne hk] at hx'
        exact h.fits k x hx'
  · exact h

theorem send (h : t.Traced reports) (modeluri : String) (message : Checked Envelope)
    (fault : Option Failure) : (t.send modeluri message fault).1.Traced reports := by
  unfold Traffic.send
  split
  · split
    · exact h
    · exact h.handOver _ _ fault
  · exact h

/-- **Every act keeps the traces.** -/
theorem perform (h : t.Traced reports) (act : Act) :
    (t.perform act).Traced fun n => reports n ++ t.newReports n act := by
  cases act with
  | happens happening =>
    cases happening with
    | signal n s => exact h.signal n s
    | subscribe modeluri listener o =>
      simp only [newReports, List.append_nil]
      exact h.subscribe modeluri listener o
    | unsubscribe modeluri =>
      simp only [newReports, List.append_nil]
      exact h.endEach [modeluri]
    | closeAll =>
      simp only [newReports, List.append_nil]
      exact h.endEach _
    | resume k =>
      simp only [newReports, List.append_nil]
      exact h.resume k
  | sends modeluri message fault =>
    simp only [newReports, List.append_nil]
    exact h.send modeluri message fault

theorem play (h : t.Traced reports) (acts : List Act) :
    (t.play acts).Traced fun n => reports n ++ t.reported n acts := by
  induction acts generalizing t reports with
  | nil =>
    simp only [reported, List.append_nil]
    exact h
  | cons act rest ih =>
    have hrest := ih (h.perform act)
    simp only [List.append_assoc] at hrest
    exact hrest

end Traced

theorem traced_of_play (baseUrl defaultFormat : String) (acts : List Act) :
    ((Traffic.start baseUrl defaultFormat).play acts).Traced fun n =>
      (Traffic.start baseUrl defaultFormat).reported n acts :=
  (Traced.start baseUrl defaultFormat).play acts

/-! ## What is written -/

theorem handOver_eq {c : Channel} {l : Line} (hc : t.registry.channels[n]? = some c)
    (hl : t.lines[n]? = some l) (text : String) (fault : Option Failure) :
    (t.handOver n text fault).2 = (l.send c.address text fault).2.failure ∧
      (t.handOver n text fault).1.frames =
        if l.isLive ∧ fault = none then t.frames.modify n (· ++ [text]) else t.frames := by
  have hset : (t.handOver n text fault).1.frames =
      t.frames.set n (l.send c.address text fault).1.written := by
    simp only [handOver, hc, hl, frames, List.map_set]
  have hwritten : t.frames[n]? = some l.written := by simp [frames, hl]
  refine ⟨by simp only [handOver, hc, hl], ?_⟩
  rw [hset, Line.written_send]
  split
  · rw [List.modify_eq_set_getElem?, hwritten]
    rfl
  · obtain ⟨hlt, hget⟩ := List.getElem?_eq_some_iff.1 hwritten
    rw [← hget, List.set_getElem_self]

theorem send_registered (hn : t.registry.registered.get? modeluri = some n)
    (hsubscribed : t.registry.isSubscribed modeluri = true) :
    t.send modeluri (.ok m) fault = ((t.handOver n m.toText fault).1,
      Registry.orFailure true (t.handOver n m.toText fault).2) := by
  unfold send
  rw [hn, hsubscribed]

theorem send_refused (h : ∀ n, t.registry.registered.get? modeluri = some n →
      t.registry.isSubscribed modeluri = false) (message : Checked Envelope) :
    t.send modeluri message fault = (t, .ok false) := by
  unfold send
  cases hn : t.registry.registered.get? modeluri with
  | none => rfl
  | some n => rw [h n hn]

end Traffic

end Subscription

/-! ## Clients -/

namespace Client

variable {c : Client} {modeluri : String}

/-- The answer to a message for a model that has no open channel. -/
def declines (c : Client) (modeluri : String) : Except Failure Bool :=
  match c.protocol with
  | .v1 => .ok false
  | .v2 => .error (.reported (.notSubscribed modeluri))

/-- Both versions do with the registry what it does by itself, and they give the same answer when
it sends the message. -/
theorem send_outcome (c : Client) (conduct : Nat → Subscription.Conduct) (modeluri : String)
    (message : Checked Envelope) (r : Subscription.Registry) :
    (c.send conduct modeluri message r).registry = (r.send conduct modeluri message).registry ∧
      ((r.send conduct modeluri message).result ≠ .ok false →
        c.send conduct modeluri message r = r.send conduct modeluri message) := by
  simp only [send]
  refine ⟨?_, fun hsent => ?_⟩
  · split <;> rfl
  · split
    · rename_i hresult
      exact absurd hresult hsent
    · rfl

theorem send_declines {conduct : Nat → Subscription.Conduct} {message : Checked Envelope}
    {r : Subscription.Registry} (h : r.send conduct modeluri message = ⟨r, [], .ok false⟩) :
    c.send conduct modeluri message r = ⟨r, [], c.declines modeluri⟩ := by
  unfold send declines
  rw [h]
  cases c.protocol <;> rfl

theorem sendOver_declines {message : Checked Envelope} {fault : Option Failure}
    {t : Subscription.Traffic} (h : t.send modeluri message fault = (t, .ok false)) :
    c.sendOver modeluri message fault t = (t, c.declines modeluri) := by
  unfold sendOver declines
  rw [h]
  cases c.protocol <;> rfl

theorem sendOver_of_sent {message : Checked Envelope} {fault : Option Failure}
    {t t' : Subscription.Traffic} {result : Except Failure Bool}
    (h : t.send modeluri message fault = (t', result)) (hsent : result ≠ .ok false) :
    c.sendOver modeluri message fault t = (t', result) := by
  unfold sendOver
  rw [h]
  simp only
  split
  · exact absurd rfl hsent
  · rfl

end Client

namespace Subscription

theorem Registry.orFailure_ne (failure : Option Failure) :
    Registry.orFailure true failure ≠ .ok false := by
  cases failure <;> simp [Registry.orFailure]

/-! ## Sending -/

section

variable {c : Client} {modeluri : String} {m : Envelope} {n : Nat} {reported : Nat → List Event}

namespace Registry

variable {r : Registry} {conduct : Nat → Conduct}

/-- Unless it has been closed, the registered channel is handed the message, and no other one is. -/
theorem Records.send_handed (h : r.Records reported) (hn : r.registered.get? modeluri = some n)
    (hreports : ¬ ReportsClosed (reported n)) :
    n < r.texts.length ∧
      (c.send conduct modeluri (.ok m) r).registry.texts = r.texts.modify n (· ++ [m.toText]) ∧
      ∀ failure, (∀ count, (conduct n).sending count = { failure := failure }) →
        (c.send conduct modeluri (.ok m) r).result = orFailure true failure := by
  obtain ⟨channel, hchannel, -⟩ := Option.map_eq_some_iff.1 (h.own modeluri n hn)
  obtain ⟨htexts, hresult⟩ :=
    send_registered conduct m hn ((h.isSubscribed_iff hn).2 hreports)
  obtain ⟨hregistry, hanswer⟩ := c.send_outcome conduct modeluri (.ok m) r
  refine ⟨?_, hregistry ▸ htexts, fun failure hfailure => ?_⟩
  · simpa [texts] using (List.getElem?_eq_some_iff.1 hchannel).1
  · have hsent := hresult failure hfailure
    rw [hanswer (hsent ▸ orFailure_ne failure), hsent]

theorem Records.send_declined (h : r.Records reported)
    (hclosed : ∀ n, r.registered.get? modeluri = some n → ReportsClosed (reported n)) :
    c.send conduct modeluri (.ok m) r = ⟨r, [], c.declines modeluri⟩ := by
  refine Client.send_declines (send_refused (fun n hn => ?_) _)
  exact Bool.eq_false_iff.2 fun hsubscribed =>
    (h.isSubscribed_iff hn).1 hsubscribed (hclosed n hn)

end Registry

namespace Traffic.Traced

variable {t : Traffic} {fault : Option Failure}

theorem exists_fits (h : t.Traced reported) (hn : t.registry.registered.get? modeluri = some n) :
    ∃ channel l, t.registry.channels[n]? = some channel ∧ t.lines[n]? = some l ∧
      l.Fits (reported n) := by
  obtain ⟨channel, hchannel, -⟩ := Option.map_eq_some_iff.1 (h.records.own modeluri n hn)
  have hlt : n < t.lines.length := h.aligned ▸ (List.getElem?_eq_some_iff.1 hchannel).1
  have hl : t.lines[n]? = some t.lines[n] := List.getElem?_eq_getElem hlt
  refine ⟨channel, t.lines[n], hchannel, hl, ?_⟩
  exact (h.fits n _ hl).resolve_right fun hgone => hgone modeluri hn

theorem sendOver_eq (h : t.Traced reported) (hn : t.registry.registered.get? modeluri = some n)
    (hreports : ¬ ReportsClosed (reported n)) :
    c.sendOver modeluri (.ok m) fault t = ((t.handOver n m.toText fault).1,
      Registry.orFailure true (t.handOver n m.toText fault).2) :=
  Client.sendOver_of_sent (send_registered hn ((h.records.isSubscribed_iff hn).2 hreports))
    (Registry.orFailure_ne _)

theorem sendOver_written (h : t.Traced reported)
    (hn : t.registry.registered.get? modeluri = some n) (hopen : ReportsOpen (reported n)) :
    n < t.frames.length ∧
      (c.sendOver modeluri (.ok m) fault t).1.frames =
        (if fault = none then t.frames.modify n (· ++ [m.toText]) else t.frames) ∧
      (c.sendOver modeluri (.ok m) fault t).2 = Registry.orFailure true fault := by
  obtain ⟨channel, l, hchannel, hl, hfits⟩ := h.exists_fits hn
  obtain ⟨hfailure, hframes⟩ := handOver_eq hchannel hl m.toText fault
  have hlive := hfits.isLive hopen
  rw [h.sendOver_eq hn hopen.not_closed]
  refine ⟨?_, ?_, ?_⟩
  · simpa [frames] using (List.getElem?_eq_some_iff.1 hl).1
  · simpa only [hlive, true_and] using hframes
  · rw [hfailure, Line.failure_send hlive]

theorem sendOver_connecting (h : t.Traced reported)
    (hn : t.registry.registered.get? modeluri = some n) (hsilent : Silent (reported n)) :
    (c.sendOver modeluri (.ok m) fault t).1.frames = t.frames ∧
      ∃ address, (c.sendOver modeluri (.ok m) fault t).2 =
        .error (.reported (.channelNotOpen address)) := by
  obtain ⟨channel, l, hchannel, hl, hfits⟩ := h.exists_fits hn
  obtain ⟨hfailure, hframes⟩ := handOver_eq hchannel hl m.toText fault
  obtain rfl := hfits.eq_connecting hsilent
  rw [h.sendOver_eq hn hsilent.not_closed]
  exact ⟨hframes, channel.address, by rw [hfailure]; rfl⟩

theorem sendOver_declined (h : t.Traced reported)
    (hclosed : ∀ n, t.registry.registered.get? modeluri = some n → ReportsClosed (reported n)) :
    c.sendOver modeluri (.ok m) fault t = (t, c.declines modeluri) := by
  refine Client.sendOver_declines (send_refused (fun n hn => ?_) _)
  exact Bool.eq_false_iff.2 fun hsubscribed =>
    (h.records.isSubscribed_iff hn).1 hsubscribed (hclosed n hn)

end Traffic.Traced

end

/-! ## The main statement -/

/-- **Who gets a message.** A registered channel that has reported its opening and no close since
is handed the message as one text, from which it is read again, and no other channel is handed
anything; the client answers that it is sent unless the channel fails. If no such channel has
reported anything else than a close, nothing is handed over: the first version answers that there
is none, the second one fails. A channel that has reported neither is handed the message, too; one
with a connection refuses it then, and nothing is written. -/
theorem send_reaches (c : Client) (modeluri : String) (m : Envelope) :
    (∀ ms conduct,
      let t := (Switchboard.start c.baseUrl c.defaultFormat).run ms
      let reported := fun n => (Switchboard.start c.baseUrl c.defaultFormat).reported n ms
      let o := c.send conduct modeluri (.ok m) t.registry
      (∀ n, t.registry.registered.get? modeluri = some n →
        ReportsOpen (reported n) ∨ Silent (reported n) →
          n < t.registry.texts.length ∧
          o.registry.texts = t.registry.texts.modify n (· ++ [m.toText]) ∧
          ∀ failure, (∀ count, (conduct n).sending count = { failure := failure }) →
            o.result = Registry.orFailure true failure) ∧
      ((∀ n, t.registry.registered.get? modeluri = some n → ReportsClosed (reported n)) →
        o = ⟨t.registry, [], c.declines modeluri⟩)) ∧
    (∀ acts fault,
      let t := (Traffic.start c.baseUrl c.defaultFormat).play acts
      let reported := fun n => (Traffic.start c.baseUrl c.defaultFormat).reported n acts
      let after := c.sendOver modeluri (.ok m) fault t
      (∀ n, t.registry.registered.get? modeluri = some n → ReportsOpen (reported n) →
        n < t.frames.length ∧
        after.1.frames =
          (if fault = none then t.frames.modify n (· ++ [m.toText]) else t.frames) ∧
        after.2 = Registry.orFailure true fault) ∧
      (∀ n, t.registry.registered.get? modeluri = some n → Silent (reported n) →
        after.1.frames = t.frames ∧
        ∃ address, after.2 = .error (.reported (.channelNotOpen address))) ∧
      ((∀ n, t.registry.registered.get? modeluri = some n → ReportsClosed (reported n)) →
        after = (t, c.declines modeluri))) ∧
    (m.data.WellFormed → m.data.Faithful → Envelope.ofFrame (.text m.toText) = .ok m) := by
  refine ⟨fun ms conduct => ?_, fun acts fault => ?_, fun hw hf => ?_⟩
  · intro t reported o
    have h : t.registry.Records reported := Switchboard.records_of_run _ _ ms
    refine ⟨fun n hn hreports => ?_, h.send_declined⟩
    exact h.send_handed hn (hreports.elim ReportsOpen.not_closed Silent.not_closed)
  · intro t reported after
    have h : t.Traced reported := Traffic.traced_of_play _ _ acts
    exact ⟨fun n hn => h.sendOver_written hn, fun n hn => h.sendOver_connecting hn,
      h.sendOver_declined⟩
  · simp only [Envelope.ofFrame, Envelope.toText, Json.text,
      Json.read_render_of_faithful Json.Layout.spaced_isPlain (Envelope.wellFormed_toWire hw)
        (Envelope.faithful_toWire hf), Envelope.ofJson_toWire]

/-- A client of the first version. -/
def firstClient : Client := { localClient with protocol := .v1, defaultFormat := "json" }

/-- A message is written once the connection has been made, and after it has ended the client
answers that there is no channel. -/
theorem send_reaches_once :
    let listener : Listener := { protocol := some .v1 }
    let acts : List Traffic.Act :=
      [.happens (.subscribe "m.coffee" listener {}), .happens (.signal 0 (.connected none))]
    let start := Traffic.start firstClient.baseUrl firstClient.defaultFormat
    let sent := firstClient.sendOver "m.coffee" (.ok .keepAlive) none (start.play acts)
    let ended := start.play (acts ++ [.happens (.signal 0 (.ended .normal))])
    ReportsOpen (start.reported 0 acts) ∧
      sent.1.frames = [["\x7b\"type\": \"keepAlive\"\x7d"]] ∧ sent.2 = .ok true ∧
      firstClient.sendOver "m.coffee" (.ok .keepAlive) none ended = (ended, .ok false) := by
  intro listener acts start sent ended
  obtain ⟨-, hplay, -⟩ := send_reaches firstClient "m.coffee" .keepAlive
  have hopen : ReportsOpen (start.reported 0 acts) := ⟨[], [], by decide +kernel, by simp⟩
  have hregistered : (start.play acts).registry.registered.get? "m.coffee" = some 0 := by
    decide +kernel
  have hgone : ended.registry.registered.get? "m.coffee" = none := by decide +kernel
  obtain ⟨-, hframes, hanswer⟩ := (hplay acts none).1 0 hregistered hopen
  refine ⟨hopen, ?_, hanswer, ?_⟩
  · rw [if_pos rfl] at hframes
    rw [hframes]
    decide +kernel
  · exact (hplay _ none).2.2 fun n hn => absurd (hgone.symm.trans hn) (by simp)

/-- **A channel that has not opened takes messages.** While the channel of a model is connecting,
the first version answers that a message has been sent, if the channel takes it, and it fails over
a connection; it never answers that there is no open channel. -/
theorem sent_before_opening :
    let listener : Listener := { protocol := some .v1 }
    let start := Switchboard.start firstClient.baseUrl firstClient.defaultFormat
    let moves : List Move := [.subscribe "m.coffee" listener {} none]
    let o := firstClient.send (fun _ => {}) "m.coffee" (.ok .keepAlive) (start.run moves).registry
    let connecting := (Traffic.start firstClient.baseUrl firstClient.defaultFormat).play
      [.happens (.subscribe "m.coffee" listener {})]
    (start.run moves).registry.registered.get? "m.coffee" = some 0 ∧
      ¬ ReportsOpen (start.reported 0 moves) ∧
      o.registry.texts = [["\x7b\"type\": \"keepAlive\"\x7d"]] ∧ o.result = .ok true ∧
      (firstClient.sendOver "m.coffee" (.ok .keepAlive) none connecting).2 =
        .error (.reported (.channelNotOpen
          "ws://localhost:8081/api/v2/subscribe?modeluri=m.coffee&format=json")) := by
  intro listener start moves o connecting
  refine ⟨by decide +kernel, ?_, by decide +kernel, ?_, ?_⟩
  · rintro ⟨before, after, heq, -⟩
    have hnone : start.reported 0 moves = [] := by decide +kernel
    simp [hnone] at heq
  · decide +kernel
  · decide +kernel

end Subscription

end RemoteModel
