import RemoteModel.Proofs.Notification.Frames
import RemoteModel.Proofs.Subscription.Switchboard

/-!
# Who hears what

**Main statement.** `heard_of_subscribe`: in every run of calls and events, the listener of a call
that makes a channel is told what the channel reports, event by event and in order, always for
the model of the call. A listener whose call makes no channel is told nothing, and nobody else is
told anything.

The proof is an induction over the run with two invariants:

* *numbering*: each channel has one maker, and makers are calls that have started (`Numbered`), and
* *parties*: the model and the listener of a channel are those of its maker, for good.

What becomes of the registration of a channel plays no part.
-/

namespace RemoteModel

/-! ## What events convey -/

/-- What a subscriber of the second protocol is told about an event: the callback, the type of the
notification and what it reports. -/
inductive Conveys : Event → Callback → String → Report → Prop
  | opened : Conveys .opened .opened "open" .plain
  | closed (code : Int) (reason : String) :
      Conveys (.closed code reason) .closed "close"
        (.closed code (Event.closeReason code reason))
  | failed (problem : Problem) : Conveys (.failed problem) .failed "error" (.failed problem)
  | arrived {frame : Frame} {callback : Callback} {type : String} {report : Report}
      (h : Tells frame callback type report) : Conveys (.arrived frame) callback type report

namespace Subscription

variable {modeluri : String} {listener : Listener} {o : Options} {making : Option Failure}

theorem exists_conveys (h : listener.protocol = some .v2) (modeluri : String) (e : Event) :
    ∃ callback type report, Conveys e callback type report ∧
      (listener.react modeluri e).1 = [.typed ⟨callback, ⟨modeluri, type, report⟩⟩] := by
  have hcall : ∃ callback type report, Conveys e callback type report ∧
      e.call .v2 modeluri = .ok ⟨callback, ⟨modeluri, type, report⟩⟩ := by
    cases e with
    | opened => exact ⟨_, _, _, .opened, rfl⟩
    | closed code reason => exact ⟨_, _, _, .closed code reason, rfl⟩
    | failed problem => exact ⟨_, _, _, .failed problem, rfl⟩
    | arrived frame =>
      obtain ⟨callback, type, report, htells⟩ := Event.exists_tells frame
      exact ⟨_, _, _, .arrived htells, Event.frameCall_of_tells modeluri htells⟩
  obtain ⟨callback, type, report, hconveys, hcall⟩ := hcall
  refine ⟨callback, type, report, hconveys, ?_⟩
  simp only [Listener.react, h, hcall]

theorem Registry.notify_deliveries {r : Registry} {n : Nat} (e : Event)
    (h : r.parties[n]? = some (modeluri, listener)) :
    (r.notify n e).2.1 = (listener.react modeluri e).1 := by
  rw [parties, List.getElem?_map, Option.map_eq_some_iff] at h
  obtain ⟨c, hc, heq⟩ := h
  cases heq
  simp only [notify, hc]
  split <;> rfl

/-! ## Events and what is heard of them -/

/-- The events of a channel among some moves. -/
def Move.eventsOf (n : Nat) (ms : List Move) : List Event :=
  ms.filterMap fun
    | .event m e => if m = n then some e else none
    | _ => none

/-- What the listener of a call has heard. -/
def Told.heard (k : Nat) (log : List Told) : List Delivery :=
  log.filterMap fun x => if x.call = k then some x.delivery else none

theorem Told.heard_append (k : Nat) (log more : List Told) :
    heard k (log ++ more) = heard k log ++ heard k more :=
  List.filterMap_append

theorem Told.heard_self (k : Nat) (ds : List Delivery) : heard k (ds.map (Told.mk k)) = ds := by
  simp [heard, List.filterMap_map]

theorem Told.heard_eq_nil {k : Nat} {log : List Told} (h : ∀ x ∈ log, x.call ≠ k) :
    heard k log = [] := by
  refine List.filterMap_eq_nil_iff.2 fun x hx => ?_
  rw [if_neg (h x hx)]

namespace Switchboard

open Told (heard heard_append heard_self heard_eq_nil)
open Move (eventsOf)

variable {t t' : Switchboard} {n k : Nat}

/-! ## Numbering -/

/-- The channels are made by different calls, which have started. -/
structure Numbered (t : Switchboard) : Prop where
  aligned : t.makers.length = t.registry.parties.length
  started : ∀ k ∈ t.makers, k < t.stages.length
  once : t.makers.Nodup

theorem Numbered.start (baseUrl defaultFormat : String) : (start baseUrl defaultFormat).Numbered :=
  ⟨rfl, by simp [Switchboard.start], by simp [Switchboard.start]⟩

theorem Turn.numbered {m : Move} (hturn : Turn t m t') (h : t.Numbered) : t'.Numbered := by
  cases hturn with
  | made hmakes hr =>
    refine ⟨?_, ?_, ?_⟩
    · have haligned := h.aligned
      simp only [enter, Registry.parties_register hr, List.length_append, List.length_singleton]
      omega
    · intro k hk
      simp only [enter, List.length_append, List.length_singleton]
      rcases List.mem_append.1 hk with hk | hk
      · have hlt := h.started k hk
        omega
      · rw [List.mem_singleton] at hk
        omega
    · refine List.nodup_append.2 ⟨h.once, by simp, ?_⟩
      rintro a ha b hb rfl
      have hlt := h.started a ha
      rw [List.mem_singleton] at hb
      omega
  | edited hedits hmakers hstages =>
    refine ⟨?_, ?_, ?_⟩
    · rw [hmakers, Registry.parties_of_edits hedits]
      exact h.aligned
    · intro k hk
      have hlt := h.started k (hmakers ▸ hk)
      omega
    · rw [hmakers]
      exact h.once

theorem Numbered.next (h : t.Numbered) (m : Move) : (t.next m).Numbered :=
  (turn_next t m).numbered h

theorem run_append (t : Switchboard) (as bs : List Move) :
    t.run (as ++ bs) = (t.run as).run bs := List.foldl_append

theorem Numbered.run (h : t.Numbered) (ms : List Move) : (t.run ms).Numbered := by
  induction ms generalizing t with
  | nil => exact h
  | cons m rest ih => exact ih (h.next m)

theorem Turn.makers {m : Move} (h : Turn t m t') :
    t'.makers = t.makers ∨
      t'.makers = t.makers ++ [t.stages.length] ∧
        ∃ modeluri listener o making, m = .subscribe modeluri listener o making ∧
          t.Makes modeluri o making := by
  cases h with
  | made hmakes _ => exact .inr ⟨rfl, _, _, _, _, rfl, hmakes⟩
  | edited _ hmakers _ => exact .inl hmakers

theorem getElem?_makers_next (h : t.makers[n]? = some k) (m : Move) :
    (t.next m).makers[n]? = some k := by
  rcases (turn_next t m).makers with hmakers | ⟨hmakers, -⟩
  · rwa [hmakers]
  · rwa [hmakers, List.getElem?_append_left (List.getElem?_eq_some_iff.1 h).1]

theorem Turn.getElem?_parties {m : Move} (hturn : Turn t m t') {p : String × Listener}
    (h : t.registry.parties[n]? = some p) : t'.registry.parties[n]? = some p := by
  cases hturn with
  | made _ hr =>
    simp only [enter, Registry.parties_register hr]
    rwa [List.getElem?_append_left (List.getElem?_eq_some_iff.1 h).1]
  | edited hedits _ _ => rwa [Registry.parties_of_edits hedits]

theorem Turn.stages {m : Move} (h : Turn t m t') : t.stages.length ≤ t'.stages.length := by
  cases h with
  | made _ _ => simp [enter]
  | edited _ _ hstages => exact hstages

theorem stages_run (t : Switchboard) (ms : List Move) :
    t.stages.length ≤ (t.run ms).stages.length := by
  induction ms generalizing t with
  | nil => exact Nat.le.refl
  | cons m rest ih => exact Nat.le_trans (turn_next t m).stages (ih (t.next m))

theorem log_append (t : Switchboard) (as bs : List Move) :
    t.log (as ++ bs) = t.log as ++ (t.run as).log bs := by
  induction as generalizing t with
  | nil => rfl
  | cons m rest ih =>
    rw [List.cons_append, log, log, ih, List.append_assoc]
    rfl

/-! ## Single moves -/

theorem told_event (hk : t.makers[n]? = some k)
    (hp : t.registry.parties[n]? = some (modeluri, listener)) (e : Event) :
    t.told (.event n e) = (listener.react modeluri e).1.map (Told.mk k) := by
  simp only [told, hk, Registry.notify_deliveries e hp]

theorem mem_makers_of_told {m : Move} {x : Told} (h : x ∈ t.told m) : x.call ∈ t.makers := by
  unfold told at h
  split at h
  · split at h
    · rename_i k hk
      obtain ⟨d, -, rfl⟩ := List.mem_map.1 h
      exact List.mem_of_getElem? hk
    · cases h
  · cases h

theorem heard_told_of_ne (h : t.Numbered) (hk : t.makers[n]? = some k) {m : Move}
    (hm : ∀ e, m ≠ .event n e) : heard k (t.told m) = [] := by
  refine heard_eq_nil fun x hx hcall => ?_
  cases m with
  | event i e =>
    unfold told at hx
    simp only at hx
    cases hi : t.makers[i]? with
    | none => simp [hi] at hx
    | some j =>
      simp only [hi, List.mem_map] at hx
      obtain ⟨d, -, rfl⟩ := hx
      have hilt := (List.getElem?_eq_some_iff.1 hi).1
      have hjk : j = k := hcall
      have hin : i = n := (List.getElem?_inj hilt h.once).1 (by rw [hi, hk, hjk])
      exact hm e (hin ▸ rfl)
  | _ => simp [told] at hx

/-! ## Runs -/

/-- **A channel is heard by the listener of its maker**, whatever else happens. -/
theorem heard_log_of_maker (h : t.Numbered) (hk : t.makers[n]? = some k)
    (hp : t.registry.parties[n]? = some (modeluri, listener)) (ms : List Move) :
    heard k (t.log ms) = (eventsOf n ms).flatMap fun e => (listener.react modeluri e).1 := by
  induction ms generalizing t with
  | nil => rfl
  | cons m rest ih =>
    have hrest := ih (h.next m) (getElem?_makers_next hk m) ((turn_next t m).getElem?_parties hp)
    rw [log, heard_append, hrest]
    by_cases hm : ∃ e, m = .event n e
    · obtain ⟨e, rfl⟩ := hm
      rw [told_event hk hp, heard_self]
      simp [eventsOf]
    · have hne : ∀ e, m ≠ .event n e := fun e he => hm ⟨e, he⟩
      rw [heard_told_of_ne h hk hne]
      cases m with
      | event i e =>
        have hi : i ≠ n := fun hi => hne e (hi ▸ rfl)
        simp [eventsOf, hi]
      | _ => simp [eventsOf]

/-- A call that has started and has made no channel will make none. -/
theorem heard_log_of_no_maker (hk : k ∉ t.makers) (hlt : k < t.stages.length) (ms : List Move) :
    heard k (t.log ms) = [] := by
  induction ms generalizing t with
  | nil => rfl
  | cons m rest ih =>
    have hnext : k ∉ (t.next m).makers := by
      rcases (turn_next t m).makers with hmakers | ⟨hmakers, -⟩ <;> rw [hmakers]
      · exact hk
      · simp only [List.mem_append, List.mem_singleton, not_or]
        exact ⟨hk, by omega⟩
    rw [log, heard_append, ih hnext (Nat.lt_of_lt_of_le hlt (turn_next t m).stages),
      List.append_nil]
    exact heard_eq_nil fun x hx hcall => hk (hcall ▸ mem_makers_of_told hx)

/-- Only listeners of calls that have started are told anything. -/
theorem call_lt_of_mem_log (h : t.Numbered) {ms : List Move} {x : Told} (hx : x ∈ t.log ms) :
    x.call < (t.run ms).stages.length := by
  induction ms generalizing t with
  | nil => cases hx
  | cons m rest ih =>
    rcases List.mem_append.1 hx with hx | hx
    · have hlt := h.started x.call (mem_makers_of_told hx)
      exact Nat.lt_of_lt_of_le hlt (stages_run t (m :: rest))
    · exact ih (h.next m) hx

/-- Whoever is told something has made a channel, before the moves or among them. -/
theorem maker_of_mem_log {ms : List Move} {x : Told} (hx : x ∈ t.log ms) :
    x.call ∈ t.makers ∨
      ∃ before after modeluri listener o making,
        ms = before ++ .subscribe modeluri listener o making :: after ∧
          (t.run before).Makes modeluri o making ∧ x.call = (t.run before).stages.length := by
  induction ms generalizing t with
  | nil => cases hx
  | cons m rest ih =>
    rcases List.mem_append.1 hx with hx | hx
    · exact .inl (mem_makers_of_told hx)
    · rcases ih hx with hmem | ⟨before, after, modeluri, listener, o, making, rfl, hmakes, hcall⟩
      · rcases (turn_next t m).makers with
          hmakers | ⟨hmakers, modeluri, listener, o, making, rfl, hmakes⟩
        · exact .inl (hmakers ▸ hmem)
        · rw [hmakers, List.mem_append, List.mem_singleton] at hmem
          rcases hmem with hmem | hcall
          · exact .inl hmem
          · exact .inr ⟨[], rest, modeluri, listener, o, making, rfl, hmakes, hcall⟩
      · exact .inr ⟨m :: before, after, modeluri, listener, o, making, rfl, hmakes, hcall⟩

/-! ## The main statement -/

/-- What the listener of a call hears in a run. -/
theorem heard_log_subscribe (h : t.Numbered) (before after : List Move) (modeluri : String)
    (listener : Listener) (o : Options) (making : Option Failure) :
    heard (t.run before).stages.length
        (t.log (before ++ .subscribe modeluri listener o making :: after)) =
      if (t.run before).Makes modeluri o making then
        (eventsOf (t.run before).registry.channels.length after).flatMap fun e =>
          (listener.react modeluri e).1
      else [] := by
  have hbefore : heard (t.run before).stages.length (t.log before) = [] :=
    heard_eq_nil fun x hx => Nat.ne_of_lt (call_lt_of_mem_log h hx)
  rw [log_append, log, heard_append, heard_append, hbefore]
  have hs := h.run before
  generalize t.run before = s at hs ⊢
  show [] ++ ([] ++ heard s.stages.length ((s.subscribe modeluri listener o making).log after)) = _
  rw [List.nil_append, List.nil_append]
  have hnew : s.stages.length ∉ s.makers := fun hmem => Nat.lt_irrefl _ (hs.started _ hmem)
  by_cases hmakes : s.Makes modeluri o making
  · have hnext := hs.next (.subscribe modeluri listener o making)
    obtain ⟨r, hr, heq⟩ := subscribe_of_makes listener hmakes
    have haligned := hs.aligned
    have hlength := Registry.length_parties s.registry
    rw [next, heq] at hnext
    rw [heq, if_pos hmakes]
    refine heard_log_of_maker hnext ?_ ?_ after
    · rw [← hlength, ← haligned]
      exact List.getElem?_concat_length
    · show r.parties[s.registry.channels.length]? = _
      rw [Registry.parties_register hr, ← hlength]
      exact List.getElem?_concat_length
  · obtain ⟨answer, heq⟩ := subscribe_of_not_makes listener hmakes
    rw [heq, if_neg hmakes]
    exact heard_log_of_no_maker (t := s.enter s.registry (.returned answer)) hnew
      (by simp [enter]) after

/-- **Each listener hears its own channel.** In a run of calls and events, however they lie, the
listener of a call is told what it makes of each event of the channel that the call has made, in
order and for the model of the call; a listener of the second protocol gets one call for each
event, the one that the event conveys. A listener whose call makes no channel is told nothing,
and nothing is told but to listeners of calls that make channels. -/
theorem heard_of_subscribe (baseUrl defaultFormat : String) (before after : List Move)
    (modeluri : String) (listener : Listener) (o : Options) (making : Option Failure) :
    let t := (start baseUrl defaultFormat).run before
    let ms := before ++ .subscribe modeluri listener o making :: after
    let log := (start baseUrl defaultFormat).log ms
    let events := eventsOf t.registry.channels.length after
    (t.Makes modeluri o making →
      heard t.stages.length log = events.flatMap (fun e => (listener.react modeluri e).1) ∧
        (listener.protocol = some .v2 →
          List.Forall₂
            (fun e delivery => ∃ callback type report, Conveys e callback type report ∧
              delivery = .typed ⟨callback, ⟨modeluri, type, report⟩⟩)
            events (heard t.stages.length log))) ∧
    (¬ t.Makes modeluri o making → heard t.stages.length log = []) ∧
    ∀ x ∈ log, ∃ before' after' modeluri' listener' o' making',
      ms = before' ++ .subscribe modeluri' listener' o' making' :: after' ∧
        ((start baseUrl defaultFormat).run before').Makes modeluri' o' making' ∧
          x.call = ((start baseUrl defaultFormat).run before').stages.length := by
  intro t ms log events
  have hheard := heard_log_subscribe (Numbered.start baseUrl defaultFormat) before after modeluri
    listener o making
  refine ⟨fun hmakes => ?_, fun hmakes => ?_, fun x hx => ?_⟩
  · rw [if_pos hmakes] at hheard
    refine ⟨hheard, fun hv2 => ?_⟩
    rw [hheard]
    show List.Forall₂ _ events (events.flatMap _)
    induction events with
    | nil => exact .nil
    | cons e rest ih =>
      obtain ⟨callback, type, report, hconveys, hreact⟩ := exists_conveys hv2 modeluri e
      rw [List.flatMap_cons, hreact]
      exact .cons ⟨callback, type, report, hconveys, rfl⟩ ih
  · rw [if_neg hmakes] at hheard
    exact hheard
  · rcases maker_of_mem_log hx with hmem | hmade
    · cases hmem
    · exact hmade

/-- A model is subscribed to, left and subscribed to again; then its first channel reports once
more, a third call is ignored, and the second channel opens and closes. -/
theorem heard_of_subscribe_again :
    let v2 : Listener := { protocol := some .v2 }
    let before : List Move :=
      [.subscribe "m" v2 {} none, .event 0 .opened, .unsubscribe "m"]
    let after : List Move :=
      [.event 0 (.closed 1000 ""), .event 1 .opened, .subscribe "m" v2 {} none, .event 0 .opened,
        .event 1 (.closed 1001 "gone")]
    let t := (start "http://h/" "json").run before
    t.Makes "m" {} none ∧
      heard 2 ((start "http://h/" "json").log (before ++ .subscribe "m" v2 {} none :: after)) =
        [.typed ⟨.opened, ⟨"m", "open", .plain⟩⟩,
          .typed ⟨.closed, ⟨"m", "close", .closed 1001 "gone"⟩⟩] := by
  intro v2 before after t
  have hmakes : t.Makes "m" {} none := by decide +kernel
  have hstages : t.stages.length = 2 := by decide +kernel
  have hchannels : t.registry.channels.length = 1 := by decide +kernel
  have hheard := ((heard_of_subscribe "http://h/" "json" before after "m" v2 {} none).1 hmakes).1
  rw [hstages, hchannels] at hheard
  exact ⟨hmakes, hheard⟩

end Switchboard

end Subscription

end RemoteModel
