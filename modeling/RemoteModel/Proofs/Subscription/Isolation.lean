import RemoteModel.Proofs.Subscription.Standing
import RemoteModel.Proofs.Subscription.Uninterrupted

/-!
# Listeners that fail

A run of calls and events is compared with the run in which the same listeners never fail.

**Main statement.** `unmissed_iff`: the two runs have the same registrations at every point exactly
if no registered channel reports a close that its listener fails to take. Then they are the same
throughout: the channels and their states, the stages and the answers of all calls, and what is
told to whom. A close that is missed leaves its model registered with a closed channel, and a call
that ends the subscription finds one.

The proof is a simulation that forgets how listeners fail (`quiet`). Every move commutes with it
(`quiet_next`) but for the one case: the registry looks at the failure of a listener only to keep
a channel that has closed.
-/

namespace RemoteModel.Subscription

/-! ## Forgetting failures -/

/-- The same listener, which never fails. -/
def Listener.quiet (l : Listener) : Listener := { l with fails := fun _ => none }

def Channel.quiet (c : Channel) : Channel := { c with listener := c.listener.quiet }

def Registry.quiet (r : Registry) : Registry :=
  { r with channels := r.channels.map Channel.quiet }

def Switchboard.quiet (t : Switchboard) : Switchboard := { t with registry := t.registry.quiet }

def Move.quiet : Move → Move
  | .subscribe modeluri listener o making => .subscribe modeluri listener.quiet o making
  | m => m

theorem Listener.react_quiet (l : Listener) (modeluri : String) (e : Event) :
    (l.quiet.react modeluri e).1 = (l.react modeluri e).1 := by
  unfold react
  cases hp : l.protocol with
  | none => simp [quiet, hp]
  | some protocol => cases hcall : e.call protocol modeluri <;> simp [quiet, hp, hcall]

namespace Registry

variable {r r' : Registry} {n : Nat} {modeluri : String}

@[simp] theorem registered_quiet (r : Registry) : r.quiet.registered = r.registered := rfl

theorem getElem?_quiet (r : Registry) (n : Nat) :
    r.quiet.channels[n]? = (r.channels[n]?).map Channel.quiet := List.getElem?_map ..

theorem length_quiet (r : Registry) : r.quiet.channels.length = r.channels.length :=
  List.length_map ..

theorem state_quiet (r : Registry) (modeluri : String) :
    r.quiet.state modeluri = r.state modeluri := by
  unfold state channel?
  simp only [registered_quiet, getElem?_quiet]
  cases r.registered.get? modeluri with
  | none => rfl
  | some m =>
    simp only [Option.bind_some]
    cases r.channels[m]? <;> rfl

theorem isSubscribed_quiet (r : Registry) (modeluri : String) :
    r.quiet.isSubscribed modeluri = r.isSubscribed modeluri := by
  unfold isSubscribed
  rw [state_quiet]

theorem quiet_modify {f : Channel → Channel} (hf : ∀ c, (f c).quiet = f c.quiet) :
    (r.modify n f).quiet = r.quiet.modify n f := by
  have hchannels : (r.channels.modify n f).map Channel.quiet =
      (r.channels.map Channel.quiet).modify n f := by
    refine List.ext_getElem? fun m => ?_
    simp only [List.getElem?_map, List.getElem?_modify]
    cases r.channels[m]? with
    | none => rfl
    | some c => by_cases hm : n = m <;> simp [hm, hf]
  unfold quiet modify
  rw [hchannels]

theorem quiet_drop : (r.drop n).quiet = r.quiet.drop n := by
  unfold drop
  rw [getElem?_quiet]
  cases r.channels[n]? with
  | none => rfl
  | some c =>
    show Registry.quiet (if r.registered.get? c.modeluri = some n then _ else _) =
      if r.registered.get? c.modeluri = some n then _ else _
    split <;> rfl

theorem quiet_abandon : (r.abandon n).quiet = r.quiet.abandon n := by
  have hmodify : (r.modify n fun c => { c with state := .closed }).quiet =
      r.quiet.modify n fun c => { c with state := .closed } := quiet_modify fun _ => rfl
  unfold abandon
  rw [quiet_drop, hmodify]

theorem quiet_withdraw (modeluri : String) :
    (r.withdraw modeluri).map (fun x => (x.1.quiet, x.2)) = r.quiet.withdraw modeluri := by
  unfold withdraw
  rw [Option.map_map]
  rfl

theorem quiet_register (modeluri : String) (listener : Listener) (o : Options) :
    (r.register modeluri listener o).map quiet =
      r.quiet.register modeluri listener.quiet o := by
  unfold register
  rw [Option.map_map, length_quiet]
  refine congrArg (Option.map · _) (funext fun address => ?_)
  simp [quiet, Channel.quiet, Listener.quiet]

/-! ## Reports -/

theorem react_closed (l : Listener) (modeluri : String) (code : Int) (reason : String) :
    (l.react modeluri (.closed code reason)).2 = l.fails (.closed code reason) := by
  unfold Listener.react
  cases l.protocol <;> rfl

/-- A registered channel reports a close that its listener fails to take. -/
def Misses (r : Registry) (n : Nat) : Event → Prop
  | .closed code reason => ∃ c ∈ r.channels[n]?,
      r.registered.get? c.modeluri = some n ∧ c.listener.fails (.closed code reason) ≠ none
  | _ => False

instance (r : Registry) (n : Nat) : (e : Event) → Decidable (r.Misses n e)
  | .closed _ _ => inferInstanceAs (Decidable (∃ c ∈ r.channels[n]?, _))
  | .opened => .isFalse id
  | .failed _ => .isFalse id
  | .arrived _ => .isFalse id

/-- A close that is not taken changes the state of its channel alone. -/
theorem notify_missed {c : Channel} {code : Int} {reason : String} (hc : r.channels[n]? = some c)
    (hmissed : c.listener.fails (.closed code reason) ≠ none) :
    (r.notify n (.closed code reason)).1 = r.modify n fun c => { c with state := .closed } := by
  obtain ⟨failure, hfailure⟩ := Option.ne_none_iff_exists'.1 hmissed
  have hreact := react_closed c.listener c.modeluri code reason
  rw [hfailure] at hreact
  simp only [notify, hc, hreact]
  rfl

theorem notify_of_ne_closed {e : Event} (he : ∀ code reason, e ≠ .closed code reason) :
    (r.notify n e).1 = r.modify n fun c => { c with state := c.state.after e } := by
  rcases notify_fst r n e with h | ⟨⟨code, reason, hclosed⟩, -⟩
  · exact h
  · exact absurd hclosed (he code reason)

/-- **The only failure that matters** is that of a close of a registered channel. -/
theorem quiet_notify {e : Event} (h : ¬ r.Misses n e) :
    (r.notify n e).1.quiet = (r.quiet.notify n e).1 := by
  by_cases he : ∃ code reason, e = .closed code reason
  · obtain ⟨code, reason, rfl⟩ := he
    cases hc : r.channels[n]? with
    | none =>
      have hc' : r.quiet.channels[n]? = none := by rw [getElem?_quiet, hc]; rfl
      simp [notify, hc, hc']
    | some c =>
      have hc' : r.quiet.channels[n]? = some c.quiet := by rw [getElem?_quiet, hc]; rfl
      have hmodify : (r.modify n fun c => { c with state := .closed }).quiet =
          r.quiet.modify n fun c => { c with state := .closed } := quiet_modify fun _ => rfl
      have hquiet : (r.quiet.notify n (.closed code reason)).1 =
          (r.quiet.modify n fun c => { c with state := .closed }).drop n := notify_closed hc' rfl
      rw [hquiet, ← hmodify]
      by_cases htaken : c.listener.fails (.closed code reason) = none
      · rw [notify_closed hc htaken, quiet_drop]
      · -- The close is missed, but its channel has left the registry before.
        have hleft : r.registered.get? c.modeluri ≠ some n :=
          fun hget => h ⟨c, hc, hget, htaken⟩
        rw [notify_missed hc htaken, ← quiet_drop]
        have hchannel : (r.modify n fun c => { c with state := .closed }).channels[n]? =
            some { c with state := .closed } := by
          show (r.channels.modify n _)[n]? = _
          rw [List.getElem?_modify_eq, hc]
          rfl
        have hdrop : (r.modify n fun c => { c with state := .closed }).drop n =
            r.modify n fun c => { c with state := .closed } := by
          simp only [drop, hchannel]
          exact if_neg hleft
        rw [hdrop]
  · have hne : ∀ code reason, e ≠ .closed code reason :=
      fun code reason heq => he ⟨code, reason, heq⟩
    rw [notify_of_ne_closed hne, notify_of_ne_closed hne]
    exact quiet_modify fun _ => rfl

theorem get?_drop_self (hd : r.registered.Distinct) (hn : r.modeluri? n = some modeluri)
    (hget : r.registered.get? modeluri = some n) :
    (r.drop n).registered.get? modeluri = none := by
  obtain ⟨c, hc, rfl⟩ := Option.map_eq_some_iff.1 hn
  simp only [drop, hc]
  rw [if_pos hget]
  exact Entries.get?_erase_self hd c.modeluri

/-- Where listeners take closes, a channel that has reported one is not registered. -/
theorem Standing.get?_notify_closed_ne (h : r.Standing) (n : Nat) (code : Int) (reason u : String) :
    (r.notify n (.closed code reason)).1.registered.get? u ≠ some n := by
  intro hget
  have hbefore := (touches_notify h.distinct _).fewer u n hget
  obtain ⟨-, c, hc, -⟩ := h.held u n hbefore
  have hmem : (c.modeluri, c.listener) ∈ r.parties :=
    List.mem_map_of_mem (f := fun c : Channel => (c.modeluri, c.listener))
      (List.mem_of_getElem? hc)
  rw [notify_closed hc (h.taken _ hmem code reason)] at hget
  exact get?_abandon_ne h.distinct (h.own u n) hget

theorem deliveries_quiet (r : Registry) (n : Nat) (e : Event) :
    (r.quiet.notify n e).2.1 = (r.notify n e).2.1 := by
  unfold notify
  rw [getElem?_quiet]
  cases r.channels[n]? with
  | none => rfl
  | some c =>
    have hreact := c.listener.react_quiet c.modeluri e
    simp only [Option.map_some]
    split <;> split <;> exact hreact

end Registry

namespace Switchboard

variable {t t' : Switchboard} {modeluri : String}

/-! ## Single moves -/

/-- A registered channel reports a close that its listener fails to take. -/
def Misses (t : Switchboard) : Move → Prop
  | .event n e => t.registry.Misses n e
  | _ => False

theorem quiet_proceed (k : Nat) (r : Registry) (s : Stage) :
    (t.proceed k r s).quiet = t.quiet.proceed k r.quiet s := rfl

theorem quiet_askToClose (r : Registry) (n : Nat) :
    (r.askToClose n).quiet = r.quiet.askToClose n := Registry.quiet_modify fun _ => rfl

theorem quiet_handOver (r : Registry) (n : Nat) (text : String) :
    (r.handOver n text).quiet = r.quiet.handOver n text := Registry.quiet_modify fun _ => rfl

theorem quiet_endNext (uris : List String) (r : Registry) :
    ((endNext uris r).1.quiet, (endNext uris r).2) = endNext uris r.quiet := by
  induction uris with
  | nil => rfl
  | cons modeluri rest ih =>
    rw [endNext, endNext, ← Registry.quiet_withdraw]
    cases r.withdraw modeluri with
    | none => exact ih
    | some after => simp [quiet_askToClose]

theorem quiet_subscribe (t : Switchboard) (modeluri : String) (listener : Listener) (o : Options)
    (making : Option Failure) :
    (t.subscribe modeluri listener o making).quiet =
      t.quiet.subscribe modeluri listener.quiet o making := by
  have hsub := Registry.isSubscribed_quiet t.registry modeluri
  have hstate := Registry.state_quiet t.registry modeluri
  have hregister := Registry.quiet_register (r := t.registry) modeluri listener o
  unfold subscribe
  simp only [quiet, hsub, hstate, ← hregister, Registry.length_quiet]
  split
  · rfl
  · cases t.registry.register modeluri listener o with
    | none => rfl
    | some r => cases making <;> rfl

theorem quiet_unsubscribe (t : Switchboard) (modeluri : String) :
    (t.unsubscribe modeluri).quiet = t.quiet.unsubscribe modeluri := by
  have hwithdraw := Registry.quiet_withdraw (r := t.registry) modeluri
  unfold unsubscribe
  simp only [quiet, ← hwithdraw]
  cases t.registry.withdraw modeluri with
  | none => rfl
  | some after => simp [enter, quiet_askToClose]

theorem quiet_send (t : Switchboard) (modeluri : String) (message : Checked Envelope) :
    (t.send modeluri message).quiet = t.quiet.send modeluri message := by
  have hsub := Registry.isSubscribed_quiet t.registry modeluri
  unfold send
  simp only [quiet, hsub, Registry.registered_quiet]
  cases t.registry.registered.get? modeluri with
  | none => rfl
  | some n =>
    cases t.registry.isSubscribed modeluri with
    | false => rfl
    | true => cases message <;> simp [enter, quiet_handOver]

theorem quiet_resume (t : Switchboard) (k : Nat) (failure : Option Failure) :
    (t.resume k failure).quiet = t.quiet.resume k failure := by
  unfold resume
  have hstages : t.quiet.stages = t.stages := rfl
  rw [hstages]
  cases t.stages[k]? with
  | none => rfl
  | some s =>
    cases s with
    | opening n =>
      cases failure with
      | none => rfl
      | some failure =>
        simp only [quiet_proceed, quiet_askToClose, Registry.quiet_abandon]
        rfl
    | closingAll n rest =>
      cases failure with
      | none =>
        have hnext := quiet_endNext rest t.registry
        rw [Prod.ext_iff] at hnext
        exact congrArg₂ (t.quiet.proceed k) hnext.1 hnext.2
      | some failure => rfl
    | _ => rfl

/-- **Forgetting failures commutes with every move** but for a close that is missed. -/
theorem quiet_next {m : Move} (h : ¬ t.Misses m) : (t.next m).quiet = t.quiet.next m.quiet := by
  cases m with
  | subscribe modeluri listener o making => exact quiet_subscribe t modeluri listener o making
  | unsubscribe modeluri => exact quiet_unsubscribe t modeluri
  | send modeluri message => exact quiet_send t modeluri message
  | closeAll =>
    have hnext := quiet_endNext t.registry.registered.names t.registry
    rw [Prod.ext_iff] at hnext
    exact congrArg₂ t.quiet.enter hnext.1 hnext.2
  | event n e =>
    show { t with registry := (t.registry.notify n e).1.quiet } = _
    rw [Registry.quiet_notify h]
    rfl
  | resume k failure => exact quiet_resume t k failure

/-- What is told in a move does not depend on failures. -/
theorem told_quiet (t : Switchboard) (m : Move) : t.quiet.told m.quiet = t.told m := by
  cases m with
  | event n e =>
    have hmakers : t.quiet.makers = t.makers := rfl
    show t.quiet.told (.event n e) = t.told (.event n e)
    simp only [told, hmakers]
    cases t.makers[n]? with
    | none => rfl
    | some k => exact congrArg (List.map (Told.mk k)) (Registry.deliveries_quiet t.registry n e)
  | _ => rfl

/-! ## Runs -/

instance (t : Switchboard) : (m : Move) → Decidable (t.Misses m)
  | .event n e => inferInstanceAs (Decidable (t.registry.Misses n e))
  | .subscribe .. => .isFalse id
  | .unsubscribe _ => .isFalse id
  | .send .. => .isFalse id
  | .closeAll => .isFalse id
  | .resume .. => .isFalse id

/-- No close of a registered channel is missed. -/
def Unmissed : Switchboard → List Move → Prop
  | _, [] => True
  | t, m :: rest => ¬ t.Misses m ∧ (t.next m).Unmissed rest

instance instDecidableUnmissed : (t : Switchboard) → (ms : List Move) → Decidable (t.Unmissed ms)
  | _, [] => .isTrue trivial
  | t, m :: rest =>
    have : Decidable ((t.next m).Unmissed rest) := instDecidableUnmissed (t.next m) rest
    inferInstanceAs (Decidable (¬ t.Misses m ∧ (t.next m).Unmissed rest))

theorem quiet_run {ms : List Move} (h : t.Unmissed ms) :
    (t.run ms).quiet = t.quiet.run (ms.map Move.quiet) := by
  induction ms generalizing t with
  | nil => rfl
  | cons m rest ih =>
    show ((t.next m).run rest).quiet = (t.quiet.next m.quiet).run (rest.map Move.quiet)
    rw [ih h.2, quiet_next h.1]

theorem log_quiet {ms : List Move} (h : t.Unmissed ms) :
    t.quiet.log (ms.map Move.quiet) = t.log ms := by
  induction ms generalizing t with
  | nil => rfl
  | cons m rest ih =>
    show t.quiet.told m.quiet ++ (t.quiet.next m.quiet).log (rest.map Move.quiet) = _
    rw [told_quiet, ← quiet_next h.1, ih h.2]
    rfl

theorem unmissed_append {as bs : List Move} :
    t.Unmissed (as ++ bs) ↔ t.Unmissed as ∧ (t.run as).Unmissed bs := by
  induction as generalizing t with
  | nil => exact ⟨fun h => ⟨trivial, h⟩, And.right⟩
  | cons m rest ih =>
    show (¬ t.Misses m ∧ (t.next m).Unmissed (rest ++ bs)) ↔
      (¬ t.Misses m ∧ (t.next m).Unmissed rest) ∧ _
    rw [ih, and_assoc]
    rfl

theorem exists_first_missed {ms : List Move} (h : ¬ t.Unmissed ms) :
    ∃ before m after, ms = before ++ m :: after ∧ t.Unmissed before ∧ (t.run before).Misses m := by
  induction ms generalizing t with
  | nil => exact absurd trivial h
  | cons m rest ih =>
    by_cases hm : t.Misses m
    · exact ⟨[], m, rest, rfl, trivial, hm⟩
    · obtain ⟨before, m', after, rfl, hbefore, hmissed⟩ := ih fun hrest => h ⟨hm, hrest⟩
      exact ⟨m :: before, m', after, rfl, ⟨hm, hbefore⟩, hmissed⟩

/-- **A close that is missed** leaves its model registered with a closed channel. -/
theorem registered_of_misses (hd : t.registry.registered.Distinct) {n : Nat} {e : Event}
    (h : t.Misses (.event n e)) :
    ∃ modeluri, (t.next (.event n e)).registry.registered.get? modeluri = some n ∧
      (t.next (.event n e)).registry.state modeluri = .closed ∧
      (t.quiet.next (.event n e)).registry.registered.get? modeluri = none := by
  cases e with
  | closed code reason =>
    obtain ⟨c, hmem, hget, hmissed⟩ := h
    have hc : t.registry.channels[n]? = some c := hmem
    have hquiet : t.registry.quiet.channels[n]? = some c.quiet := by
      rw [Registry.getElem?_quiet, hc]
      rfl
    refine ⟨c.modeluri, ?_, ?_, ?_⟩
    · show (t.registry.notify n _).1.registered.get? c.modeluri = some n
      rw [Registry.notify_missed hc hmissed]
      exact hget
    · show (t.registry.notify n _).1.state c.modeluri = .closed
      rw [Registry.notify_missed hc hmissed]
      simp [Registry.state, Registry.channel?, Registry.modify, hget, hc]
    · have htouches : Registry.Touches n t.registry.quiet
          (t.registry.quiet.modify n fun c => { c with state := .closed }) :=
        Registry.touches_modify (r := t.registry.quiet) hd fun _ => rfl
      show (t.registry.quiet.notify n _).1.registered.get? c.modeluri = none
      rw [Registry.notify_closed hquiet rfl]
      refine Registry.get?_drop_self htouches.distinct ?_ hget
      rw [htouches.modeluri?, Registry.modeluri?, hquiet]
      rfl
  | _ => cases h

theorem stages_unsubscribe {n : Nat} (h : t.registry.registered.get? modeluri = some n) :
    (t.unsubscribe modeluri).stages = t.stages ++ [.closing n] := by
  simp [unsubscribe, Registry.withdraw, h, enter]

theorem stages_unsubscribe_of_none (h : t.registry.registered.get? modeluri = none) :
    (t.unsubscribe modeluri).stages = t.stages ++ [.returned (.ok (some false))] := by
  simp [unsubscribe, Registry.withdraw, h, enter]

/-! ## The main statement -/

theorem standing_quiet (baseUrl defaultFormat : String) (ms : List Move) :
    ((start baseUrl defaultFormat).run (ms.map Move.quiet)).registry.Standing := by
  refine standing_run (standing_start baseUrl defaultFormat) _ ?_
  intro modeluri listener o making hmem e
  obtain ⟨m, -, hm⟩ := List.mem_map.1 hmem
  cases m with
  | subscribe _ _ _ _ =>
    cases hm
    rfl
  | _ => cases hm

theorem registered_quiet (t : Switchboard) :
    t.quiet.registry.registered = t.registry.registered := rfl

/-- A run that misses a close has a first one, which parts it from the quiet run. -/
theorem exists_registered_of_not_unmissed {baseUrl defaultFormat : String} {ms : List Move}
    (h : ¬ (start baseUrl defaultFormat).Unmissed ms) :
    ∃ before after n e modeluri, ms = before ++ .event n e :: after ∧
      let s := (start baseUrl defaultFormat).run (before ++ [.event n e])
      let q := (start baseUrl defaultFormat).run ((before ++ [.event n e]).map Move.quiet)
      s.registry.registered.get? modeluri = some n ∧ s.registry.state modeluri = .closed ∧
        q.registry.registered.get? modeluri = none := by
  obtain ⟨before, m, after, rfl, hbefore, hm⟩ := exists_first_missed h
  cases m with
  | event n e =>
    have hready := (Ready.start baseUrl defaultFormat).run before
    obtain ⟨modeluri, hget, hstate, hquiet⟩ := registered_of_misses hready.seated.distinct hm
    have hsame : ((start baseUrl defaultFormat).run before).quiet =
        (start baseUrl defaultFormat).run (before.map Move.quiet) := quiet_run hbefore
    refine ⟨before, after, n, e, modeluri, rfl, ?_⟩
    rw [List.map_append, run_append, run_append, ← hsame]
    exact ⟨hget, hstate, hquiet⟩
  | _ => cases hm

/-- In a run that misses no close a channel that has reported one is not registered. -/
theorem get?_closed_ne {baseUrl defaultFormat : String} {before : List Move} {n : Nat}
    {code : Int} {reason : String}
    (h : (start baseUrl defaultFormat).Unmissed (before ++ [.event n (.closed code reason)]))
    (u : String) :
    ((start baseUrl defaultFormat).run
      (before ++ [.event n (.closed code reason)])).registry.registered.get? u ≠ some n := by
  rw [← registered_quiet, quiet_run h, List.map_append, run_append]
  exact (standing_quiet baseUrl defaultFormat before).get?_notify_closed_ne n code reason u

/-- **Listeners that fail.** A run of calls and events has the same registrations as the run with
listeners that never fail, at every point, exactly if no registered channel reports a close that its
listener fails to take. Then both runs have the same channels, states, stages and answers, the same
is told to the same listeners, and a channel that has reported a close is not registered. Otherwise
the first close that is missed leaves its model registered with a closed channel; a call that ends
the subscription asks that channel to close, where there would be nothing to end. -/
theorem unmissed_iff (baseUrl defaultFormat : String) (ms : List Move) :
    let t := start baseUrl defaultFormat
    (t.Unmissed ms ↔ ∀ before after, ms = before ++ after →
      (t.run before).registry.registered =
        (t.run (before.map Move.quiet)).registry.registered) ∧
    (t.Unmissed ms →
      (t.run ms).quiet = t.run (ms.map Move.quiet) ∧ t.log ms = t.log (ms.map Move.quiet) ∧
      ∀ before after n code reason, ms = before ++ .event n (.closed code reason) :: after →
        ∀ u, (t.run (before ++ [.event n (.closed code reason)])).registry.registered.get? u ≠
          some n) ∧
    (¬ t.Unmissed ms → ∃ before after n e modeluri, ms = before ++ .event n e :: after ∧
      let s := t.run (before ++ [.event n e])
      let q := t.run ((before ++ [.event n e]).map Move.quiet)
      (s.registry.registered.get? modeluri = some n ∧ s.registry.state modeluri = .closed ∧
        q.registry.registered.get? modeluri = none) ∧
      (s.unsubscribe modeluri).stages = s.stages ++ [.closing n] ∧
      (q.unsubscribe modeluri).stages = q.stages ++ [.returned (.ok (some false))]) := by
  intro t
  refine ⟨⟨?_, ?_⟩, ?_, ?_⟩
  · rintro h before after rfl
    rw [← registered_quiet, quiet_run (unmissed_append.1 h).1]
    rfl
  · intro h
    by_contra hnot
    obtain ⟨before, after, n, e, modeluri, heq, hget, -, hquiet⟩ :=
      exists_registered_of_not_unmissed hnot
    have hsame := h (before ++ [.event n e]) after (by rw [heq, List.append_assoc]; rfl)
    rw [hsame, hquiet] at hget
    cases hget
  · intro h
    refine ⟨quiet_run h, (log_quiet h).symm, ?_⟩
    rintro before after n code reason rfl u
    rw [List.append_cons] at h
    exact get?_closed_ne (unmissed_append.1 h).1 u
  · intro h
    obtain ⟨before, after, n, e, modeluri, heq, hparted⟩ := exists_registered_of_not_unmissed h
    exact ⟨before, after, n, e, modeluri, heq, hparted, stages_unsubscribe hparted.1,
      stages_unsubscribe_of_none hparted.2.2⟩

/-- The answer of a call that has returned. -/
def answer? (t : Switchboard) (k : Nat) : Option Answer :=
  match t.stages[k]? with
  | some (.returned answer) => some answer
  | _ => none

/-- A channel closes, its listener fails to take that, and a call ends the subscription: the call
answers that there was one. With a listener that never fails there is none. -/
theorem unmissed_iff_missed :
    let failing : Listener :=
      { protocol := some .v2, fails := fun _ => some (.raised "RuntimeError" "") }
    let ms : List Move :=
      [.subscribe "m" failing {} none, .event 0 (.closed 1000 ""), .unsubscribe "m", .resume 1 none]
    let t := start "http://h/" "json"
    ¬ ((t.run (ms.take 2)).registry.registered =
        (t.run ((ms.take 2).map Move.quiet)).registry.registered) ∧
      (t.run ms).answer? 1 = some (.ok (some true)) ∧
      (t.run (ms.map Move.quiet)).answer? 1 = some (.ok (some false)) := by
  decide +kernel

/-- A listener that takes no more than the close of its own subscription fails for all else that it
is told, a close after the subscription has been ended included. Nothing is missed. -/
theorem unmissed_iff_taken :
    let failing : Listener :=
      { protocol := some .v2,
        fails := fun e => if e = .closed 1000 "" then none else some (.raised "RuntimeError" "") }
    let ms : List Move :=
      [.subscribe "m" failing {} none, .event 0 .opened, .unsubscribe "m",
        .event 0 (.closed 1006 ""), .subscribe "m" failing {} none,
        .event 1 (.failed (.value .null)), .event 1 (.closed 1000 "")]
    (start "http://h/" "json").Unmissed ms ∧
      ((start "http://h/" "json").run ms).quiet =
        (start "http://h/" "json").run (ms.map Move.quiet) ∧
      ∀ u, ((start "http://h/" "json").run ms).registry.registered.get? u ≠ some 1 := by
  intro failing ms
  have h : (start "http://h/" "json").Unmissed ms := by decide +kernel
  obtain ⟨-, hsame, -⟩ := unmissed_iff "http://h/" "json" ms
  obtain ⟨hquiet, -, hclosed⟩ := hsame h
  have hlast := hclosed (ms.take 6) [] 1 1000 "" rfl
  have hsplit : ms.take 6 ++ [.event 1 (.closed 1000 "")] = ms := rfl
  rw [hsplit] at hlast
  exact ⟨h, hquiet, hlast⟩

end Switchboard

end RemoteModel.Subscription
