import RemoteModel.Proofs.Subscription.Standing
import RemoteModel.Proofs.Subscription.Uninterrupted

/-!
# Calls that fail to subscribe

**Main statement.** `subscribe_restores`: a call that fails to subscribe leaves the registry as it
found it, whatever its channel does while it fails to open and while it closes. The channel that
it has made, if any, is asked to close once. When other calls run while the channel is opening,
the failure takes no other channel off the registry, so a newer subscription of the same model
stays registered.

There are two parts:

* *alone*: while only the new channel reports, the registrations are those from before, with that
  of the new channel behind them or without it (`Beside`); the call ends without it, since it has
  given the channel up, and no report brings it back.
* *among others*: whatever the failing call and its channel do touches that channel alone
  (`touches_own`).
-/

namespace RemoteModel.Subscription

namespace Registry

variable {r r' : Registry} {n m closings : Nat} {modeluri : String} {before : Entries Nat}

/-! ## Responses -/

/-- What every report of a channel keeps is kept by its responses. -/
theorem report_induction {P : Registry → Prop} (hP : ∀ r e, P r → P (r.notify n e).1)
    (shielded : Bool) (es : List Event) (h : P r) : P (r.report shielded n es).1 := by
  induction es generalizing r with
  | nil => exact h
  | cons e rest ih =>
    have hnext := hP r e h
    rw [report]
    rcases hnotify : r.notify n e with ⟨next, ds, failure⟩
    rw [hnotify] at hnext
    cases failure with
    | none => exact ih hnext
    | some failure =>
      cases shielded with
      | true => exact ih hnext
      | false => exact hnext

/-! ## A channel that came last -/

/-- A channel has been made for a model that was free. At most its own registration has come to
those from before. -/
structure Beside (before : Entries Nat) (modeluri : String) (n closings : Nat) (r : Registry) :
    Prop where
  free : before.get? modeluri = none
  last : r.registered = before ∨ r.registered = before ++ [(modeluri, n)]
  channel : ∃ c, r.channels[n]? = some c ∧ c.modeluri = modeluri ∧ c.closings = closings

namespace Beside

theorem modify (h : Beside before modeluri n closings r) {f : Channel → Channel} {closings' : Nat}
    (hf : ∀ c, (f c).modeluri = c.modeluri ∧ (c.closings = closings → (f c).closings = closings')) :
    Beside before modeluri n closings' (r.modify n f) := by
  obtain ⟨c, hc, hmodel, hclosings⟩ := h.channel
  refine ⟨h.free, h.last, f c, ?_, (hf c).1.trans hmodel, (hf c).2 hclosings⟩
  show (r.channels.modify n f)[n]? = some (f c)
  rw [List.getElem?_modify_eq, hc]
  rfl

theorem registered_drop (h : Beside before modeluri n closings r) :
    (r.drop n).registered = before := by
  obtain ⟨c, hc, rfl, -⟩ := h.channel
  simp only [Registry.drop, hc]
  rcases h.last with hlast | hlast
  · rw [if_neg (by simp [hlast, h.free])]
    exact hlast
  · have hget : r.registered.get? c.modeluri = some n := by
      rw [hlast, Entries.get?_append, h.free]
      simp [Entries.get?]
    rw [if_pos hget]
    show r.registered.erase c.modeluri = before
    rw [hlast]
    exact Entries.erase_append_of_get?_eq_none h.free n

theorem drop (h : Beside before modeluri n closings r) :
    Beside before modeluri n closings (r.drop n) where
  free := h.free
  last := .inl h.registered_drop
  channel := by
    rw [channels_drop]
    exact h.channel

theorem notify (h : Beside before modeluri n closings r) (e : Event) :
    Beside before modeluri n closings (r.notify n e).1 := by
  have hmodify : Beside before modeluri n closings
      (r.modify n fun c => { c with state := c.state.after e }) :=
    h.modify fun _ => ⟨rfl, id⟩
  rcases notify_fst r n e with hfst | ⟨-, hfst⟩
  · rw [hfst]
    exact hmodify
  · rw [hfst]
    exact hmodify.drop

theorem registered_notify (h : Beside before modeluri n closings r) (hr : r.registered = before)
    (e : Event) : (r.notify n e).1.registered = before := by
  rcases notify_fst r n e with hfst | ⟨-, hfst⟩
  · rw [hfst]
    exact hr
  · have hmodify : Beside before modeluri n closings
        (r.modify n fun c => { c with state := c.state.after e }) :=
      h.modify fun _ => ⟨rfl, id⟩
    rw [hfst]
    exact hmodify.registered_drop

theorem register {listener : Listener} {o : Options}
    (hfree : r.registered.get? modeluri = none) (hr : r.register modeluri listener o = some r') :
    Beside r.registered modeluri r.channels.length 0 r' := by
  obtain ⟨address, -, rfl⟩ := Option.map_eq_some_iff.1 hr
  exact ⟨hfree, .inr (Entries.insert_of_get?_eq_none hfree _), _, List.getElem?_concat_length,
    rfl, rfl⟩

theorem respond (h : Beside before modeluri n closings r) (c : Conduct) (response : Response) :
    Beside before modeluri n closings (r.respond c n response).1 :=
  report_induction (fun _ e h => h.notify e) c.shielded response.events h

/-- A channel that is given up and asked to close has left the registry, whatever it reports. -/
theorem close_abandon (h : Beside before modeluri n closings r) (c : Conduct) :
    Beside before modeluri n (closings + 1) ((r.abandon n).close c n).1 ∧
      ((r.abandon n).close c n).1.registered = before := by
  have hclosed : Beside before modeluri n closings
      (r.modify n fun c => { c with state := .closed }) := h.modify fun _ => ⟨rfl, id⟩
  have hasked : Beside before modeluri n (closings + 1) ((r.abandon n).askToClose n) :=
    hclosed.drop.modify fun _ => ⟨rfl, congrArg (· + 1)⟩
  exact report_induction
    (P := fun x => Beside before modeluri n (closings + 1) x ∧ x.registered = before)
    (fun _ e hx => ⟨hx.1.notify e, hx.1.registered_notify hx.2 e⟩) c.shielded c.closing.events
    ⟨hasked, hclosed.registered_drop⟩

end Beside

/-! ## Failing alone -/

theorem touches_respond (hd : r.registered.Distinct) (c : Conduct) (response : Response) :
    Touches n r (r.respond c n response).1 :=
  report_induction (fun _ e h => h.trans (touches_notify h.distinct e)) c.shielded
    response.events (.refl hd)

theorem touches_close (hd : r.registered.Distinct) (c : Conduct) :
    Touches n r (r.close c n).1 := by
  have hasked : Touches n r (r.askToClose n) := touches_modify hd fun _ => rfl
  exact hasked.trans (touches_respond hasked.distinct c c.closing)

/-- The states of the models stay where the registrations do and the channels that were there. -/
theorem Standing.state_congr (h : r.Standing) (hregistered : r'.registered = r.registered)
    (hchannels : ∀ m, m < r.channels.length → r'.channels[m]? = r.channels[m]?) (u : String) :
    r'.state u = r.state u := by
  have hchannel : r'.channel? u = r.channel? u := by
    unfold channel?
    rw [hregistered]
    cases hget : r.registered.get? u with
    | none => rfl
    | some m =>
      obtain ⟨-, c, hc, -⟩ := h.held u m hget
      exact hchannels m (List.getElem?_eq_some_iff.1 hc).1
  unfold state
  rw [hchannel]

/-- A failing call that has made a channel leaves the channels and the registrations from before. -/
theorem subscribe_failed (h : r.Standing) {conduct : Nat → Conduct} {listener : Listener}
    {o : Options} {failure : Failure} (hfree : r.isSubscribed modeluri = false)
    (hr : r.register modeluri listener o = some r')
    (hmaking : (conduct r.channels.length).making = none)
    (hx : (r.subscribe conduct modeluri listener o).result = .error failure) :
    let x := (r.subscribe conduct modeluri listener o).registry
    Beside r.registered modeluri r.channels.length 1 x ∧ x.registered = r.registered ∧
      Touches r.channels.length r' x := by
  have hget : r.registered.get? modeluri = none := by
    refine Entries.get?_eq_none fun hmem => ?_
    rw [(h.isSubscribed_iff modeluri).2 hmem] at hfree
    cases hfree
  have hd : r'.registered.Distinct := by
    obtain ⟨-, -, -, -, hregistered⟩ := register_eq_some hr
    rw [hregistered]
    exact h.distinct.insert modeluri _
  have hbeside := Beside.register hget hr
  simp only [subscribe, hfree, hr, hmaking, Bool.false_eq_true, if_false] at hx ⊢
  generalize r.channels.length = n at hbeside hx ⊢
  have hopened := hbeside.respond (conduct n) (conduct n).opening
  have htouches := touches_respond (n := n) hd (conduct n) (conduct n).opening
  rcases hrespond : r'.respond (conduct n) n (conduct n).opening with ⟨next, ds, last⟩
  rw [hrespond] at hx hopened htouches
  cases last with
  | none => cases hx
  | some last =>
    have habandon := touches_abandon (n := n) htouches.distinct
    obtain ⟨hclosed, hregistered⟩ := hopened.close_abandon (conduct n)
    exact ⟨hclosed, hregistered,
      htouches.trans (habandon.trans (touches_close habandon.distinct (conduct n)))⟩

/-! ## Requests to close -/

/-- How often a channel has been asked to close. -/
def closings? (r : Registry) (n : Nat) : Option Nat := (r.channels[n]?).map Channel.closings

theorem closings?_modify {f : Channel → Channel} {g : Nat → Nat}
    (hf : ∀ c, (f c).closings = g c.closings) (n : Nat) :
    (r.modify n f).closings? n = (r.closings? n).map g := by
  unfold closings? modify
  rw [List.getElem?_modify_eq]
  cases r.channels[n]? with
  | none => rfl
  | some c => exact congrArg some (hf c)

theorem closings?_of_same {f : Channel → Channel} (hf : ∀ c, (f c).closings = c.closings) :
    (r.modify n f).closings? n = r.closings? n := by
  rw [closings?_modify (g := id) hf, Option.map_id]
  rfl

theorem closings?_drop : (r.drop n).closings? n = r.closings? n := by
  unfold closings?
  rw [channels_drop]

theorem closings?_notify (n : Nat) (e : Event) :
    (r.notify n e).1.closings? n = r.closings? n := by
  have hmodify : (r.modify n fun c => { c with state := c.state.after e }).closings? n =
      r.closings? n := closings?_of_same fun _ => rfl
  rcases notify_fst r n e with h | ⟨-, h⟩
  · rw [h, hmodify]
  · rw [h, closings?_drop, hmodify]

theorem closings?_giveUp (n : Nat) :
    ((r.abandon n).askToClose n).closings? n = (r.closings? n).map (· + 1) := by
  have hclosed : (r.modify n fun c => { c with state := .closed }).closings? n = r.closings? n :=
    closings?_of_same fun _ => rfl
  have habandon : (r.abandon n).closings? n = r.closings? n := closings?_drop.trans hclosed
  rw [← habandon]
  exact closings?_modify (fun _ => rfl) n

end Registry

/-! ## Failing among others -/

/-- A move of the call with a number, or of the channel with a number. -/
def Move.IsOf (k n : Nat) : Move → Prop
  | .event m _ => m = n
  | .resume j _ => j = k
  | _ => False

/-- A call has failed to open its channel, and it has done with the registry. -/
def Stage.IsGivenUp : Stage → Prop
  | .abandoning _ _ => True
  | .returned _ => True
  | _ => False

namespace Switchboard

open Registry (Beside Standing Touches)

variable {t t' : Switchboard} {n k : Nat} {modeluri : String}

theorem getElem?_stages_next {s : Stage} (h : t.stages[k]? = some s) {m : Move}
    (hm : ∀ failure, m ≠ .resume k failure) : (t.next m).stages[k]? = some s := by
  have hlt := (List.getElem?_eq_some_iff.1 h).1
  have henter : ∀ r s', (t.enter r s').stages[k]? = some s := by
    intro r s'
    rw [enter, List.getElem?_append_left hlt, h]
  cases m with
  | subscribe modeluri listener o making =>
    show (t.subscribe modeluri listener o making).stages[k]? = some s
    by_cases hmakes : t.Makes modeluri o making
    · obtain ⟨r, -, heq⟩ := subscribe_of_makes listener hmakes
      rw [heq]
      exact henter r _
    · obtain ⟨answer, heq⟩ := subscribe_of_not_makes listener hmakes
      rw [heq]
      exact henter _ _
  | unsubscribe modeluri =>
    show (t.unsubscribe modeluri).stages[k]? = some s
    unfold unsubscribe
    split <;> exact henter _ _
  | send modeluri message =>
    show (t.send modeluri message).stages[k]? = some s
    unfold send
    split
    · split <;> exact henter _ _
    · exact henter _ _
  | closeAll => exact henter _ _
  | event n e => exact h
  | resume j failure =>
    have hj : j ≠ k := fun hj => hm failure (hj ▸ rfl)
    have hproceed : ∀ r s', (t.proceed j r s').stages[k]? = some s := by
      intro r s'
      rw [proceed, List.getElem?_set_ne hj, h]
    show (t.resume j failure).stages[k]? = some s
    unfold resume
    split <;> first | exact hproceed _ _ | exact h

theorem getElem?_stages_run {s : Stage} (h : t.stages[k]? = some s) {ms : List Move}
    (hms : ∀ failure, .resume k failure ∉ ms) : (t.run ms).stages[k]? = some s := by
  induction ms generalizing t with
  | nil => exact h
  | cons m rest ih =>
    have hnext := getElem?_stages_next h fun failure hm => hms failure (hm ▸ List.mem_cons_self)
    exact ih hnext fun failure hmem => hms failure (List.mem_cons_of_mem _ hmem)

theorem resume_opening (h : t.stages[k]? = some (.opening n)) (failure : Failure) :
    t.resume k (some failure) =
      t.proceed k ((t.registry.abandon n).askToClose n) (.abandoning n failure) := by
  unfold resume
  rw [h]

/-- What a call that has given up its channel does, and what that channel reports, touches that
channel alone and does not ask it to close. -/
theorem touches_own (hd : t.registry.registered.Distinct) {s : Stage}
    (h : t.stages[k]? = some s) (hs : s.IsGivenUp) {m : Move} (hm : m.IsOf k n) :
    Touches n t.registry (t.next m).registry ∧
      (t.next m).registry.closings? n = t.registry.closings? n ∧
        ∃ s', (t.next m).stages[k]? = some s' ∧ s'.IsGivenUp := by
  have hlt := (List.getElem?_eq_some_iff.1 h).1
  cases m with
  | event i e =>
    obtain rfl : i = n := hm
    exact ⟨Registry.touches_notify hd e, Registry.closings?_notify i e, s, h, hs⟩
  | resume j failure =>
    obtain rfl : j = k := hm
    cases s with
    | abandoning i first =>
      have hnext : t.next (.resume j failure) =
          t.proceed j t.registry (.returned (.error (failure.getD first))) := by
        simp only [next, resume, h]
      rw [hnext]
      exact ⟨.refl hd, rfl, _, List.getElem?_set_self hlt, trivial⟩
    | returned answer =>
      have hnext : t.next (.resume j failure) = t := by simp only [next, resume, h]
      rw [hnext]
      exact ⟨.refl hd, rfl, _, h, trivial⟩
    | _ => cases hs
  | _ => cases hm

theorem touches_own_run (hd : t.registry.registered.Distinct) {s : Stage}
    (h : t.stages[k]? = some s) (hs : s.IsGivenUp) {ms : List Move}
    (hms : ∀ m ∈ ms, m.IsOf k n) :
    Touches n t.registry (t.run ms).registry ∧
      (t.run ms).registry.closings? n = t.registry.closings? n := by
  induction ms generalizing t s with
  | nil => exact ⟨.refl hd, rfl⟩
  | cons m rest ih =>
    obtain ⟨ht, hclosings, s', hs', hgiven⟩ := touches_own hd h hs (hms m List.mem_cons_self)
    obtain ⟨hrest, hclosings'⟩ :=
      ih ht.distinct hs' hgiven fun m' hm' => hms m' (List.mem_cons_of_mem _ hm')
    exact ⟨ht.trans hrest, hclosings'.trans hclosings⟩

/-- **A failure among other calls** touches the channel that has failed alone, and asks it to close
once. -/
theorem touches_failure (hd : t.registry.registered.Distinct)
    (h : t.stages[k]? = some (.opening n)) (failure : Failure) {ms : List Move}
    (hms : ∀ m ∈ ms, m.IsOf k n) :
    Touches n t.registry (t.run (.resume k (some failure) :: ms)).registry ∧
      (t.run (.resume k (some failure) :: ms)).registry.closings? n =
        (t.registry.closings? n).map (· + 1) := by
  have hlt := (List.getElem?_eq_some_iff.1 h).1
  have habandon := Registry.touches_abandon (n := n) hd
  have hgiveUp : Touches n t.registry ((t.registry.abandon n).askToClose n) :=
    habandon.trans (Registry.touches_modify habandon.distinct fun _ => rfl)
  show Touches n t.registry ((t.resume k (some failure)).run ms).registry ∧
    ((t.resume k (some failure)).run ms).registry.closings? n = _
  rw [resume_opening h]
  obtain ⟨ht, hclosings⟩ := touches_own_run
    (t := t.proceed k ((t.registry.abandon n).askToClose n) (.abandoning n failure))
    hgiveUp.distinct (List.getElem?_set_self hlt) trivial hms
  exact ⟨hgiveUp.trans ht, hclosings.trans (Registry.closings?_giveUp n)⟩

/-! ## The main statement -/

theorem registry_subscribe_of_not_makes {conduct : Nat → Conduct} (listener : Listener)
    {o : Options} (h : ¬ t.Makes modeluri o (conduct t.registry.channels.length).making) :
    (t.registry.subscribe conduct modeluri listener o).registry = t.registry := by
  unfold Registry.subscribe
  by_cases hsub : t.registry.isSubscribed modeluri = true
  · rw [if_pos hsub]
    split <;> rfl
  · rw [if_neg hsub]
    simp only
    split
    · rfl
    · rfl
    · rename_i r hr hmaking
      obtain ⟨address, haddress, -⟩ := Option.map_eq_some_iff.1 hr
      exact absurd ⟨by simpa using hsub, by simp [haddress], hmaking⟩ h

theorem Turn.channels {m : Move} (h : Turn t m t') :
    t.registry.channels.length ≤ t'.registry.channels.length := by
  rw [← Registry.length_parties, ← Registry.length_parties]
  cases h with
  | made _ hr => simp [enter, Registry.parties_register hr]
  | edited hedits _ _ => exact Nat.le_of_eq (by rw [Registry.parties_of_edits hedits])

theorem channels_run (t : Switchboard) (ms : List Move) :
    t.registry.channels.length ≤ (t.run ms).registry.channels.length := by
  induction ms generalizing t with
  | nil => exact Nat.le.refl
  | cons m rest ih => exact Nat.le_trans (turn_next t m).channels (ih (t.next m))

/-- Calls and events have led here, and the listeners of the calls take what they are told. -/
def Reachable (t : Switchboard) : Prop :=
  ∃ baseUrl defaultFormat ms, t = (start baseUrl defaultFormat).run ms ∧
    ∀ modeluri listener o making, .subscribe modeluri listener o making ∈ ms →
      ∀ e, listener.fails e = none

theorem Reachable.standing (h : t.Reachable) : t.registry.Standing := by
  obtain ⟨baseUrl, defaultFormat, ms, rfl, htaken⟩ := h
  exact standing_run (standing_start baseUrl defaultFormat) ms htaken

theorem Reachable.ready (h : t.Reachable) : t.Ready := by
  obtain ⟨baseUrl, defaultFormat, ms, rfl, -⟩ := h
  exact (Ready.start baseUrl defaultFormat).run ms

/-- A call that has made its channel and fails leaves this channel behind, and nothing else. -/
theorem registry_subscribe_failed (h : t.registry.Standing) (listener : Listener) {o : Options}
    {conduct : Nat → Conduct}
    (hmakes : t.Makes modeluri o (conduct t.registry.channels.length).making) {failure : Failure}
    (hx : (t.registry.subscribe conduct modeluri listener o).result = .error failure) :
    let n := t.registry.channels.length
    let x := t.registry.subscribe conduct modeluri listener o
    (x.registry.registered = t.registry.registered ∧
      (∀ u, x.registry.state u = t.registry.state u) ∧
      ∀ m, m < n → x.registry.channels[m]? = t.registry.channels[m]?) ∧
    x.registry.channels.length = n + 1 ∧ x.registry.modeluri? n = some modeluri ∧
      x.registry.closings? n = some 1 := by
  intro n x
  obtain ⟨r, hr, -⟩ := subscribe_of_makes listener hmakes
  obtain ⟨hbeside, hregistered, htouches⟩ :=
    Registry.subscribe_failed h hmakes.1 hr hmakes.2.2 hx
  obtain ⟨c, hc, hmodel, hclosings⟩ := hbeside.channel
  obtain ⟨made, -, -, hchannels, -⟩ := Registry.register_eq_some hr
  have hold : ∀ m, m < n → x.registry.channels[m]? = t.registry.channels[m]? := by
    intro m hm
    rw [htouches.other m (Nat.ne_of_lt hm), hchannels]
    exact List.getElem?_append_left hm
  refine ⟨⟨hregistered, h.state_congr hregistered hold, hold⟩, ?_, ?_, ?_⟩
  · rw [htouches.length, hchannels]
    exact List.length_append
  · exact Option.map_eq_some_iff.2 ⟨c, hc, hmodel⟩
  · exact Option.map_eq_some_iff.2 ⟨c, hc, hclosings⟩

section Opening

variable {o : Options} (hmakes : t.Makes modeluri o none) (listener : Listener)
include hmakes

theorem lt_channels_run (ms : List Move) :
    t.registry.channels.length <
      (t.run (.subscribe modeluri listener o none :: ms)).registry.channels.length := by
  obtain ⟨r, hr, hsubscribe⟩ := subscribe_of_makes listener hmakes
  obtain ⟨c, -, -, hchannels, -⟩ := Registry.register_eq_some hr
  have hnext : t.registry.channels.length <
      (t.next (.subscribe modeluri listener o none)).registry.channels.length := by
    show _ < (t.subscribe modeluri listener o none).registry.channels.length
    rw [hsubscribe]
    simp [enter, hchannels]
  exact Nat.lt_of_lt_of_le hnext (channels_run _ ms)

theorem getElem?_stages_subscribe {ms : List Move}
    (hsuspended : ∀ failure, .resume t.stages.length failure ∉ ms) :
    (t.run (.subscribe modeluri listener o none :: ms)).stages[t.stages.length]? =
      some (.opening t.registry.channels.length) := by
  obtain ⟨r, -, hsubscribe⟩ := subscribe_of_makes listener hmakes
  refine getElem?_stages_run (t := t.next (.subscribe modeluri listener o none)) ?_ hsuspended
  show (t.subscribe modeluri listener o none).stages[t.stages.length]? = _
  rw [hsubscribe]
  exact getElem?_enter t r _

end Opening

/-- **A call that fails to subscribe leaves the registry as it was.** Where listeners take what
they are told, a call that fails while no other call runs leaves the registrations, the states of
all models and all channels that were there as they were, whatever its channel reports while it
opens and closes; the channel that the call has made, if any, has been asked to close once. When
other calls run while the channel is opening, the failure and what follows it leave every other
registration and channel as they are. So a newer subscription of the same model stays registered. -/
theorem subscribe_restores (ht : t.Reachable) (modeluri : String) (listener : Listener)
    (o : Options) :
    let k := t.stages.length
    let n := t.registry.channels.length
    (∀ conduct failure, let x := t.registry.subscribe conduct modeluri listener o
      x.result = .error failure →
        x.registry.registered = t.registry.registered ∧
        (∀ u, x.registry.state u = t.registry.state u) ∧
        (∀ m, m < n → x.registry.channels[m]? = t.registry.channels[m]?) ∧
        (t.Makes modeluri o (conduct n).making → x.registry.channels.length = n + 1 ∧
          x.registry.modeluri? n = some modeluri ∧ x.registry.closings? n = some 1) ∧
        (¬ t.Makes modeluri o (conduct n).making → x.registry = t.registry)) ∧
    ∀ during failure own, t.Makes modeluri o none → (∀ failure, .resume k failure ∉ during) →
      (∀ m ∈ own, Move.IsOf k n m) →
        let s := t.run (.subscribe modeluri listener o none :: during)
        let s' := s.run (.resume k (some failure) :: own)
        (∀ m, m ≠ n → s'.registry.channels[m]? = s.registry.channels[m]? ∧
          ∀ u, s'.registry.registered.get? u = some m ↔ s.registry.registered.get? u = some m) ∧
        s'.registry.closings? n = (s.registry.closings? n).map (· + 1) ∧
        ∀ first listener' o' making rest,
          during = first ++ .subscribe modeluri listener' o' making :: rest →
          let newer := t.run (.subscribe modeluri listener o none :: first)
          newer.Makes modeluri o' making →
            s.registry.registered.get? modeluri = some newer.registry.channels.length →
              s'.registry.registered.get? modeluri = some newer.registry.channels.length := by
  intro k n
  refine ⟨?_, ?_⟩
  · intro conduct failure x hx
    by_cases hmakes : t.Makes modeluri o (conduct n).making
    · obtain ⟨⟨hregistered, hstates, hold⟩, hmade⟩ :=
        registry_subscribe_failed ht.standing listener hmakes hx
      exact ⟨hregistered, hstates, hold, fun _ => hmade, fun hnot => absurd hmakes hnot⟩
    · have hsame : x.registry = t.registry := registry_subscribe_of_not_makes listener hmakes
      rw [hsame]
      exact ⟨rfl, fun _ => rfl, fun _ _ => rfl, fun hmake => absurd hmake hmakes, fun _ => rfl⟩
  · intro during failure own hmakes hsuspended hown s s'
    have hopening : s.stages[k]? = some (.opening n) :=
      getElem?_stages_subscribe hmakes listener hsuspended
    have hready : s.Ready := ht.ready.run _
    obtain ⟨htouches, hclosings⟩ := touches_failure hready.seated.distinct hopening failure hown
    refine ⟨fun m hm => ⟨htouches.other m hm, fun u =>
      ⟨htouches.fewer u m, htouches.kept u m hm⟩⟩, hclosings, ?_⟩
    intro first listener' o' making rest hduring newer hnewer hget
    have hlt : n < newer.registry.channels.length := lt_channels_run hmakes listener first
    exact htouches.kept modeluri _ (Nat.ne_of_gt hlt) hget

/-- A channel opens, closes and fails, and then it fails to close, too. Another one opens, is left
and replaced, and then it is cancelled. -/
theorem subscribe_restores_cancelled :
    let v2 : Listener := { protocol := some .v2 }
    let fails : Conduct :=
      { opening := { events := [.opened, .closed 1000 ""], failure := some .interrupted },
        closing := { events := [.closed 1006 ""], failure := some (.raised "OSError" "") } }
    let t := (start "http://h/" "json").run [.subscribe "k" v2 {} none]
    let n := t.registry.channels.length
    let x := t.registry.subscribe (fun _ => fails) "m" v2 {}
    let during : List Move := [.event n .opened, .unsubscribe "m", .subscribe "m" v2 {} none]
    let own : List Move := [.event n (.closed 1006 ""), .resume t.stages.length none]
    x.result = .error (.raised "OSError" "") ∧ x.registry.registered = [("k", 0)] ∧
      x.registry.closings? n = some 1 ∧
        ((t.run (.subscribe "m" v2 {} none :: during)).run
          (.resume t.stages.length (some .interrupted) :: own)).registry.registered.get? "m" =
            some 2 := by
  intro v2 fails t n x during own
  have ht : t.Reachable := by
    refine ⟨"http://h/", "json", [.subscribe "k" v2 {} none], rfl, ?_⟩
    intro modeluri listener o making hmem e
    cases List.mem_singleton.1 hmem
    rfl
  obtain ⟨halone, hamong⟩ := subscribe_restores ht "m" v2 {}
  have hx : x.result = .error (.raised "OSError" "") := by decide +kernel
  have hmakes : t.Makes "m" {} none := by decide +kernel
  obtain ⟨hregistered, -, -, hmade, -⟩ := halone (fun _ => fails) _ hx
  have hsuspended : ∀ failure, .resume t.stages.length failure ∉ during := by simp [during]
  have hown : ∀ m ∈ own, Move.IsOf t.stages.length n m := by simp [own, Move.IsOf]
  have hnewer : (t.run [.subscribe "m" v2 {} none, .event n .opened, .unsubscribe "m"]).Makes
      "m" {} none := by decide +kernel
  have hget : (t.run (.subscribe "m" v2 {} none :: during)).registry.registered.get? "m" =
      some (t.run [.subscribe "m" v2 {} none, .event n .opened,
        .unsubscribe "m"]).registry.channels.length := by decide +kernel
  have hkept := (hamong during .interrupted own hmakes hsuspended hown).2.2
    [.event n .opened, .unsubscribe "m"] v2 {} none [] rfl hnewer hget
  exact ⟨hx, hregistered.trans (by decide +kernel), (hmade hmakes).2.2,
    hkept.trans (by decide +kernel)⟩

end Switchboard

end RemoteModel.Subscription
