import Mathlib.Data.List.Nodup
import RemoteModel.Proofs.Subscription.Failing

/-!
# Ending all subscriptions

The call that ends all subscriptions goes through the registered channels in the order of their
registration. Each of them leaves the registry, is asked to close, and may report events and fail.

**Main statement.** `closeAll_asks`: whatever has happened before, the call asks the channels up to
the first that fails to close, each of them once and for the first time, and they are registered no
more. The channels behind it stay registered and as they are, and the call ends in the failure. So
all channels are asked to close exactly if none fails but the last one.

* *Before the call*: a channel that has been asked to close is not registered, in every run
  (`unasked_run`).
* *One channel*: the subscription that ends touches its channel alone (`ended_unsubscribe`), and
  when it fails is known beforehand (`failure_close`).
* *All channels*: by induction on the registrations, since what is done with one channel changes
  nothing about the others (`endedEach_closeEach`).
-/

namespace RemoteModel.Subscription

/-! ## Failing to close -/

/-- The first failure of a listener among some events. -/
def Listener.failureIn (l : Listener) (modeluri : String) (es : List Event) : Option Failure :=
  es.findSome? fun e => (l.react modeluri e).2

/-- The failure of a channel that is asked to close: one of its listener, unless the channel is
shielded, or one of its own. -/
def Conduct.refusal (c : Conduct) (modeluri : String) (l : Listener) : Option Failure :=
  (if c.shielded then none else l.failureIn modeluri c.closing.events).or c.closing.failure

namespace Registry

variable {r r' : Registry} {n : Nat} {modeluri : String} {listener : Listener}
  {conduct : Nat → Conduct}

/-- The failure of the channel with a number that is asked to close. -/
def refusal (r : Registry) (conduct : Nat → Conduct) (n : Nat) : Option Failure :=
  (r.parties[n]?).bind fun p => (conduct n).refusal p.1 p.2

theorem failure_notify (h : r.parties[n]? = some (modeluri, listener)) (e : Event) :
    (r.notify n e).2.2 = (listener.react modeluri e).2 := by
  rw [parties, List.getElem?_map, Option.map_eq_some_iff] at h
  obtain ⟨c, hc, heq⟩ := h
  cases heq
  simp only [notify, hc]
  rcases c.listener.react c.modeluri e with ⟨ds, failure⟩
  cases e <;> cases failure <;> rfl

theorem failure_report (h : r.parties[n]? = some (modeluri, listener)) (es : List Event) :
    (r.report false n es).2.2 = listener.failureIn modeluri es := by
  induction es generalizing r with
  | nil => rfl
  | cons e rest ih =>
    have hnext : (r.notify n e).1.parties[n]? = some (modeluri, listener) := by
      rw [parties_notify]
      exact h
    rw [report, Listener.failureIn, List.findSome?_cons, ← failure_notify h e]
    rcases hnotify : r.notify n e with ⟨next, ds, failure⟩
    rw [hnotify] at hnext
    cases failure with
    | some failure => rfl
    | none => exact ih hnext

/-- **When a channel fails to close.** -/
theorem failure_close (h : r.parties[n]? = some (modeluri, listener)) :
    (r.close (conduct n) n).2.2 = r.refusal conduct n := by
  have hsame : (r.askToClose n).parties = r.parties := parties_modify fun _ => rfl
  have hasked : (r.askToClose n).parties[n]? = some (modeluri, listener) := hsame ▸ h
  have hreport : ((r.askToClose n).report (conduct n).shielded n (conduct n).closing.events).2.2 =
      if (conduct n).shielded then none
      else listener.failureIn modeluri (conduct n).closing.events := by
    cases (conduct n).shielded with
    | true => exact report_failure _ _
    | false => exact failure_report hasked _
  rw [refusal, h, Option.bind_some, Conduct.refusal, ← hreport]
  rfl

/-! ## Channels that have not been asked to close -/

/-- Every registered channel belongs to its model, and it has not been asked to close. -/
structure Unasked (r : Registry) : Prop where
  distinct : r.registered.Distinct
  own : ∀ u n, r.registered.get? u = some n → r.modeluri? n = some u
  unasked : ∀ u n, r.registered.get? u = some n → r.closings? n = some 0

namespace Unasked

theorem of_touches (h : r.Unasked) (ht : Touches n r r')
    (hself : ∀ u, r'.registered.get? u = some n → r'.closings? n = r.closings? n) :
    r'.Unasked where
  distinct := ht.distinct
  own u m hu := (ht.modeluri? m).trans (h.own u m (ht.fewer u m hu))
  unasked u m hu := by
    have hbefore := h.unasked u m (ht.fewer u m hu)
    by_cases hm : m = n
    · subst hm
      exact (hself u hu).trans hbefore
    · unfold closings? at hbefore ⊢
      rwa [ht.other m hm]

theorem notify (h : r.Unasked) (n : Nat) (e : Event) : (r.notify n e).1.Unasked :=
  h.of_touches (touches_notify h.distinct e) fun _ _ => closings?_notify n e

theorem handOver (h : r.Unasked) (n : Nat) (text : String) : (r.handOver n text).Unasked :=
  h.of_touches (n := n) (touches_modify h.distinct fun _ => rfl) fun _ _ =>
    closings?_of_same fun _ => rfl

theorem askToClose (h : r.Unasked) (hfree : ∀ u, r.registered.get? u ≠ some n) :
    (r.askToClose n).Unasked :=
  h.of_touches (n := n) (touches_modify h.distinct fun _ => rfl) fun u hu => absurd hu (hfree u)

theorem get?_abandon (h : r.Unasked) (n : Nat) (u : String) :
    (r.abandon n).registered.get? u ≠ some n :=
  get?_abandon_ne h.distinct (h.own u n)

theorem giveUp (h : r.Unasked) (n : Nat) : ((r.abandon n).askToClose n).Unasked := by
  have habandon : (r.abandon n).Unasked :=
    h.of_touches (touches_abandon h.distinct) fun u hu => absurd hu (h.get?_abandon n u)
  exact habandon.askToClose (h.get?_abandon n)

theorem eq_of_get? (h : r.Unasked) {u u' : String} (hu : r.registered.get? u = some n)
    (hu' : r.registered.get? u' = some n) : u' = u :=
  Option.some.inj ((h.own u' n hu').symm.trans (h.own u n hu))

theorem nodup_values (h : r.Unasked) : r.registered.values.Nodup := by
  refine List.Nodup.map_on ?_ (List.Nodup.of_map _ h.distinct)
  rintro ⟨u, n⟩ he ⟨u', n'⟩ he' rfl
  rw [h.eq_of_get? (Entries.get?_of_mem h.distinct he) (Entries.get?_of_mem h.distinct he')]

theorem get?_withdraw (h : r.Unasked) (hw : r.withdraw modeluri = some (r', n)) (u : String) :
    r'.registered.get? u ≠ some n := by
  obtain ⟨hget, rfl⟩ := withdraw_eq_some hw
  intro hu
  have hbefore := (touches_erase h.distinct hget).fewer u n hu
  cases h.eq_of_get? hget hbefore
  simp [Entries.get?_erase_self h.distinct] at hu

theorem withdraw (h : r.Unasked) (hw : r.withdraw modeluri = some (r', n)) : r'.Unasked :=
  h.of_touches (touches_withdraw h.distinct hw) fun u hu => absurd hu (h.get?_withdraw hw u)

theorem register (h : r.Unasked) {o : Options}
    (hr : r.register modeluri listener o = some r') : r'.Unasked := by
  obtain ⟨address, -, rfl⟩ := Option.map_eq_some_iff.1 hr
  have hold : ∀ {u m}, u ≠ modeluri →
      (r.registered.insert modeluri r.channels.length).get? u = some m →
        r.registered.get? u = some m := by
    intro u m hu hget
    rwa [Entries.get?_insert_of_ne _ _ hu] at hget
  have hlt : ∀ {u m}, r.registered.get? u = some m → m < r.channels.length := by
    intro u m hget
    obtain ⟨c, hc, -⟩ := Option.map_eq_some_iff.1 (h.own u m hget)
    exact (List.getElem?_eq_some_iff.1 hc).1
  have hnew : ∀ {m}, (r.registered.insert modeluri r.channels.length).get? modeluri = some m →
      m = r.channels.length := by
    intro m hget
    rw [Entries.get?_insert_self] at hget
    exact (Option.some.inj hget).symm
  refine ⟨h.distinct.insert modeluri _, fun u m hget => ?_, fun u m hget => ?_⟩
  · unfold modeluri?
    by_cases hu : u = modeluri
    · subst hu
      rw [hnew hget, List.getElem?_concat_length]
      rfl
    · rw [List.getElem?_append_left (hlt (hold hu hget))]
      exact h.own u m (hold hu hget)
  · unfold closings?
    by_cases hu : u = modeluri
    · subst hu
      rw [hnew hget, List.getElem?_concat_length]
      rfl
    · rw [List.getElem?_append_left (hlt (hold hu hget))]
      exact h.unasked u m (hold hu hget)

end Unasked

end Registry

namespace Switchboard

open Registry (Unasked)

variable {t : Switchboard}

theorem unasked_endNext {r : Registry} (h : r.Unasked) (uris : List String) :
    (endNext uris r).1.Unasked := by
  induction uris with
  | nil => exact h
  | cons modeluri rest ih =>
    rw [endNext]
    cases hw : r.withdraw modeluri with
    | none => exact ih
    | some after => exact (h.withdraw hw).askToClose (h.get?_withdraw hw)

theorem unasked_resume (h : t.registry.Unasked) (k : Nat) (failure : Option Failure) :
    (t.resume k failure).registry.Unasked := by
  unfold resume
  split
  case h_2 n failure _ => exact h.giveUp n
  case h_6 _ rest _ => exact unasked_endNext h rest
  all_goals exact h

/-- A call or an event asks no channel to close that stays registered. -/
theorem unasked_next (h : t.registry.Unasked) (m : Move) : (t.next m).registry.Unasked := by
  cases m with
  | subscribe modeluri listener o making =>
    show (t.subscribe modeluri listener o making).registry.Unasked
    by_cases hmakes : t.Makes modeluri o making
    · obtain ⟨r, hr, heq⟩ := subscribe_of_makes listener hmakes
      rw [heq]
      exact h.register hr
    · obtain ⟨answer, heq⟩ := subscribe_of_not_makes listener hmakes
      rw [heq]
      exact h
  | unsubscribe modeluri =>
    show (t.unsubscribe modeluri).registry.Unasked
    unfold unsubscribe
    cases hw : t.registry.withdraw modeluri with
    | none => exact h
    | some after => exact (h.withdraw hw).askToClose (h.get?_withdraw hw)
  | send modeluri message =>
    show (t.send modeluri message).registry.Unasked
    unfold send
    split
    · split
      · exact h
      · exact h.handOver _ _
    · exact h
  | closeAll => exact unasked_endNext h _
  | event n e => exact h.notify n e
  | resume k failure => exact unasked_resume h k failure

theorem unasked_start (baseUrl defaultFormat : String) :
    (start baseUrl defaultFormat).registry.Unasked where
  distinct := List.nodup_nil
  own _ _ h := by cases h
  unasked _ _ h := by cases h

/-- **A channel that has been asked to close is not registered**, whatever calls and events run. -/
theorem unasked_run (h : t.registry.Unasked) (ms : List Move) : (t.run ms).registry.Unasked := by
  induction ms generalizing t with
  | nil => exact h
  | cons m rest ih => exact ih (unasked_next h m)

end Switchboard

namespace Registry

variable {r r' : Registry} {n : Nat} {modeluri : String} {conduct : Nat → Conduct}

/-! ## Ending one subscription -/

/-- What a channel reports that is not registered changes no registration. -/
theorem registered_notify_of_free (hfree : ∀ u, r.registered.get? u ≠ some n) (e : Event) :
    (r.notify n e).1.registered = r.registered := by
  rcases notify_fst r n e with h | ⟨-, h⟩
  · rw [h]
    rfl
  · rw [h]
    unfold drop
    split
    · exact if_neg (hfree _) ▸ rfl
    · rfl

/-- A channel that has left the registry and is asked to close does not come back, and it is asked
once. -/
theorem close_of_free (hfree : ∀ u, r.registered.get? u ≠ some n) (c : Conduct) :
    (r.close c n).1.registered = r.registered ∧
      (r.close c n).1.closings? n = (r.closings? n).map (· + 1) := by
  have hasked : (r.askToClose n).closings? n = (r.closings? n).map (· + 1) :=
    closings?_modify (fun _ => rfl) n
  refine report_induction (P := fun x => x.registered = r.registered ∧
    x.closings? n = (r.closings? n).map (· + 1)) (fun x e hx => ?_) c.shielded c.closing.events
    ⟨rfl, hasked⟩
  have hx' : ∀ u, x.registered.get? u ≠ some n := by
    rw [hx.1]
    exact hfree
  exact ⟨(registered_notify_of_free hx' e).trans hx.1, (closings?_notify n e).trans hx.2⟩

/-- The subscription of a model to a channel has ended. -/
structure Ended (modeluri : String) (n : Nat) (r r' : Registry) : Prop where
  registered : r'.registered = r.registered.erase modeluri
  asked : r'.closings? n = some 1
  other : ∀ m, m ≠ n → r'.channels[m]? = r.channels[m]?
  parties : r'.parties = r.parties
  unasked : r'.Unasked

theorem ended_unsubscribe (conduct : Nat → Conduct) (h : r.Unasked)
    (hget : r.registered.get? modeluri = some n) :
    Ended modeluri n r (r.unsubscribe conduct modeluri).registry ∧
      (r.unsubscribe conduct modeluri).result = orFailure true (r.refusal conduct n) := by
  set r₁ : Registry := { r with registered := r.registered.erase modeluri }
  have hw : r.withdraw modeluri = some (r₁, n) := by
    rw [withdraw, hget]
    rfl
  have hfree := h.get?_withdraw hw
  have hfirst : r₁.Unasked := h.withdraw hw
  have htouches : Touches n r₁ (r₁.close (conduct n) n).1 := touches_close hfirst.distinct _
  obtain ⟨hregistered, hasked⟩ := close_of_free hfree (conduct n)
  have hparties : (r₁.close (conduct n) n).1.parties = r₁.parties :=
    parties_of_edits ((Switchboard.edits_close (conduct n) n r₁).head (.asked n))
  obtain ⟨c, hc, hmodel⟩ := Option.map_eq_some_iff.1 (h.own modeluri n hget)
  have hparty : r₁.parties[n]? = some (modeluri, c.listener) := by
    rw [parties, List.getElem?_map]
    show (r.channels[n]?).map _ = _
    rw [hc, ← hmodel]
    rfl
  have hfailure : (r₁.close (conduct n) n).2.2 = r.refusal conduct n := failure_close hparty
  have hunasked : r₁.closings? n = some 0 := h.unasked modeluri n hget
  simp only [unsubscribe, hw]
  refine ⟨⟨hregistered, ?_, htouches.other, hparties, ?_⟩, by rw [hfailure]⟩
  · rw [hasked, hunasked]
    rfl
  · refine hfirst.of_touches htouches fun u hu => ?_
    rw [hregistered] at hu
    exact absurd hu (hfree u)

/-! ## Ending all subscriptions -/

/-- Whether the channel of a registration fails to close. -/
def refuses (r : Registry) (conduct : Nat → Conduct) (e : String × Nat) : Bool :=
  (r.refusal conduct e.2).isSome

/-- How many registrations are ended in a row, the last of them with a failure if one fails. -/
def endedCount (r : Registry) (conduct : Nat → Conduct) (es : Entries Nat) : Nat :=
  es.findIdx (r.refuses conduct) + 1

/-- Subscriptions have ended in a row, up to the first channel that fails to close. -/
structure EndedEach (conduct : Nat → Conduct) (es : Entries Nat) (r r' : Registry)
    (result : Except Failure Unit) : Prop where
  registered : r'.registered = es.drop (r.endedCount conduct es)
  asked : ∀ e ∈ es.take (r.endedCount conduct es), r'.closings? e.2 = some 1
  other : ∀ m, (∀ e ∈ es.take (r.endedCount conduct es), e.2 ≠ m) →
    r'.channels[m]? = r.channels[m]?
  result : result = orFailure () (es.findSome? fun e => r.refusal conduct e.2)

namespace EndedEach

variable {r'' : Registry} {result : Except Failure Unit} {rest : Entries Nat}

theorem stop {failure : Failure} (hended : Ended modeluri n r r') (hleft : r'.registered = rest)
    (hrefusal : r.refusal conduct n = some failure) :
    EndedEach conduct ((modeluri, n) :: rest) r r' (.error failure) := by
  have hcount : r.endedCount conduct ((modeluri, n) :: rest) = 1 := by
    simp [endedCount, List.findIdx_cons, refuses, hrefusal]
  refine ⟨?_, ?_, fun m hm => ?_, ?_⟩
  · rw [hcount]
    exact hleft
  · rw [hcount]
    rintro e he
    cases List.mem_singleton.1 he
    exact hended.asked
  · rw [hcount] at hm
    exact hended.other m (hm (modeluri, n) List.mem_cons_self).symm
  · rw [List.findSome?_cons, hrefusal]
    rfl

theorem cons (hended : Ended modeluri n r r') (hrefusal : r.refusal conduct n = none)
    (halone : ∀ e ∈ rest, e.2 ≠ n) (hrest : EndedEach conduct rest r' r'' result) :
    EndedEach conduct ((modeluri, n) :: rest) r r'' result := by
  have hsame : r'.refusal conduct = r.refusal conduct := by
    funext m
    rw [refusal, refusal, hended.parties]
  have hcount : r.endedCount conduct ((modeluri, n) :: rest) = r'.endedCount conduct rest + 1 := by
    have hrefuses : r'.refuses conduct = r.refuses conduct := by
      funext e
      rw [refuses, refuses, hsame]
    simp [endedCount, hrefuses, List.findIdx_cons, refuses, hrefusal]
  refine ⟨?_, ?_, fun m hm => ?_, ?_⟩
  · rw [hcount]
    exact hrest.registered
  · rw [hcount]
    rintro e he
    rcases List.mem_cons.1 he with rfl | he
    · -- The channel is not among the others, so it is not asked again.
      have hkept := hrest.other n fun e he => halone e (List.mem_of_mem_take he)
      rw [← hended.asked]
      exact congrArg _ hkept
    · exact hrest.asked e he
  · rw [hcount] at hm
    obtain ⟨hn, hm⟩ := List.forall_mem_cons.1 hm
    exact (hrest.other m hm).trans (hended.other m (Ne.symm hn))
  · rw [List.findSome?_cons, hrefusal, hrest.result, hsame]

end EndedEach

/-- **Ending all subscriptions** that are registered. -/
theorem endedEach_closeEach (conduct : Nat → Conduct) {es : Entries Nat} (h : r.Unasked)
    (hr : r.registered = es) :
    EndedEach conduct es r (closeEach conduct es.names r).registry
      (closeEach conduct es.names r).result := by
  induction es generalizing r with
  | nil => exact ⟨hr, List.forall_mem_nil _, fun _ _ => rfl, rfl⟩
  | cons entry rest ih =>
    obtain ⟨u, n⟩ := entry
    have hget : r.registered.get? u = some n := by
      rw [hr]
      exact if_pos rfl
    obtain ⟨hended, hresult⟩ := ended_unsubscribe conduct h hget
    have hrest : (r.unsubscribe conduct u).registry.registered = rest := by
      rw [hended.registered, hr]
      exact if_pos rfl
    rw [Entries.names, List.map_cons, closeEach, hresult]
    cases hrefusal : r.refusal conduct n with
    | some failure => exact .stop hended hrest hrefusal
    | none =>
      have hvalues : (n :: Entries.values rest).Nodup := by
        have hnodup := h.nodup_values
        rwa [hr] at hnodup
      have halone : ∀ e ∈ rest, e.2 ≠ n := fun e he heq =>
        (List.nodup_cons.1 hvalues).1 (heq ▸ List.mem_map_of_mem he)
      exact .cons hended hrefusal halone (ih hended.unasked hrest)

/-- Whatever comes behind the first item of a kind, it is nothing exactly if no item but the last
one is of the kind. -/
theorem drop_findIdx_eq_nil_iff {α : Type} (p : α → Bool) (xs : List α) :
    xs.drop (xs.findIdx p + 1) = [] ↔ ∀ x ∈ xs.dropLast, p x = false := by
  induction xs with
  | nil => simp
  | cons x rest ih =>
    cases rest with
    | nil => simp
    | cons y rest =>
      rw [List.dropLast_cons_cons, List.forall_mem_cons, ← ih, List.findIdx_cons]
      cases p x with
      | true => simp
      | false => simp

end Registry

namespace Switchboard

/-- **Ending all subscriptions**, after any run of calls and events and whatever the channels do
when they are asked to close. The channels up to the first that fails to close are asked once and
leave the registry; the ones behind it stay registered, are not asked and stay as they are; the
call ends in the failure, if there is one. So every registered channel is asked once, and none stays
registered, exactly if no channel fails to close but the last one. -/
theorem closeAll_asks (baseUrl defaultFormat : String) (ms : List Move)
    (conduct : Nat → Conduct) :
    let r := ((start baseUrl defaultFormat).run ms).registry
    let x := r.closeAll conduct
    let count := r.endedCount conduct r.registered
    (x.registry.registered = r.registered.drop count ∧
      (∀ e ∈ r.registered.take count, x.registry.closings? e.2 = some 1) ∧
      (∀ e ∈ r.registered.drop count, x.registry.closings? e.2 = some 0 ∧
        x.registry.channels[e.2]? = r.channels[e.2]?) ∧
      x.result = Registry.orFailure () (r.registered.findSome? fun e => r.refusal conduct e.2)) ∧
    ((x.registry.registered = [] ∧ ∀ e ∈ r.registered, x.registry.closings? e.2 = some 1) ↔
      ∀ e ∈ r.registered.dropLast, r.refuses conduct e = false) := by
  intro r x count
  have h : r.Unasked := unasked_run (unasked_start baseUrl defaultFormat) ms
  have hended : Registry.EndedEach conduct r.registered r x.registry x.result :=
    Registry.endedEach_closeEach conduct h rfl
  have hkept : ∀ e ∈ r.registered.drop count, x.registry.channels[e.2]? = r.channels[e.2]? := by
    intro e he
    refine hended.other e.2 fun e' he' heq => ?_
    have hdisjoint := List.disjoint_take_drop h.nodup_values (Nat.le_refl count)
    rw [Entries.values, ← List.map_take, ← List.map_drop] at hdisjoint
    exact hdisjoint (List.mem_map_of_mem he') (heq ▸ List.mem_map_of_mem he)
  refine ⟨⟨hended.registered, hended.asked, fun e he => ⟨?_, hkept e he⟩, hended.result⟩, ?_⟩
  · have hentry : e ∈ r.registered := List.mem_of_mem_drop he
    rw [← h.unasked e.1 e.2 (Entries.get?_of_mem h.distinct hentry)]
    exact congrArg _ (hkept e he)
  · rw [← Registry.drop_findIdx_eq_nil_iff]
    constructor
    · rintro ⟨hnone, -⟩
      exact hended.registered.symm.trans hnone
    · intro hnone
      refine ⟨hended.registered.trans hnone, fun e he => hended.asked e ?_⟩
      change e ∈ r.registered.take (r.registered.findIdx (r.refuses conduct) + 1)
      rwa [List.take_of_length_le (List.drop_eq_nil_iff.1 hnone)]

/-- The channels of three models. The listener of the second one fails to take its close. -/
theorem closeAll_asks_three :
    let v2 : Listener := { protocol := some .v2 }
    let fails : Listener := { protocol := some .v2, fails := fun _ => some .wrongType }
    let ms : List Move := [.subscribe "a" v2 {} none, .subscribe "b" fails {} none,
      .subscribe "c" v2 {} none, .event 2 .opened]
    let r := ((start "http://h/" "json").run ms).registry
    let x := r.closeAll fun _ => {}
    x.registry.registered = [("c", 2)] ∧ x.result = .error .wrongType ∧
      x.registry.closings? 0 = some 1 ∧ x.registry.closings? 1 = some 1 ∧
      x.registry.closings? 2 = some 0 := by
  intro v2 fails ms r x
  have hregistered : r.registered = [("a", 0), ("b", 1), ("c", 2)] := by decide +kernel
  have hcount : r.endedCount (fun _ => {}) r.registered = 2 := by decide +kernel
  obtain ⟨⟨hleft, hasked, hkept, hresult⟩, -⟩ := closeAll_asks "http://h/" "json" ms fun _ => {}
  rw [hcount, hregistered] at hleft hasked hkept
  refine ⟨hleft, hresult.trans (by decide +kernel), ?_, ?_, ?_⟩
  · exact hasked ("a", 0) (by simp)
  · exact hasked ("b", 1) (by simp)
  · exact (hkept ("c", 2) (by simp)).1

/-- The first of two channels fails to close. The second one is not asked, and its model stays
subscribed. -/
theorem closeAll_leaves :
    let v2 : Listener := { protocol := some .v2 }
    let fails : Conduct := { closing := { failure := some (.raised "OSError" "") } }
    let r := ((start "http://h/" "json").run [.subscribe "a" v2 {} none, .event 0 .opened,
      .subscribe "b" v2 {} none, .event 1 .opened]).registry
    let x := r.closeAll fun n => if n = 0 then fails else {}
    r.registered = [("a", 0), ("b", 1)] ∧ x.result = .error (.raised "OSError" "") ∧
      x.registry.registered = [("b", 1)] ∧ x.registry.closings? 1 = some 0 ∧
      x.registry.isSubscribed "b" = true := by
  decide +kernel

end Switchboard

end RemoteModel.Subscription
