import Mathlib.Data.List.Basic
import Mathlib.Data.List.Induction
import RemoteModel.Proofs.Subscription.Standing

/-!
# What registered channels have reported

A channel is judged by what it has reported since it was made: an opening with no close since
(`ReportsOpen`), a close with no opening since (`ReportsClosed`), or neither of them (`Silent`).
One of the three is the case (`reports_cases`).

**Main statement.** `records_run`: in every run of calls and events, the state of a registered
channel is the one that its reports lead to. Calls give a channel another state only when they take
it off the registry.

The invariant is `Records`, about the registry and what each channel has reported so far. A step
that touches one channel has to keep it for that channel alone (`Records.of_touches`).
-/

namespace RemoteModel.Subscription

/-! ## Reports -/

/-- The last report of an opening has no report of a close behind it. -/
def ReportsOpen (es : List Event) : Prop :=
  ∃ before after, es = before ++ .opened :: after ∧ ∀ code reason, .closed code reason ∉ after

/-- The last report of a close has no report of an opening behind it. -/
def ReportsClosed (es : List Event) : Prop :=
  ∃ before code reason after, es = before ++ .closed code reason :: after ∧ .opened ∉ after

/-- Neither an opening nor a close has been reported. -/
def Silent (es : List Event) : Prop := .opened ∉ es ∧ ∀ code reason, .closed code reason ∉ es

/-- The state of a channel that has reported some events. -/
def State.ofReports (es : List Event) : State := es.foldl State.after .opening

section

variable {es : List Event} {e : Event}

theorem State.ofReports_concat (es : List Event) (e : Event) :
    State.ofReports (es ++ [e]) = (State.ofReports es).after e :=
  List.foldl_append

/-- What stands behind the last event that decides is empty, or it ends with the new event. -/
theorem eq_of_concat {before after : List Event} {last : Event}
    (h : es ++ [e] = before ++ last :: after) :
    (after = [] ∧ es = before ∧ e = last) ∨
      ∃ rest, after = rest ++ [e] ∧ es = before ++ last :: rest := by
  rcases List.eq_nil_or_concat' after with rfl | ⟨rest, x, rfl⟩
  · obtain ⟨hes, he⟩ := List.append_inj' h rfl
    exact .inl ⟨rfl, hes, List.singleton_inj.1 he⟩
  · rw [← List.cons_append, ← List.append_assoc] at h
    obtain ⟨hes, he⟩ := List.append_inj' h rfl
    exact .inr ⟨rest, by rw [List.singleton_inj.1 he], hes⟩

theorem reportsOpen_opened : ReportsOpen (es ++ [.opened]) := ⟨es, [], rfl, by simp⟩

theorem reportsClosed_closed {code : Int} {reason : String} :
    ReportsClosed (es ++ [.closed code reason]) := ⟨es, code, reason, [], rfl, by simp⟩

/-- Only a close ends what an opening has begun. -/
theorem ReportsOpen.concat (h : ReportsOpen es) (he : ∀ code reason, e ≠ .closed code reason) :
    ReportsOpen (es ++ [e]) := by
  obtain ⟨before, after, rfl, hafter⟩ := h
  refine ⟨before, after ++ [e], by simp, fun code reason hmem => ?_⟩
  rcases List.mem_append.1 hmem with hmem | hmem
  · exact hafter code reason hmem
  · exact he code reason (List.mem_singleton.1 hmem).symm

/-- Only an opening ends what a close has begun. -/
theorem ReportsClosed.concat (h : ReportsClosed es) (he : e ≠ .opened) :
    ReportsClosed (es ++ [e]) := by
  obtain ⟨before, code, reason, after, rfl, hafter⟩ := h
  refine ⟨before, code, reason, after ++ [e], by simp, fun hmem => ?_⟩
  rcases List.mem_append.1 hmem with hmem | hmem
  · exact hafter hmem
  · exact he (List.mem_singleton.1 hmem).symm

theorem ReportsClosed.of_concat (h : ReportsClosed (es ++ [e])) :
    (∃ code reason, e = .closed code reason) ∨ ReportsClosed es ∧ e ≠ .opened := by
  obtain ⟨before, code, reason, after, heq, hafter⟩ := h
  rcases eq_of_concat heq with ⟨-, -, he⟩ | ⟨rest, rfl, hes⟩
  · exact .inl ⟨code, reason, he⟩
  · refine .inr ⟨⟨before, code, reason, rest, hes, fun hmem => ?_⟩, ?_⟩
    · exact hafter (List.mem_append_left _ hmem)
    · rintro rfl
      exact hafter (by simp)

/-- **A channel is closed if its reports say so**, and only then. -/
theorem ofReports_eq_closed (es : List Event) : State.ofReports es = .closed ↔ ReportsClosed es := by
  induction es using List.reverseRecOn with
  | nil =>
    refine ⟨fun h => State.noConfusion h, ?_⟩
    rintro ⟨before, code, reason, after, heq, -⟩
    simp at heq
  | append_singleton es e ih =>
    rw [State.ofReports_concat]
    cases e with
    | opened =>
      refine ⟨fun h => State.noConfusion h, fun h => ?_⟩
      rcases h.of_concat with ⟨code, reason, he⟩ | ⟨-, he⟩
      · cases he
      · exact absurd rfl he
    | closed code reason => exact ⟨fun _ => reportsClosed_closed, fun _ => rfl⟩
    | failed problem =>
      have hafter : (State.ofReports es).after (.failed problem) = .closed ↔
          State.ofReports es = .closed := by
        unfold State.after
        split <;> simp_all
      rw [hafter, ih]
      refine ⟨fun h => h.concat Event.noConfusion, fun h => ?_⟩
      rcases h.of_concat with ⟨code, reason, he⟩ | ⟨h, -⟩
      · cases he
      · exact h
    | arrived frame =>
      refine ⟨fun h => (ih.1 h).concat Event.noConfusion, fun h => ?_⟩
      rcases h.of_concat with ⟨code, reason, he⟩ | ⟨h, -⟩
      · cases he
      · exact ih.2 h

/-- **One of the three is the case.** -/
theorem reports_cases (es : List Event) : ReportsOpen es ∨ ReportsClosed es ∨ Silent es := by
  induction es using List.reverseRecOn with
  | nil => exact .inr (.inr ⟨by simp, by simp⟩)
  | append_singleton es e ih =>
    cases e with
    | opened => exact .inl reportsOpen_opened
    | closed code reason => exact .inr (.inl reportsClosed_closed)
    | failed _ | arrived _ =>
      rcases ih with h | h | ⟨hopened, hclosed⟩
      · exact .inl (h.concat fun _ _ => Event.noConfusion)
      · exact .inr (.inl (h.concat Event.noConfusion))
      · exact .inr (.inr ⟨by simp [hopened], by simp [hclosed]⟩)

theorem ReportsOpen.not_closed (h : ReportsOpen es) : ¬ ReportsClosed es := by
  intro hclosed
  induction es using List.reverseRecOn with
  | nil =>
    obtain ⟨before, after, heq, -⟩ := h
    simp at heq
  | append_singleton es e ih =>
    obtain ⟨before, after, heq, hafter⟩ := h
    rcases hclosed.of_concat with ⟨code, reason, rfl⟩ | ⟨hclosed, hne⟩
    · rcases eq_of_concat heq with ⟨-, -, he⟩ | ⟨rest, rfl, -⟩
      · cases he
      · exact hafter code reason (by simp)
    · rcases eq_of_concat heq with ⟨-, -, he⟩ | ⟨rest, rfl, hes⟩
      · exact hne he
      · exact ih ⟨before, rest, hes, fun code reason hmem =>
          hafter code reason (List.mem_append_left _ hmem)⟩ hclosed

theorem Silent.not_closed (h : Silent es) : ¬ ReportsClosed es := by
  rintro ⟨before, code, reason, after, rfl, -⟩
  exact h.2 code reason (by simp)

end

/-! ## Registries -/

namespace Registry

variable {r r' : Registry} {n : Nat} {modeluri : String} {reports reports' : Nat → List Event}

/-- The registered channels belong to their models, and their states are what they have reported.
Channels that have not been made have reported nothing. -/
structure Records (r : Registry) (reports : Nat → List Event) : Prop where
  distinct : r.registered.Distinct
  own : ∀ u n, r.registered.get? u = some n → r.modeluri? n = some u
  state : ∀ u n c, r.registered.get? u = some n → r.channels[n]? = some c →
    c.state = State.ofReports (reports n)
  fresh : ∀ n, r.channels.length ≤ n → reports n = []

namespace Records

theorem of_touches (h : r.Records reports) (ht : Touches n r r')
    (hother : ∀ m, m ≠ n → reports' m = reports m) (hfresh : r.channels.length ≤ n → reports' n = [])
    (hself : ∀ u c, r'.registered.get? u = some n → r'.channels[n]? = some c →
      c.state = State.ofReports (reports' n)) : r'.Records reports' where
  distinct := ht.distinct
  own u m hu := by
    rw [ht.modeluri?]
    exact h.own u m (ht.fewer u m hu)
  state u m c hu hc := by
    by_cases hm : m = n
    · subst hm
      exact hself u c hu hc
    · rw [ht.other m hm] at hc
      rw [hother m hm]
      exact h.state u m c (ht.fewer u m hu) hc
  fresh m hm := by
    rw [ht.length] at hm
    by_cases heq : m = n
    · exact heq ▸ hfresh (heq ▸ hm)
    · rw [hother m heq]
      exact h.fresh m hm

theorem isSubscribed_iff (h : r.Records reports) (hn : r.registered.get? modeluri = some n) :
    r.isSubscribed modeluri = true ↔ ¬ ReportsClosed (reports n) := by
  obtain ⟨c, hc, -⟩ := Option.map_eq_some_iff.1 (h.own modeluri n hn)
  have hstate := h.state modeluri n c hn hc
  simp only [isSubscribed, Registry.state, channel?, hn, Option.bind_some, hc, bne_iff_ne, ne_eq]
  rw [hstate, ofReports_eq_closed]

theorem modify (h : r.Records reports) {f : Channel → Channel}
    (hf : ∀ c, (f c).modeluri = c.modeluri ∧ (f c).state = c.state) :
    (r.modify n f).Records reports := by
  refine h.of_touches (touches_modify h.distinct fun c => (hf c).1) (fun _ _ => rfl) (h.fresh n) ?_
  intro u c hu hc
  have hmodified : (r.channels.modify n f)[n]? = some c := hc
  rw [List.getElem?_modify_eq] at hmodified
  obtain ⟨before, hbefore, rfl⟩ := Option.map_eq_some_iff.1 hmodified
  rw [(hf before).2]
  exact h.state u n before hu hbefore

theorem asked (h : r.Records reports) (n : Nat) : (r.askToClose n).Records reports :=
  h.modify fun _ => ⟨rfl, rfl⟩

theorem handed (h : r.Records reports) (n : Nat) (text : String) :
    (r.handOver n text).Records reports :=
  h.modify fun _ => ⟨rfl, rfl⟩

theorem abandon (h : r.Records reports) (n : Nat) : (r.abandon n).Records reports := by
  refine h.of_touches (touches_abandon h.distinct) (fun _ _ => rfl) (h.fresh n) fun u c hu _ => ?_
  exact absurd hu (get?_abandon_ne h.distinct (h.own u n))

theorem withdraw (h : r.Records reports) (hw : r.withdraw modeluri = some (r', n)) :
    r'.Records reports := by
  have ht := touches_withdraw h.distinct hw
  obtain ⟨-, rfl⟩ := withdraw_eq_some hw
  exact h.of_touches ht (fun _ _ => rfl) (h.fresh n) fun u c hu hc =>
    h.state u n c (ht.fewer u n hu) hc

/-- **An event is noted in the state of its channel.** -/
theorem notify (h : r.Records reports) (e : Event)
    (hother : ∀ m, m ≠ n → reports' m = reports m)
    (hself : reports' n = if n < r.channels.length then reports n ++ [e] else []) :
    (r.notify n e).1.Records reports' := by
  have ht := touches_notify (n := n) h.distinct e
  refine h.of_touches ht hother (fun hn => by rw [hself, if_neg (Nat.not_lt_of_le hn)]) ?_
  intro u c hu hc
  have hchannels : (r.notify n e).1.channels =
      r.channels.modify n fun c => { c with state := c.state.after e } := by
    rcases notify_fst r n e with heq | ⟨-, heq⟩
    · rw [heq]
      rfl
    · rw [heq, channels_drop]
      rfl
  rw [hchannels, List.getElem?_modify_eq] at hc
  obtain ⟨before, hbefore, rfl⟩ := Option.map_eq_some_iff.1 hc
  rw [hself, if_pos (List.getElem?_eq_some_iff.1 hbefore).1, State.ofReports_concat,
    ← h.state u n before (ht.fewer u n hu) hbefore]

theorem register (h : r.Records reports) {listener : Listener} {o : Options}
    (hr : r.register modeluri listener o = some r') : r'.Records reports := by
  obtain ⟨c, hmodel, hstate, hchannels, hregistered⟩ := register_eq_some hr
  have hold : ∀ u n, r.registered.get? u = some n → n < r.channels.length := by
    intro u n hu
    obtain ⟨before, hbefore, -⟩ := Option.map_eq_some_iff.1 (h.own u n hu)
    exact (List.getElem?_eq_some_iff.1 hbefore).1
  refine ⟨?_, fun u n hu => ?_, fun u n x hu hx => ?_, fun n hn => ?_⟩
  · rw [hregistered]
    exact Entries.Distinct.insert h.distinct _ _
  · rw [modeluri?_concat hchannels]
    rw [hregistered] at hu
    by_cases hne : u = modeluri
    · subst hne
      rw [Entries.get?_insert_self, Option.some.injEq] at hu
      rw [if_pos hu.symm, hmodel]
    · rw [Entries.get?_insert_of_ne _ _ hne] at hu
      rw [if_neg (Nat.ne_of_lt (hold u n hu))]
      exact h.own u n hu
  · rw [hregistered] at hu
    rw [hchannels] at hx
    by_cases hne : u = modeluri
    · subst hne
      rw [Entries.get?_insert_self, Option.some.injEq] at hu
      subst hu
      rw [List.getElem?_concat_length, Option.some.injEq] at hx
      rw [← hx, hstate, h.fresh _ (Nat.le_refl _)]
      rfl
    · rw [Entries.get?_insert_of_ne _ _ hne] at hu
      rw [List.getElem?_append_left (hold u n hu)] at hx
      exact h.state u n x hu hx
  · rw [hchannels, List.length_append] at hn
    exact h.fresh n (Nat.le_of_add_right_le hn)

end Records

end Registry

/-! ## Runs -/

namespace Switchboard

open Registry (Records)

variable {t : Switchboard} {n : Nat} {modeluri : String} {reports : Nat → List Event}

/-- What a channel reports in a move. A channel that has not been made reports nothing. -/
def newReports (n : Nat) (t : Switchboard) : Move → List Event
  | .event m e => if m = n ∧ n < t.registry.channels.length then [e] else []
  | _ => []

/-- What a channel has reported in some moves. -/
def reported (n : Nat) : Switchboard → List Move → List Event
  | _, [] => []
  | t, m :: rest => t.newReports n m ++ (t.next m).reported n rest

theorem records_start (baseUrl defaultFormat : String) :
    (start baseUrl defaultFormat).registry.Records fun _ => [] where
  distinct := List.nodup_nil
  own _ _ h := by cases h
  state _ _ _ h := by cases h
  fresh _ _ := rfl

theorem records_endNext {r : Registry} (h : r.Records reports) (uris : List String) :
    (endNext uris r).1.Records reports := by
  induction uris with
  | nil => exact h
  | cons modeluri rest ih =>
    rw [endNext]
    cases hw : r.withdraw modeluri with
    | none => exact ih
    | some after => exact (h.withdraw hw).asked after.2

theorem records_subscribe (h : t.registry.Records reports) (modeluri : String)
    (listener : Listener) (o : Options) (making : Option Failure) :
    (t.subscribe modeluri listener o making).registry.Records reports := by
  by_cases hmakes : t.Makes modeluri o making
  · obtain ⟨r, hr, heq⟩ := subscribe_of_makes listener hmakes
    rw [heq]
    exact h.register hr
  · obtain ⟨answer, heq⟩ := subscribe_of_not_makes listener hmakes
    rw [heq]
    exact h

theorem records_resume (h : t.registry.Records reports) (k : Nat) (failure : Option Failure) :
    (t.resume k failure).registry.Records reports := by
  unfold resume
  split
  case h_2 n failure _ => exact (h.abandon n).asked n
  case h_6 _ rest _ => exact records_endNext h rest
  all_goals exact h

/-- A call gives a channel another state only when it takes it off the registry. -/
theorem records_call (h : t.registry.Records reports) {m : Move} (hm : ∀ n e, m ≠ .event n e) :
    (t.next m).registry.Records reports := by
  cases m with
  | subscribe modeluri listener o making => exact records_subscribe h modeluri listener o making
  | unsubscribe modeluri =>
    show (t.unsubscribe modeluri).registry.Records reports
    unfold unsubscribe
    cases hw : t.registry.withdraw modeluri with
    | none => exact h
    | some after => exact (h.withdraw hw).asked after.2
  | send modeluri message =>
    show (t.send modeluri message).registry.Records reports
    unfold send
    split
    · split
      · exact h
      · exact h.handed _ _
    · exact h
  | closeAll => exact records_endNext h _
  | event n e => exact absurd rfl (hm n e)
  | resume k failure => exact records_resume h k failure

theorem records_next (h : t.registry.Records reports) (m : Move) :
    (t.next m).registry.Records fun n => reports n ++ t.newReports n m := by
  cases m with
  | event n e =>
    refine h.notify e (fun m hm => ?_) ?_
    · simp [newReports, hm.symm]
    · simp only [newReports, true_and]
      split
      · rfl
      · rename_i hn
        rw [h.fresh n (Nat.le_of_not_lt hn), List.append_nil]
  | _ =>
    simp only [newReports, List.append_nil]
    exact records_call h fun _ _ => Move.noConfusion

/-- **The state of a registered channel is what it has reported.** -/
theorem records_run (h : t.registry.Records reports) (ms : List Move) :
    (t.run ms).registry.Records fun n => reports n ++ t.reported n ms := by
  induction ms generalizing t reports with
  | nil =>
    simp only [reported, List.append_nil]
    exact h
  | cons m rest ih =>
    have hrest := ih (records_next h m)
    simp only [List.append_assoc] at hrest
    exact hrest

theorem records_of_run (baseUrl defaultFormat : String) (ms : List Move) :
    ((start baseUrl defaultFormat).run ms).registry.Records fun n =>
      (start baseUrl defaultFormat).reported n ms :=
  records_run (records_start baseUrl defaultFormat) ms

end Switchboard

end RemoteModel.Subscription
