import RemoteModel.Proofs.Subscription.Hearing

/-!
# Calls that run alone

A call of a registry is a run of moves between which nothing happens but what the channels of the
call do in response to it.

**Main statements.** `performs_subscribe`, `performs_unsubscribe`, `performs_send` and
`performs_closeAll`: whatever the conduct of the channels, there is a run of moves with the
registry, the deliveries and the answer of the call. So what is proved of all runs of moves holds
of all sequences of calls.

The proofs follow a call from stage to stage (`Leads`): a response of a channel is a run of events
(`leads_respond`), and a stage ends with one move more (`leads_resume`).
-/

namespace RemoteModel.Subscription.Switchboard

variable {t : Switchboard} {r r' r'' : Registry} {s s' s'' : Stage} {ds ds' : List Delivery}
  {n : Nat} {modeluri : String}

/-! ## From stage to stage -/

/-- A call that has started last can go on from one stage to another. -/
def Leads (t : Switchboard) (r : Registry) (s : Stage) (r' : Registry) (s' : Stage)
    (ds : List Delivery) : Prop :=
  ∃ ms, (t.enter r s).run ms = t.enter r' s' ∧ ((t.enter r s).log ms).map Told.delivery = ds

theorem Leads.refl : t.Leads r s r s [] := ⟨[], rfl, rfl⟩

theorem Leads.trans (h : t.Leads r s r' s' ds) (h' : t.Leads r' s' r'' s'' ds') :
    t.Leads r s r'' s'' (ds ++ ds') := by
  obtain ⟨ms, hrun, hlog⟩ := h
  obtain ⟨ms', hrun', hlog'⟩ := h'
  refine ⟨ms ++ ms', ?_, ?_⟩
  · rw [run_append, hrun, hrun']
  · rw [log_append, hrun, List.map_append, hlog, hlog']

theorem proceed_enter (t : Switchboard) (r r' : Registry) (s s' : Stage) :
    (t.enter r s).proceed t.stages.length r' s' = t.enter r' s' := by
  simp [enter, proceed]

theorem getElem?_enter (t : Switchboard) (r : Registry) (s : Stage) :
    (t.enter r s).stages[t.stages.length]? = some s :=
  List.getElem?_concat_length

theorem leads_resume (failure : Option Failure)
    (h : (t.enter r s).resume t.stages.length failure = t.enter r' s') : t.Leads r s r' s' [] :=
  ⟨[.resume t.stages.length failure], h, rfl⟩

theorem leads_opening (t : Switchboard) (r : Registry) (n : Nat) :
    t.Leads r (.opening n) r (.returned (.ok none)) [] := by
  refine leads_resume none ?_
  unfold resume
  rw [getElem?_enter]
  exact proceed_enter ..

theorem leads_abandoning (t : Switchboard) (r : Registry) (n : Nat) (failure : Failure) :
    t.Leads r (.opening n) ((r.abandon n).askToClose n) (.abandoning n failure) [] := by
  refine leads_resume (some failure) ?_
  unfold resume
  rw [getElem?_enter]
  exact proceed_enter ..

theorem leads_abandoned (t : Switchboard) (r : Registry) (n : Nat) (first : Failure)
    (last : Option Failure) :
    t.Leads r (.abandoning n first) r (.returned (.error (last.getD first))) [] := by
  refine leads_resume last ?_
  unfold resume
  rw [getElem?_enter]
  exact proceed_enter ..

theorem leads_closing (t : Switchboard) (r : Registry) (n : Nat) (failure : Option Failure) :
    t.Leads r (.closing n) r (.returned (Registry.orFailure (some true) failure)) [] := by
  refine leads_resume failure ?_
  unfold resume
  rw [getElem?_enter]
  cases failure with
  | none => exact proceed_enter ..
  | some _ => exact proceed_enter ..

theorem leads_sending (t : Switchboard) (r : Registry) (n : Nat) (failure : Option Failure) :
    t.Leads r (.sending n) r (.returned (Registry.orFailure (some true) failure)) [] := by
  refine leads_resume failure ?_
  unfold resume
  rw [getElem?_enter]
  cases failure with
  | none => exact proceed_enter ..
  | some _ => exact proceed_enter ..

theorem leads_closingAll (t : Switchboard) (r : Registry) (n : Nat) (rest : List String) :
    t.Leads r (.closingAll n rest) (endNext rest r).1 (endNext rest r).2 [] := by
  refine leads_resume none ?_
  unfold resume
  rw [getElem?_enter]
  exact proceed_enter ..

theorem leads_closingAll_failed (t : Switchboard) (r : Registry) (n : Nat) (rest : List String)
    (failure : Failure) :
    t.Leads r (.closingAll n rest) r (.returned (.error failure)) [] := by
  refine leads_resume (some failure) ?_
  unfold resume
  rw [getElem?_enter]
  exact proceed_enter ..

/-! ## Responses of channels -/

theorem leads_event (hn : n < t.makers.length) (r : Registry) (s : Stage) (e : Event) :
    t.Leads r s (r.notify n e).1 s (r.notify n e).2.1 := by
  refine ⟨[.event n e], rfl, ?_⟩
  have hmaker : (t.enter r s).makers[n]? = some t.makers[n] := List.getElem?_eq_getElem hn
  show ((t.enter r s).told (.event n e) ++ []).map Told.delivery = (r.notify n e).2.1
  simp only [told, hmaker, List.append_nil, List.map_map]
  exact List.map_id _

/-- What a channel reports is a run of events, up to the one where the channel stops. -/
theorem leads_report (hn : n < t.makers.length) (shielded : Bool) (s : Stage) (es : List Event)
    (r : Registry) :
    t.Leads r s (r.report shielded n es).1 s (r.report shielded n es).2.1 := by
  induction es generalizing r with
  | nil => exact .refl
  | cons e rest ih =>
    have hevent := leads_event hn r s e
    rw [Registry.report]
    rcases hnotify : r.notify n e with ⟨next, ds, failure⟩
    rw [hnotify] at hevent
    cases failure with
    | none => exact hevent.trans (ih next)
    | some failure =>
      cases shielded with
      | true => exact hevent.trans (ih next)
      | false => exact hevent

theorem leads_respond (hn : n < t.makers.length) (c : Conduct) (response : Response)
    (r : Registry) (s : Stage) :
    t.Leads r s (r.respond c n response).1 s (r.respond c n response).2.1 :=
  leads_report hn c.shielded s response.events r

theorem leads_close (hn : n < t.makers.length) (c : Conduct) (r : Registry) (s : Stage) :
    t.Leads (r.askToClose n) s (r.close c n).1 s (r.close c n).2.1 :=
  leads_respond hn c c.closing (r.askToClose n) s

theorem leads_sent (hn : n < t.makers.length) (c : Conduct) (response : Response)
    (r : Registry) :
    t.Leads r (.sending n) (r.respond c n response).1
      (.returned (Registry.orFailure (some true) (r.respond c n response).2.2))
      (r.respond c n response).2.1 := by
  have h := (leads_respond hn c response r (.sending n)).trans
    (leads_sending t (r.respond c n response).1 n (r.respond c n response).2.2)
  rwa [List.append_nil] at h

theorem leads_closed (hn : n < t.makers.length) (c : Conduct) (r : Registry) :
    t.Leads (r.askToClose n) (.closing n) (r.close c n).1
      (.returned (Registry.orFailure (some true) (r.close c n).2.2)) (r.close c n).2.1 := by
  have h := (leads_close hn c r (.closing n)).trans
    (leads_closing t (r.close c n).1 n (r.close c n).2.2)
  rwa [List.append_nil] at h

theorem edits_report (shielded : Bool) (n : Nat) (es : List Event) (r : Registry) :
    Registry.Edits r (r.report shielded n es).1 := by
  induction es generalizing r with
  | nil => exact .refl
  | cons e rest ih =>
    have hedit : Registry.Edit r (r.notify n e).1 := .noted n e
    rw [Registry.report]
    rcases hnotify : r.notify n e with ⟨next, ds, failure⟩
    rw [hnotify] at hedit
    cases failure with
    | none => exact .head hedit (ih next)
    | some failure =>
      cases shielded with
      | true => exact .head hedit (ih next)
      | false => exact .single hedit

theorem edits_close (c : Conduct) (n : Nat) (r : Registry) :
    Registry.Edits (r.askToClose n) (r.close c n).1 :=
  edits_report c.shielded n c.closing.events (r.askToClose n)

/-! ## Registered channels are there -/

/-- The registered channels are among the first ones, up to some count. -/
structure Seated (count : Nat) (r : Registry) : Prop where
  distinct : r.registered.Distinct
  lt : ∀ u n, r.registered.get? u = some n → n < count

namespace Seated

variable {count : Nat}

theorem touches (h : Seated count r) (ht : Registry.Touches n r r') : Seated count r' :=
  ⟨ht.distinct, fun u m hu => h.lt u m (ht.fewer u m hu)⟩

theorem edits (h : Seated count r) (hedits : Registry.Edits r r') : Seated count r' := by
  induction hedits with
  | refl => exact h
  | tail _ hedit ih =>
    obtain ⟨n, ht⟩ := hedit.touches ih.distinct
    exact ih.touches ht

theorem register (h : Seated r.channels.length r) {listener : Listener} {o : Options}
    (hr : r.register modeluri listener o = some r') : Seated r'.channels.length r' := by
  obtain ⟨c, -, -, hchannels, hregistered⟩ := Registry.register_eq_some hr
  rw [hchannels, List.length_append, List.length_singleton]
  refine ⟨hregistered ▸ h.distinct.insert modeluri _, fun u n hu => ?_⟩
  rw [hregistered] at hu
  by_cases hmodel : u = modeluri
  · rw [hmodel, Entries.get?_insert_self, Option.some.injEq] at hu
    omega
  · rw [Entries.get?_insert_of_ne _ _ hmodel] at hu
    have hlt := h.lt u n hu
    omega

end Seated

/-- Calls are numbered, and registered channels are there. -/
structure Ready (t : Switchboard) : Prop where
  numbered : t.Numbered
  seated : Seated t.registry.channels.length t.registry

theorem Ready.start (baseUrl defaultFormat : String) : (start baseUrl defaultFormat).Ready where
  numbered := .start baseUrl defaultFormat
  seated := ⟨List.nodup_nil, fun _ _ h => by cases h⟩

theorem Turn.seated {m : Move} {t' : Switchboard} (hturn : Turn t m t')
    (h : Seated t.registry.channels.length t.registry) :
    Seated t'.registry.channels.length t'.registry := by
  cases hturn with
  | made _ hr => exact h.register hr
  | edited hedits _ _ =>
    have hlength := congrArg List.length (Registry.parties_of_edits hedits)
    rw [Registry.length_parties, Registry.length_parties] at hlength
    rw [hlength]
    exact h.edits hedits

theorem Ready.run (h : t.Ready) (ms : List Move) : (t.run ms).Ready := by
  induction ms generalizing t with
  | nil => exact h
  | cons m rest ih => exact ih ⟨h.numbered.next m, (turn_next t m).seated h.seated⟩

theorem Numbered.length_makers (h : t.Numbered) :
    t.makers.length = t.registry.channels.length :=
  h.aligned.trans (Registry.length_parties _)

theorem Ready.seated_makers (h : t.Ready) : Seated t.makers.length t.registry := by
  rw [h.numbered.length_makers]
  exact h.seated

/-! ## Calls -/

/-- A run of moves in which a call starts, and returns with an outcome. -/
def Performs (t : Switchboard) (r : Registry) (ds : List Delivery) (answer : Answer) : Prop :=
  ∃ ms, (t.run ms).registry = r ∧ (t.run ms).stages = t.stages ++ [.returned answer] ∧
    (t.log ms).map Told.delivery = ds

theorem Performs.of_leads {m : Move} {t₁ : Switchboard} {answer : Answer}
    (hstart : t.next m = t₁.enter r s) (htold : t.told m = []) (hstages : t₁.stages = t.stages)
    (h : t₁.Leads r s r' (.returned answer) ds) : t.Performs r' ds answer := by
  obtain ⟨ms, hrun, hlog⟩ := h
  have hafter : t.run (m :: ms) = t₁.enter r' (.returned answer) := by
    rw [← hrun, ← hstart]
    rfl
  refine ⟨m :: ms, ?_, ?_, ?_⟩
  · rw [hafter]
    rfl
  · rw [hafter, ← hstages]
    rfl
  · rw [log, htold, hstart, List.nil_append, hlog]

theorem map_orFailure {α : Type} (a : α) (failure : Option Failure) :
    (Registry.orFailure a failure).map some = Registry.orFailure (some a) failure := by
  cases failure <;> rfl

/-- **Subscribing alone.** -/
theorem performs_subscribe (h : t.Ready) (conduct : Nat → Conduct) (modeluri : String)
    (listener : Listener) (o : Options) :
    let x := t.registry.subscribe conduct modeluri listener o
    t.Performs x.registry x.deliveries (x.result.map fun _ => none) := by
  intro x
  have hstart :
      t.next (.subscribe modeluri listener o (conduct t.registry.channels.length).making) =
        t.subscribe modeluri listener o (conduct t.registry.channels.length).making := rfl
  simp only [x, Registry.subscribe]
  unfold subscribe at hstart
  by_cases hsub : t.registry.isSubscribed modeluri = true
  · rw [if_pos hsub] at hstart ⊢
    by_cases hloud : o.errorWhenUnsuccessful = true
    · rw [if_pos hloud] at hstart ⊢
      exact .of_leads hstart rfl rfl .refl
    · rw [if_neg hloud] at hstart ⊢
      exact .of_leads hstart rfl rfl .refl
  · rw [if_neg hsub] at hstart ⊢
    cases hr : t.registry.register modeluri listener o with
    | none =>
      simp only [hr] at hstart ⊢
      exact .of_leads hstart rfl rfl .refl
    | some r =>
      cases hmaking : (conduct t.registry.channels.length).making with
      | some failure =>
        simp only [hr, hmaking] at hstart ⊢
        exact .of_leads hstart rfl rfl .refl
      | none =>
        simp only [hr, hmaking] at hstart ⊢
        -- The maker is noted before the channel responds.
        let t₁ : Switchboard := { t with makers := t.makers ++ [t.stages.length] }
        have hstart' : t.next (.subscribe modeluri listener o none) =
          t₁.enter r (.opening t.registry.channels.length) := hstart
        have hn : t.registry.channels.length < t₁.makers.length := by
          have hmakers := h.numbered.length_makers
          simp only [t₁, List.length_append, List.length_singleton]
          omega
        generalize t.registry.channels.length = n at hn hstart' ⊢
        have hopen := leads_respond hn (conduct n) (conduct n).opening r (.opening n)
        rcases hrespond : r.respond (conduct n) n (conduct n).opening with ⟨next, ds, failure⟩
        rw [hrespond] at hopen
        cases failure with
        | none =>
          have hleads := hopen.trans (leads_opening t₁ next n)
          rw [List.append_nil] at hleads
          exact .of_leads hstart' rfl rfl hleads
        | some failure =>
          have hleads := ((hopen.trans (leads_abandoning t₁ next n failure)).trans
            (leads_close hn (conduct n) (next.abandon n) (.abandoning n failure))).trans
              (leads_abandoned t₁ _ n failure ((next.abandon n).close (conduct n) n).2.2)
          rw [List.append_nil, List.append_nil] at hleads
          exact .of_leads hstart' rfl rfl hleads

/-- **Ending a subscription alone.** -/
theorem performs_unsubscribe (h : t.Ready) (conduct : Nat → Conduct) (modeluri : String) :
    let x := t.registry.unsubscribe conduct modeluri
    t.Performs x.registry x.deliveries (x.result.map some) := by
  intro x
  have hstart : t.next (.unsubscribe modeluri) = t.unsubscribe modeluri := rfl
  simp only [x, Registry.unsubscribe]
  unfold unsubscribe at hstart
  cases hw : t.registry.withdraw modeluri with
  | none =>
    simp only [hw] at hstart ⊢
    exact .of_leads hstart rfl rfl .refl
  | some after =>
    obtain ⟨r, n⟩ := after
    simp only [hw] at hstart ⊢
    have hn := h.seated_makers.lt modeluri n (Registry.withdraw_eq_some hw).1
    rw [map_orFailure]
    exact .of_leads hstart rfl rfl (leads_closed hn (conduct n) r)

/-- **Sending alone.** -/
theorem performs_send (h : t.Ready) (conduct : Nat → Conduct) (modeluri : String)
    (message : Checked Envelope) :
    let x := t.registry.send conduct modeluri message
    t.Performs x.registry x.deliveries (x.result.map some) := by
  intro x
  have hstart : t.next (.send modeluri message) = t.send modeluri message := rfl
  simp only [x, Registry.send]
  unfold send at hstart
  cases hget : t.registry.registered.get? modeluri with
  | none =>
    simp only [hget] at hstart ⊢
    exact .of_leads hstart rfl rfl .refl
  | some n =>
    cases hsub : t.registry.isSubscribed modeluri with
    | false =>
      simp only [hget, hsub] at hstart ⊢
      exact .of_leads hstart rfl rfl .refl
    | true =>
      cases message with
      | bad issues =>
        simp only [hget, hsub] at hstart ⊢
        exact .of_leads hstart rfl rfl .refl
      | ok m =>
        simp only [hget, hsub] at hstart ⊢
        have hn := h.seated_makers.lt modeluri n hget
        rw [map_orFailure]
        exact .of_leads hstart rfl rfl (leads_sent hn (conduct n) _ _)

/-- Subscriptions that are ended one after the other. -/
theorem leads_closeEach (conduct : Nat → Conduct) (uris : List String)
    (h : Seated t.makers.length r) :
    let x := Registry.closeEach conduct uris r
    t.Leads (endNext uris r).1 (endNext uris r).2 x.registry
      (.returned (x.result.map fun _ => none)) x.deliveries := by
  induction uris generalizing r with
  | nil => exact .refl
  | cons modeluri rest ih =>
    simp only [endNext, Registry.closeEach, Registry.unsubscribe]
    cases hw : r.withdraw modeluri with
    | none => exact ih h
    | some after =>
      obtain ⟨r', n⟩ := after
      have hn := h.lt modeluri n (Registry.withdraw_eq_some hw).1
      have hclose := leads_close hn (conduct n) r' (.closingAll n rest)
      have hseated := h.edits ((edits_withdraw hw).trans (edits_close (conduct n) n r'))
      simp only
      rcases hresponse : r'.close (conduct n) n with ⟨next, ds, failure⟩
      rw [hresponse] at hclose hseated
      cases failure with
      | none => exact hclose.trans ((leads_closingAll t next n rest).trans (ih hseated))
      | some failure =>
        have hleads := hclose.trans (leads_closingAll_failed t next n rest failure)
        rw [List.append_nil] at hleads
        exact hleads

/-- **Ending all subscriptions alone.** -/
theorem performs_closeAll (h : t.Ready) (conduct : Nat → Conduct) :
    let x := t.registry.closeAll conduct
    t.Performs x.registry x.deliveries (x.result.map fun _ => none) := by
  intro x
  have hstart : t.next .closeAll = t.enter
    (endNext t.registry.registered.names t.registry).1
    (endNext t.registry.registered.names t.registry).2 := rfl
  exact .of_leads hstart rfl rfl (leads_closeEach conduct _ h.seated_makers)

end RemoteModel.Subscription.Switchboard
