import RemoteModel.Proofs.Client.Edits

/-!
# Edits of a configured client

A client that is made from a configuration speaks the configured version of the protocol, and every
edit that names no format goes out in the configured one. A configuration accepts all four formats.

**Main statement.** `submit_configured`: an edit is sent in one request, and ends with a result or a
reported error, except in three cases. In the second version an edit has no XML form; a request that
is too long has no address; and an answer whose text is to be shown may have none.

* *What is sent* depends on the version, the format and the kind of the edit (`Edit.SentAs`). Only a
  patch in the first version and an edit without a form are not sent (`Edit.IsSound.cases`).
* *What comes back* leaves two kinds of failures, for every call (`Client.read_eq_error`).
-/

namespace RemoteModel

variable {e : Edit} {f : Format}

/-! ## Formats -/

/-- The formats that carry a text. -/
def Format.IsText (f : Format) : Prop := f = .xml ∨ f = .xmi

instance (f : Format) : Decidable f.IsText := inferInstanceAs (Decidable (_ ∨ _))

namespace Format

theorem exists_dialect (h : ¬ f.IsText) : ∃ source target, f.Dialect source target := by
  cases f with
  | json => exact ⟨_, _, .json⟩
  | jsonV2 => exact ⟨_, _, .jsonV2⟩
  | xml => exact absurd (.inl rfl) h
  | xmi => exact absurd (.inr rfl) h

theorem asText_eq_error {v : Json} (hv : v.isString = false) : asText v = .error .notText := by
  cases v with
  | str s => cases hv
  | _ => rfl

theorem body_of_isText {v : Json} (h : f.IsText) (hv : v.isString = false) :
    body f.name v = .error .notText := by
  have hencode : f.encode v = .error .notText := by
    rcases h with rfl | rfl
    · exact asText_eq_error hv
    · exact asText_eq_error hv
  rw [body, encodeNamed, ofName?_name]
  simp only [hencode]
  rfl

end Format

/-! ## What is sent -/

namespace Edit

/-- An edit with finite values: a command, or operations as a patch. -/
inductive IsSound : Edit → Prop
  | command {k : Command} (h : k.toWire.isFinite = true) : IsSound (.command k)
  | patch {v : Json} {os : List Patch.Operation} (h : Patch.IsPatch v os)
      (hv : v.isFinite = true) : IsSound (.patch v)

theorem IsSound.exists_message (h : e.IsSound) : ∃ m, Message e m ∧ m.isFinite = true := by
  cases h with
  | @command k hk =>
    refine ⟨_, .command, ?_⟩
    simp [Client.message, Json.isFinite, Json.finiteMembers, hk]
  | patch hv hfinite => exact ⟨_, .patch hv, hv.isFinite hfinite⟩

/-- An edit is a patch in the version without patches, has no form in the format, or is sent. -/
theorem IsSound.cases (h : e.IsSound) (p : Protocol) (f : Format) :
    (p = .v1 ∧ ∃ v, e = .patch v) ∨ (p = .v2 ∧ f.IsText) ∨
      ∃ data, SentAs p f e data ∧ data.isFinite = true := by
  cases p with
  | v1 =>
    cases h with
    | command hk => exact .inr (.inr ⟨_, .plain, hk⟩)
    | patch => exact .inl ⟨rfl, _, rfl⟩
  | v2 =>
    by_cases htext : f.IsText
    · exact .inr (.inl ⟨rfl, htext⟩)
    · obtain ⟨source, target, hf⟩ := Format.exists_dialect htext
      obtain ⟨m, hm, hfinite⟩ := h.exists_message
      exact .inr (.inr ⟨_, .message hf hm, Json.isFinite_retag hfinite⟩)

end Edit

namespace Client

variable {c : Client} {modeluri : String} {format : Option String}

theorem submit_of_isText (hv2 : c.protocol = .v2) (hformat : c.editFormat format = f.name)
    (hf : f.IsText) (he : e.IsSound) (a : Answer) :
    c.submit modeluri e format a = (none, .error .notText) := by
  obtain ⟨m, hm, -⟩ := he.exists_message
  have hedit : c.edit modeluri e format = .error .notText := by
    rw [edit_of_message hv2 hm, hformat, editRequest, Format.body_of_isText hf hm.isString]
    rfl
  rw [submit, hedit]

/-! ## Configured clients -/

variable {config : Config}

/-- **An edit of a configured client**, without a format of its own. In the second version it fails
unreported in the XML formats, and in the first version a patch is reported. Any other edit asks
for one change. It fails unreported if its request has no address; otherwise the request is sent,
and a result or a reported error follows, unless the text of the answer is to be shown and there is
none. -/
theorem submit_configured (hc : ofConfig config none none none = .ok c) (he : e.IsSound)
    (a : Answer) :
    let p := config.server.protocol
    let f := config.server.format
    let outcome := c.submit modeluri e none a
    (p = .v2 → f.IsText → outcome = (none, .error .notText)) ∧
    (p = .v1 → ∀ v, e = .patch v → outcome = (none, .error (.reported .commandsOnly))) ∧
    ((p = .v1 → ∀ v, e ≠ .patch v) → (p = .v2 → ¬ f.IsText) →
      (c.requestUrl? p.editPath [] = none ∨ ¬ Subscription.IsShort (editParams modeluri f) →
        outcome = (none, .error .notAUrl)) ∧
      ((c.requestUrl? p.editPath []).isSome = true → Subscription.IsShort (editParams modeluri f) →
        (∃ url data, c.requestUrl? p.editPath (editParams modeluri f) = some url ∧
          Edit.SentAs p f e data ∧ outcome.1 = some
            { method := .patch, url := url, body := some (.obj [("data", data)]) }) ∧
        (∀ failure, outcome.2 = .error failure →
          a.Escapes failure ∨ ∃ error, failure = .reported error) ∧
        ∀ failure, a.Escapes failure →
          outcome.2 = .error failure ∧ ∀ error, failure ≠ .reported error)) := by
  intro p f outcome
  obtain ⟨hp, hformat⟩ : c.protocol = p ∧ c.editFormat none = f.name := by
    obtain ⟨base, -, rfl⟩ := ofConfig_eq_ok.1 hc
    exact ⟨rfl, rfl⟩
  refine ⟨fun hv2 htext => submit_of_isText (hp.trans hv2) hformat htext he a, ?_, ?_⟩
  · rintro hv1 v rfl
    simp only [outcome, submit, edit, hp.trans hv1]
  · intro hpatch htext
    obtain ⟨data, hsent, hfinite⟩ : ∃ data, Edit.SentAs p f e data ∧ data.isFinite = true := by
      rcases he.cases p f with ⟨hv1, v, hv⟩ | ⟨hv2, hf⟩ | hsent
      · exact absurd hv (hpatch hv1 v)
      · exact absurd hf (htext hv2)
      · exact hsent
    have houtcome : outcome = _ := submit_of_sentAs hformat (hp ▸ hsent) a
    rw [hp] at houtcome
    simp only [hfinite, if_true] at houtcome
    refine ⟨fun hnone => ?_, fun hsome hshort => ?_⟩
    · rw [requestUrl?_eq_none_iff.2 hnone] at houtcome
      exact houtcome
    · obtain ⟨url, hurl⟩ := Option.isSome_iff_exists.1 (isSome_requestUrl?_iff.2 ⟨hsome, hshort⟩)
      rw [hurl] at houtcome
      have hread : outcome.2 = c.read p.editPath p.editResult a := congrArg Prod.snd houtcome
      rw [hread]
      exact ⟨⟨url, data, hurl, hsent, congrArg Prod.fst houtcome⟩, fun failure => read_eq_error,
        fun failure h => ⟨read_of_escapes h, h.ne_reported⟩⟩

theorem removal_isSound : (Edit.patch removal).IsSound :=
  .patch (.list (List.cons_ne_nil _ _) (.cons rfl .nil)) (by decide)

theorem submit_configured_usual :
    ofConfig {} none none none = .ok localClient ∧ (Edit.patch removal).IsSound ∧
      ∃ url data, Edit.SentAs .v2 .jsonV2 (.patch removal) data ∧
        (localClient.submit "m" (.patch removal) none .timedOut).1 =
          some { method := .patch, url := url, body := some (.obj [("data", data)]) } ∧
        ∀ failure, (localClient.submit "m" (.patch removal) none .timedOut).2 = .error failure →
          ∃ error, failure = .reported error := by
  have hmade : ofConfig {} none none none = .ok localClient := ofConfig_local none
  obtain ⟨-, -, hsends⟩ := @submit_configured _ _ "m" _ hmade removal_isSound .timedOut
  have hshort : Subscription.IsShort (editParams "m" .jsonV2) := by
    unfold Subscription.IsShort
    decide +kernel
  obtain ⟨⟨url, data, -, hsent, hfirst⟩, hfails, -⟩ :=
    (hsends (fun h => by cases h) fun _ h => by rcases h with h | h <;> cases h).2
      (by decide +kernel) hshort
  refine ⟨hmade, removal_isSound, url, data, hsent, hfirst, fun failure h => ?_⟩
  rcases hfails failure h with ⟨r, refusal, hr, -⟩ | hreported
  · cases hr
  · exact hreported

/-- A configuration with an XML format is accepted, and the client that is made from it cannot send
a patch. -/
theorem submit_xml :
    ∃ config c,
      Config.load (fun _ => none) none [("MODELSERVER_SERVER_DEFAULT_FORMAT", "xml")] = .ok config ∧
      ofConfig config none none none = .ok c ∧ (Edit.patch removal).IsSound ∧
      c.submit "m" (.patch removal) none .timedOut = (none, .error .notText) :=
  ⟨_, _, toOption_eq_some.1 (by decide +kernel), ofConfig_local (some .xml), removal_isSound, rfl⟩

end Client

end RemoteModel
