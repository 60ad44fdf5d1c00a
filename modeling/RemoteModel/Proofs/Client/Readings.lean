import RemoteModel.Client.Received
import RemoteModel.Proofs.Client.Mappers

/-!
# What a call makes of an answer

Most calls ask for something and send nothing along (`Reading`). An answer is an envelope or it is
not, its status is one of success or it is not, and there may be no answer at all. `Returns` says
for which answers a call returns, and with which value; `Reports` says which error it reports for
the others.

**Escapes.** To report an answer without an envelope, its text is shown. Where the bytes have no
text, the failure to read them escapes (`Answer.Escapes`). Nothing is assumed of how the text is
made, only that a failure to make it is no error of the library.

**Main statement.** `perform_reading`: for every answer a call returns exactly what `Returns` says,
and otherwise it reports an error as `Reports` says, unless a failure escapes. Lone surrogates are
no characters, so this is said of answers without them (`Answer.isPaired`).

The way from an answer to an envelope is the same for all calls; its cases are the lemmas on
`Response.envelope`. What follows is left to the mapper of a call.
-/

namespace RemoteModel

variable {α : Type}

/-! ## Calls -/

/-- A call that sends nothing along. -/
inductive Reading : Type → Type
  | get (modeluri : String) (s : Selector) : Reading Json
  | getAll (s : Selector) : Reading (List ModelRecord)
  | modelUris : Reading (List String)
  | elementById (modeluri id : String) (s : Selector) : Reading Json
  | elementByName (modeluri name : String) (s : Selector) : Reading Json
  | delete (modeluri : String) : Reading Bool
  | close (modeluri : String) : Reading Bool
  | save (modeluri : String) : Reading Bool
  | saveAll : Reading Bool
  | ping : Reading Bool
  | validate (modeluri : String) : Reading Diagnostic
  | validationConstraints (modeluri : String) : Reading String
  | typeSchema (modeluri : String) : Reading String
  | uiSchema (name : String) : Reading String

namespace Reading

/-- The exchange of a call. -/
def exchange (c : Client) : {α : Type} → Reading α → Exchange α
  | _, get modeluri s => c.get modeluri s
  | _, getAll s => c.getAll s
  | _, modelUris => Client.modelUris
  | _, elementById modeluri id s => c.elementById modeluri id s
  | _, elementByName modeluri name s => c.elementByName modeluri name s
  | _, delete modeluri => Client.delete modeluri
  | _, close modeluri => Client.close modeluri
  | _, save modeluri => Client.save modeluri
  | _, saveAll => Client.saveAll
  | _, ping => Client.ping
  | _, validate modeluri => Client.validate modeluri
  | _, validationConstraints modeluri => Client.validationConstraints modeluri
  | _, typeSchema modeluri => Client.typeSchema modeluri
  | _, uiSchema name => Client.uiSchema name

def mapper : {α : Type} → Reading α → Mapper α
  | _, get _ s | _, elementById _ _ s | _, elementByName _ _ s => .selected s
  | _, getAll s => .listing s
  | _, modelUris => .texts
  | _, delete _ | _, close _ | _, save _ | _, saveAll | _, ping => .success
  | _, validate _ => .diagnostic
  | _, validationConstraints _ | _, typeSchema _ | _, uiSchema _ => .text

theorem exchange_eq_ask (c : Client) (x : Reading α) :
    ∃ request, x.exchange c = .ask request x.mapper.decode := by
  cases x <;> exact ⟨_, rfl⟩

/-- The request of a call has an address, and is sent. -/
def Sends (c : Client) (x : Reading α) (sent : SentRequest) : Prop :=
  ∃ request decode, x.exchange c = .ask request decode ∧ request.sent c.base = .ok sent

end Reading

/-! ## What is returned -/

namespace Response

/-- The status is one of success. -/
def Succeeds (r : Response) : Prop := r.status / 100 = 2

instance (r : Response) : Decidable r.Succeeds := Nat.decEq _ _

/-- The body is JSON of an envelope. -/
def Carries (r : Response) (type : String) (data : Json) : Prop :=
  (Frame.bytes r.body).Carries type data

end Response

/-- A call returns a value for an answer. -/
def Reading.Returns (x : Reading α) (a : Answer) (value : α) : Prop :=
  ∃ r type data, a = .response r ∧ r.Succeeds ∧ r.Carries type data ∧ type ≠ "error" ∧
    x.mapper.Maps type data value

/-! ## What is reported -/

/-- The message of an error that the server reports with some data. -/
def Envelope.complaint : Json → String
  | .null => "model server reported an error"
  | .obj members =>
    match Entries.get? members "message" with
    | some (.str message) => message
    | _ => Narrow.text (.obj members)
  | data => Narrow.text data

/-- A call reports an error for an answer. -/
inductive Reading.Reports (x : Reading α) : Answer → Error → Prop
  | timedOut {e} (hcode : e.code = .timeout) : Reports x .timedOut e
  | unreachable {e} (reason : String) (hcode : e.code = .transport) :
      Reports x (.unreachable reason) e
  | noEnvelope {r e} (hs : r.Succeeds) (h : ∀ type data, ¬ r.Carries type data)
      (hcode : e.code = .decode) : Reports x (.response r) e
  | refused {r type data e} (hs : r.Succeeds) (h : r.Carries type data) (htype : type ≠ "error")
      (hvalue : ∀ value, ¬ x.mapper.Maps type data value) (hcode : e.code = .decode) :
      Reports x (.response r) e
  | server {r type data e} (h : r.Carries type data) (hs : r.Succeeds → type = "error")
      (hcode : e.code = .server) (hmessage : e.message = Envelope.complaint data) :
      Reports x (.response r) e
  | badStatus {r e} (hs : ¬ r.Succeeds) (h : ∀ type data, ¬ r.Carries type data)
      (hcode : e.code = .http) : Reports x (.response r) e

/-- The text of an answer is shown: there is no envelope, and no other value that could be shown
in its place. -/
def Response.ShowsText (r : Response) : Prop :=
  (∀ type data, ¬ r.Carries type data) ∧
    (r.Succeeds → ∀ v, Json.readBytes r.body = .ok v → v = .null)

/-- The text of an answer is to be shown, and there is none. -/
def Answer.Escapes (a : Answer) (f : Failure) : Prop :=
  ∃ r refusal, a = .response r ∧ r.ShowsText ∧ r.text = .error refusal ∧ f = refusal.failure

/-- No lone surrogate is in the body of an answer. -/
def Answer.isPaired : Answer → Bool
  | response r => (Frame.bytes r.body).isPaired
  | timedOut | unreachable _ => true

/-! ## Answers -/

variable {c : Client} {r : Response} {a : Answer} {type path : String} {data : Json} {f : Failure}
  {e : Error} {refusal : Refusal}

namespace Envelope

theorem kind_eq_error : kind ⟨type, data⟩ = .error ↔ type = "error" := by
  constructor
  · intro hkind
    have herror : MessageKind.ofType type = .error := hkind
    have hname : (MessageKind.ofType type).name = type :=
      MessageKind.name_ofType (by rw [herror]; exact MessageKind.noConfusion)
    rw [← hname, herror]
    rfl
  · rintro rfl
    exact MessageKind.ofType_name .error

theorem serverError_message (m : Envelope) (details : Entries Json) :
    (m.serverError details).message = complaint m.data := by
  unfold serverError Json.text?
  cases m.data with
  | null => rfl
  | obj members =>
    simp only [Json.get?, complaint, reduceCtorEq, if_false]
    cases Entries.get? members "message" with
    | none => rfl
    | some v => cases v <;> rfl
  | _ =>
    simp only [Json.get?, complaint, reduceCtorEq, if_false, Option.bind_none]
    rfl

end Envelope

namespace Response

theorem isSuccess_iff : r.isSuccess = true ↔ r.Succeeds := by
  simp only [isSuccess, Succeeds, Bool.and_eq_true, decide_eq_true_eq]
  omega

theorem cases_carries (r : Response) :
    (∃ type data, r.Carries type data) ∨ ∀ type data, ¬ r.Carries type data := by
  by_cases h : ∃ type data, r.Carries type data
  · exact .inl h
  · exact .inr fun type data hcarries => h ⟨type, data, hcarries⟩

theorem ofJson_of_carries (h : r.Carries type data) :
    Envelope.ofJson (Json.ofOption r.json?) = .ok ⟨type, data⟩ := by
  obtain ⟨v, hread, htype, hdata⟩ := h
  have hjson : r.json? = some v := by
    unfold json?
    rw [show Json.readBytes r.body = .ok v from hread]
  rw [hjson]
  exact Envelope.ofJson_of_type htype hdata

theorem ofJson_of_noEnvelope (h : ∀ type data, ¬ r.Carries type data) :
    ∃ e, Envelope.ofJson (Json.ofOption r.json?) = .error e := by
  refine ⟨_, Envelope.ofJson_of_noType fun type htype => ?_⟩
  unfold json? at htype
  cases hread : Json.readBytes r.body with
  | error fault =>
    rw [hread] at htype
    cases htype
  | ok v =>
    rw [hread] at htype
    exact h type _ ⟨v, hread, htype, rfl⟩

theorem json?_eq_null : Json.ofOption r.json? = .null ↔
    ∀ v, Json.readBytes r.body = .ok v → v = .null := by
  unfold json?
  cases Json.readBytes r.body with
  | error fault => simp [Json.ofOption]
  | ok v => simp [Json.ofOption]

/-! ### The cases of an answer -/

theorem envelope_of_success (path : String) (h : r.Carries type data) (hs : r.Succeeds) :
    r.envelope path = .ok ⟨type, data⟩ := by
  simp only [envelope, ofJson_of_carries h, isSuccess_iff.2 hs]

theorem envelope_of_failure (path : String) (h : r.Carries type data) (hs : ¬ r.Succeeds) :
    ∃ e, r.envelope path = .error (.reported e) ∧ e.code = .server ∧
      e.message = Envelope.complaint data := by
  have hsuccess : r.isSuccess = false := by
    rw [← Bool.not_eq_true, isSuccess_iff]
    exact hs
  have henvelope : r.envelope path = .error (.reported (Envelope.serverError ⟨type, data⟩
      [("status_code", .int r.status), ("path", .str path)])) := by
    simp only [envelope, ofJson_of_carries h, hsuccess]
  exact ⟨_, henvelope, rfl, Envelope.serverError_message _ _⟩

/-- If there is no text to show, the failure to read it takes its place. -/
theorem envelope_of_showsText (path : String) (h : r.ShowsText) (htext : r.text = .error refusal) :
    r.envelope path = .error refusal.failure := by
  obtain ⟨e, he⟩ := ofJson_of_noEnvelope h.1
  cases hsuccess : r.isSuccess with
  | true =>
    have hnull := json?_eq_null.2 (h.2 (isSuccess_iff.1 hsuccess))
    rw [hnull] at he
    simp only [envelope, hnull, he, hsuccess, misshaped, htext]
  | false => simp only [envelope, he, hsuccess, badStatus, htext]

/-- Without an envelope an error is reported, unless the text that is shown has none. -/
theorem envelope_of_noEnvelope (path : String) (h : ∀ type data, ¬ r.Carries type data)
    (htext : ∀ refusal, r.text = .error refusal → ¬ r.ShowsText) :
    ∃ e, r.envelope path = .error (.reported e) ∧ (r.Succeeds → e.code = .decode) ∧
      (¬ r.Succeeds → e.code = .http) := by
  obtain ⟨e, he⟩ := ofJson_of_noEnvelope h
  cases hsuccess : r.isSuccess with
  | true =>
    have hs := isSuccess_iff.1 hsuccess
    have hmisshaped : ∃ shown, r.misshaped (Json.ofOption r.json?) =
        .reported (.undecodable Envelope.title shown) := by
      by_cases hnull : Json.ofOption r.json? = .null
      · cases hshown : r.text with
        | ok shown => exact ⟨.str shown, by rw [hnull, misshaped, hshown]⟩
        | error refusal => exact absurd ⟨h, fun _ => json?_eq_null.1 hnull⟩ (htext refusal hshown)
      · refine ⟨Json.ofOption r.json?, ?_⟩
        cases hjson : Json.ofOption r.json? with
        | null => exact absurd hjson hnull
        | _ => rfl
    obtain ⟨shown, hshown⟩ := hmisshaped
    refine ⟨.undecodable Envelope.title shown, ?_, fun _ => rfl, fun hns => absurd hs hns⟩
    simp only [envelope, he, hsuccess, hshown]
  | false =>
    have hns : ¬ r.Succeeds := fun hs => by simp [isSuccess_iff.2 hs] at hsuccess
    cases hshown : r.text with
    | ok shown =>
      refine ⟨.badStatus r.status path (String.ofList (shown.toList.take shownLength)), ?_,
        fun hs => absurd hs hns, fun _ => rfl⟩
      simp only [envelope, he, hsuccess, badStatus, hshown]
    | error refusal => exact absurd ⟨h, fun hs => absurd hs hns⟩ (htext refusal hshown)

end Response

theorem Answer.Escapes.ne_reported (h : a.Escapes f) (e : Error) : f ≠ .reported e := by
  obtain ⟨r, refusal, -, -, -, rfl⟩ := h
  exact Failure.noConfusion

/-! ## Calls -/

namespace Client

variable {decode : Envelope → Except Error α}

theorem read_of_escapes (h : a.Escapes f) : c.read path decode a = .error f := by
  obtain ⟨r, refusal, rfl, hshows, htext, rfl⟩ := h
  simp only [read, Answer.envelope, Response.envelope_of_showsText path hshows htext]

/-- The failures of a call that has an answer are those that escape, and reported errors. -/
theorem read_eq_error (h : c.read path decode a = .error f) :
    a.Escapes f ∨ ∃ e, f = .reported e := by
  have hreported : ∀ e, c.read path decode a = .error (.reported e) → ∃ e, f = .reported e :=
    fun e he => ⟨e, Except.error.inj (h.symm.trans he)⟩
  cases a with
  | timedOut => exact .inr (hreported _ rfl)
  | unreachable reason => exact .inr (hreported _ rfl)
  | response r =>
    rcases r.cases_carries with ⟨type, data, hcarries⟩ | hnone
    · by_cases hs : r.Succeeds
      · have henvelope := r.envelope_of_success path hcarries hs
        simp only [read, Answer.envelope, henvelope] at h
        split at h
        · exact .inr ⟨_, (Except.error.inj h).symm⟩
        · cases hdecode : decode ⟨type, data⟩ with
          | ok value =>
            rw [hdecode] at h
            cases h
          | error e =>
            rw [hdecode] at h
            exact .inr ⟨e, (Except.error.inj h).symm⟩
      · obtain ⟨e, he, -⟩ := r.envelope_of_failure path hcarries hs
        exact .inr (hreported e (by simp only [read, Answer.envelope, he]))
    · by_cases hescapes : ∃ g, (Answer.response r).Escapes g
      · obtain ⟨g, hg⟩ := hescapes
        cases h.symm.trans (read_of_escapes hg)
        exact .inl hg
      · obtain ⟨e, he, -⟩ := r.envelope_of_noEnvelope path hnone
          fun refusal htext hshows => hescapes ⟨_, r, refusal, rfl, hshows, htext, rfl⟩
        exact .inr (hreported e (by simp only [read, Answer.envelope, he]))

end Client

namespace Reading

variable {x : Reading α} {value : α}

theorem read_of_returns (h : x.Returns a value) : c.read path x.mapper.decode a = .ok value := by
  obtain ⟨r, type, data, rfl, hs, hcarries, htype, hmaps⟩ := h
  simp only [Client.read, Answer.envelope, Response.envelope_of_success path hcarries hs,
    Envelope.kind_eq_error, htype, if_false, Mapper.decode_eq_ok.2 hmaps]
  rfl

theorem read_of_success (c : Client) (x : Reading α) (path : String) (h : r.Carries type data)
    (hs : r.Succeeds) :
    (∃ value, x.Returns (.response r) value) ∨
      ∃ e, c.read path x.mapper.decode (.response r) = .error (.reported e) ∧
        x.Reports (.response r) e := by
  have henvelope := r.envelope_of_success path h hs
  by_cases htype : type = "error"
  · let e := Envelope.serverError ⟨type, data⟩ [("path", .str path)]
    refine .inr ⟨e, ?_, .server h (fun _ => htype) rfl (Envelope.serverError_message _ _)⟩
    simp only [Client.read, Answer.envelope, henvelope, Envelope.kind_eq_error, htype, if_true, e]
  · cases hdecode : x.mapper.decode ⟨type, data⟩ with
    | ok value =>
      exact .inl ⟨value, r, type, data, rfl, hs, h, htype, Mapper.decode_eq_ok.1 hdecode⟩
    | error e =>
      have hmaps : ∀ value, ¬ x.mapper.Maps type data value := by
        intro value hvalue
        cases hdecode.symm.trans (Mapper.decode_eq_ok.2 hvalue)
      refine .inr ⟨e, ?_, .refused hs h htype hmaps (Mapper.code_of_decode hdecode)⟩
      simp only [Client.read, Answer.envelope, henvelope, Envelope.kind_eq_error, htype, if_false,
        hdecode]
      rfl

/-- For every answer a value is returned, an error is reported or a failure escapes. -/
theorem read_cases (c : Client) (x : Reading α) (path : String) (a : Answer) :
    (∃ value, x.Returns a value) ∨
      (∃ e, c.read path x.mapper.decode a = .error (.reported e) ∧ x.Reports a e) ∨
        ∃ f, a.Escapes f := by
  cases a with
  | timedOut => exact .inr (.inl ⟨_, rfl, .timedOut rfl⟩)
  | unreachable reason => exact .inr (.inl ⟨_, rfl, .unreachable reason rfl⟩)
  | response r =>
    have hread : ∀ {f}, r.envelope path = .error f →
        c.read path x.mapper.decode (.response r) = .error f := by
      intro f hf
      simp only [Client.read, Answer.envelope, hf]
    rcases r.cases_carries with ⟨type, data, h⟩ | h
    · by_cases hs : r.Succeeds
      · exact (read_of_success c x path h hs).imp_right .inl
      · obtain ⟨e, he, hcode, hmessage⟩ := r.envelope_of_failure path h hs
        exact .inr (.inl ⟨e, hread he, .server h (fun hs' => absurd hs' hs) hcode hmessage⟩)
    · by_cases hescapes : ∃ f, (Answer.response r).Escapes f
      · exact .inr (.inr hescapes)
      · obtain ⟨e, he, hdecode, hhttp⟩ := r.envelope_of_noEnvelope path h
          fun refusal htext hshows => hescapes ⟨_, r, refusal, rfl, hshows, htext, rfl⟩
        refine .inr (.inl ⟨e, hread he, ?_⟩)
        by_cases hs : r.Succeeds
        · exact .noEnvelope hs h (hdecode hs)
        · exact .badStatus hs h (hhttp hs)

theorem perform_eq {sent : SentRequest} (h : x.Sends c sent) (a : Answer) :
    ∃ path, c.perform (x.exchange c) a = (some sent, c.read path x.mapper.decode a) := by
  obtain ⟨request, decode, hask, hsent⟩ := h
  obtain ⟨request', hask'⟩ := x.exchange_eq_ask c
  rw [hask] at hask'
  cases hask'
  refine ⟨request.path, ?_⟩
  simp only [Client.perform, Client.start, hask, hsent]

end Reading

/-- **A call returns the mapped data of an answer, or reports an error**, exactly as the answer
says if it has no lone surrogates; the only other failures are those to read a text. -/
theorem perform_reading {x : Reading α} {sent : SentRequest} (h : x.Sends c sent) (a : Answer) :
    let outcome := c.perform (x.exchange c) a
    outcome.1 = some sent ∧
    (a.isPaired = true →
      (∀ value, outcome.2 = .ok value ↔ x.Returns a value) ∧
      ((∀ value, ¬ x.Returns a value) → (∀ f, ¬ a.Escapes f) →
        ∃ e, outcome.2 = .error (.reported e) ∧ x.Reports a e)) ∧
    ∀ f, a.Escapes f → outcome.2 = .error f ∧ ∀ e, f ≠ .reported e := by
  intro outcome
  obtain ⟨path, houtcome⟩ := Reading.perform_eq h a
  have hresult : outcome.2 = c.read path x.mapper.decode a := congrArg Prod.snd houtcome
  rw [hresult]
  have hcases := Reading.read_cases c x path a
  refine ⟨congrArg Prod.fst houtcome, fun _ =>
    ⟨fun value => ⟨fun hvalue => ?_, Reading.read_of_returns⟩, fun hreturns hescapes => ?_⟩,
    fun f hf => ⟨Client.read_of_escapes hf, hf.ne_reported⟩⟩
  · rcases hcases with ⟨value', hreturns⟩ | ⟨e, he, -⟩ | ⟨f, hf⟩
    · cases hvalue.symm.trans (Reading.read_of_returns hreturns)
      exact hreturns
    · cases hvalue.symm.trans he
    · cases hvalue.symm.trans (Client.read_of_escapes hf)
  · rcases hcases with ⟨value, hvalue⟩ | hreports | ⟨f, hf⟩
    · exact absurd hvalue (hreturns value)
    · exact hreports
    · exact absurd hf (hescapes f)

/-- A client of an API on the same machine. -/
def localClient : Client :=
  { protocol := .v2, baseUrl := "http://localhost:8081/api/v2/", defaultFormat := "json-v2"
    timeout := Client.usualTimeout
    base :=
      { scheme := "http", userinfo := "", host := "localhost", port := some 8081
        path := "/api/v2/", query := none, fragment := none } }

namespace Client

theorem ofConfig_eq_ok {config : Config} : ofConfig config none none none = .ok c ↔
    ∃ base, (Url.ofText? config.server.apiUrl).bind Url.asBase? = some base ∧
      c = { protocol := config.server.protocol, baseUrl := config.server.apiUrl
            defaultFormat := config.server.format.name
            timeout := .float config.server.timeout, base := base } := by
  have hformat : (firstText none (config.server.defaultFormat.map Format.name)).getD
      config.server.protocol.format.name = config.server.format.name := by
    unfold Config.Server.format
    cases config.server.defaultFormat <;> rfl
  have hurl : (firstText none (some config.server.apiUrl)).getD "" = config.server.apiUrl := rfl
  simp only [ofConfig, make, Option.map_some, Option.bind_some, hformat, hurl]
  cases (Url.ofText? config.server.apiUrl).bind Url.asBase? with
  | none => simp
  | some base => simp [eq_comm]

theorem ofConfig_local (format : Option Format) :
    ofConfig { server := { defaultFormat := format } } none none none =
      .ok { localClient with defaultFormat := (format.getD .jsonV2).name } := by
  have htext : ({} : Config.Server).apiUrl = localClient.baseUrl := by decide +kernel
  have hbase : (Url.ofText? localClient.baseUrl).bind Url.asBase? = some localClient.base := by
    decide +kernel
  exact ofConfig_eq_ok.2 ⟨localClient.base, htext ▸ hbase, htext ▸ rfl⟩

end Client

/-- A listing of one model, in JSON. -/
def listed : Response :=
  .received 200 [] (Text.Utf8.encode
    "\x7b\"type\": \"success\", \"data\": \x7b\"a.ecore\": [1]\x7d\x7d".toList)

theorem perform_reading_listed :
    let x := Reading.getAll (.guarded ⟨"list", Json.isArray⟩ none)
    let sent : SentRequest :=
      { method := .get, body := none
        url := { localClient.base with path := "/api/v2/models", query := some "format=json-v2" } }
    x.Sends localClient sent ∧ (Answer.response listed).isPaired = true ∧
      localClient.perform (x.exchange localClient) (.response listed) =
        (some sent, .ok [⟨"a.ecore", .arr [.int 1]⟩]) := by
  intro x sent
  have hsends : x.Sends localClient sent :=
    ⟨_, _, rfl, toOption_eq_some.1 (by decide +kernel)⟩
  have hread : Json.readBytes listed.body =
      .ok (.obj [("type", .str "success"), ("data", .obj [("a.ecore", .arr [.int 1])])]) :=
    toOption_eq_some.1 (by decide +kernel)
  have hreturns : x.Returns (.response listed) [⟨"a.ecore", .arr [.int 1]⟩] :=
    ⟨listed, "success", _, rfl, rfl, ⟨_, hread, rfl, rfl⟩, by decide,
      .listing (.cons ⟨rfl, .guarded none rfl⟩ .nil)⟩
  have hpaired : (Answer.response listed).isPaired = true := by decide +kernel
  have houtcome := perform_reading hsends (.response listed)
  exact ⟨hsends, hpaired, Prod.ext houtcome.1 (((houtcome.2.1 hpaired).1 _).2 hreturns)⟩

/-- An error page in two-byte units, without a byte order mark. -/
def errorPage : Response :=
  .received 500 [("content-type", "text/plain; charset=utf-16")]
    [0x00, 0x6F, 0x00, 0x6F, 0x00, 0x70, 0x00, 0x73]

/-- The status of an error page is not reported, because its text cannot be shown. -/
theorem perform_errorPage :
    ∃ sent f, Reading.ping.Sends localClient sent ∧
      localClient.perform (Reading.ping.exchange localClient) (.response errorPage) =
        (some sent, .error f) ∧ ∀ e, f ≠ .reported e := by
  have hread : (Json.readBytes errorPage.body).toOption = none := by decide +kernel
  have hcarries : ∀ type data, ¬ errorPage.Carries type data := by
    rintro type data ⟨v, hv, -⟩
    cases hread.symm.trans (toOption_eq_some.2 hv)
  have htext : errorPage.text =
      .error (Charset.characterless "UTF-16 stream does not start with BOM") := rfl
  have hescapes : (Answer.response errorPage).Escapes _ :=
    ⟨errorPage, _, rfl, ⟨hcarries, fun hs => absurd hs (by decide)⟩, htext, rfl⟩
  let sent : SentRequest :=
    { method := .get, body := none
      url := { localClient.base with path := "/api/v2/server/ping" } }
  have hsends : Reading.ping.Sends localClient sent :=
    ⟨_, _, rfl, toOption_eq_some.1 (by decide +kernel)⟩
  obtain ⟨path, hperform⟩ := Reading.perform_eq hsends (.response errorPage)
  refine ⟨sent, _, hsends, ?_, hescapes.ne_reported⟩
  rw [hperform, Client.read_of_escapes hescapes]

end RemoteModel
