import RemoteModel.Proofs.Json.WrittenValue
import RemoteModel.Proofs.Patch.Wire
import RemoteModel.Subscription.Channel

/-!
# What a frame tells a subscriber

Frames come from outside and may hold anything. `Tells` says, without going through the reading
of envelopes, what a subscriber of the second protocol is told about a frame: by what it holds
as JSON, by its type and by its data.

**Main statement.** `react_frame`: every frame makes exactly one call of a listener that takes
it, no failure comes of it, and the callback is the one that `Tells` names. In particular no frame
is dropped: one that cannot be decoded is told as an error.

**Surrogates.** Texts are made of characters here, and a lone surrogate is none. What a callback is
told is therefore said of frames without lone surrogates (`Frame.isPaired`).

**JSON** is what `Json.read` takes. That is a little more than JSON, for the special numbers, and a
little less, for integers of too many digits (`react_frame_amiss`).

The proof has two halves. Each case of `Tells` is the call that is made (`frameCall_of_tells`),
and every frame falls under some case (`exists_tells`).
-/

namespace RemoteModel

/-! ## What frames hold -/

/-- What a frame holds, read as JSON. -/
def Frame.value : Frame → Except Json.ReadFault Json
  | .text s => Json.read s
  | .bytes bs => Json.readBytes bs

/-- A frame that cannot be read, as it is shown. -/
def Frame.shown : Frame → Json
  | .text s => .str s
  | .bytes bs => .str (Text.Utf8.shown bs)

/-- A frame holds an object with a type and data; data that are missing count as `null`. -/
def Frame.Carries (frame : Frame) (type : String) (data : Json) : Prop :=
  ∃ v, frame.value = .ok v ∧ v.get? "type" = some (.str type) ∧ (v.get? "data").getD .null = data

/-- No lone surrogate is in a frame, neither escaped nor among its bytes. -/
def Frame.isPaired : Frame → Bool
  | .text s => Json.Reader.isPaired s.toList
  | .bytes bs => (Json.Reader.textOf? bs).all fun cs =>
      cs.all Option.isSome && Json.Reader.isPaired (Text.Utf8.filled cs)

namespace MessageKind

/-- The types of messages that are not passed on as unknown. -/
def interpreted : List String :=
  ["dirtyState", "success", "keepAlive", "error", "incrementalUpdate", "fullUpdate",
    "validationResult"]

theorem name_ofType {type : String} (h : ofType type ≠ unknown) : (ofType type).name = type := by
  unfold ofType at h ⊢
  cases hf : all.find? fun k => k.name = type with
  | none => simp [hf] at h
  | some k => simpa using List.find?_some hf

end MessageKind

/-! ## The cases -/

/-- The report that a payload does not have the expected shape. -/
def Report.undecodable (expected : String) (payload : Json) : Report :=
  .failed (.failure (.reported (.undecodable expected payload)))

/-- What a subscriber of the second protocol is told about a frame: the callback, the type of
the notification and what it reports. -/
inductive Tells (frame : Frame) : Callback → String → Report → Prop
  | unreadable {fault} (hread : frame.value = .error fault) :
      Tells frame .failed "error" (.undecodable "ModelServerMessage" frame.shown)
  | noEnvelope {v} (hread : frame.value = .ok v)
      (htype : ∀ type, v.get? "type" ≠ some (.str type)) :
      Tells frame .failed "error" (.undecodable "ModelServerMessage" v)
  | dirty {data} (h : frame.Carries "dirtyState" data) :
      Tells frame .dirtyState "dirtyState" (.dirty (data = .bool true))
  | success {data} (h : frame.Carries "success" data) : Tells frame .success "success" .plain
  | keepAlive {data} (h : frame.Carries "keepAlive" data) : Tells frame .success "keepAlive" .plain
  | error {data} (h : frame.Carries "error" data) :
      Tells frame .failed "error" (.failed (.value (.str (Narrow.text data))))
  /-- Every item of the data is read as an operation. -/
  | patched {items os} (h : frame.Carries "incrementalUpdate" (.arr items))
      (hreads : Patch.Reads items os) :
      Tells frame .incrementalUpdate "incrementalUpdate" (.patched os)
  | noPatch {data} (h : frame.Carries "incrementalUpdate" data)
      (hpatch : Patch.Operation.isPatch data = false) :
      Tells frame .failed "error" (.undecodable "Operation[]" data)
  /-- An item that looks like an operation is none; it is the first such one. -/
  | noOperation {before v after os e}
      (h : frame.Carries "incrementalUpdate" (.arr (before ++ v :: after)))
      (hpatch : Patch.Operation.isPatch (.arr (before ++ v :: after)) = true)
      (hreads : Patch.Reads before os) (hv : Patch.Operation.ofWire v = .error e) :
      Tells frame .failed "error" (.undecodable "Operation" v)
  | full {data} (h : frame.Carries "fullUpdate" data) (hdata : data.isString ∨ data.isObject) :
      Tells frame .fullUpdate "fullUpdate" (.full data)
  | noModel {data} (h : frame.Carries "fullUpdate" data)
      (hdata : ¬ (data.isString ∨ data.isObject)) :
      Tells frame .failed "error" (.undecodable "object" data)
  | validated {data d} (h : frame.Carries "validationResult" data)
      (hd : Diagnostic.ofWire data = .ok d) :
      Tells frame .validation "validationResult" (.validated d)
  | noDiagnostic {data e} (h : frame.Carries "validationResult" data)
      (hd : Diagnostic.ofWire data = .error e) :
      Tells frame .failed "error" (.undecodable "Diagnostic" data)
  | unknown {type data} (h : frame.Carries type data) (htype : type ∉ MessageKind.interpreted) :
      Tells frame .unknown type (.unknown data)

/-! ## Reading envelopes -/

theorem Envelope.ofJson_of_type {v : Json} {type : String} {data : Json}
    (htype : v.get? "type" = some (.str type)) (hdata : (v.get? "data").getD .null = data) :
    ofJson v = .ok ⟨type, data⟩ := by
  unfold ofJson Json.text?
  rw [htype, ← hdata]
  cases v.get? "data" <;> rfl

theorem Envelope.ofJson_of_noType {v : Json} (htype : ∀ type, v.get? "type" ≠ some (.str type)) :
    ofJson v = .error (.undecodable "ModelServerMessage" v) := by
  have htext : v.text? "type" = none := by
    unfold Json.text?
    cases hget : v.get? "type" with
    | none => rfl
    | some w =>
      cases w with
      | str s => exact absurd hget (htype s)
      | _ => rfl
  simp only [ofJson, htext]
  rfl

theorem Envelope.ofFrame_of_carries {frame : Frame} {type : String} {data : Json}
    (h : frame.Carries type data) : Envelope.ofFrame frame = .ok ⟨type, data⟩ := by
  obtain ⟨v, hread, htype, hdata⟩ := h
  have hv := Envelope.ofJson_of_type htype hdata
  cases frame <;> simp only [Frame.value] at hread <;> simp only [Envelope.ofFrame, hread, hv]

theorem Envelope.ofFrame_of_unreadable {frame : Frame} {fault : Json.ReadFault}
    (h : frame.value = .error fault) :
    Envelope.ofFrame frame = .error (.undecodable "ModelServerMessage" frame.shown) := by
  cases frame <;> simp only [Frame.value] at h <;> simp only [Envelope.ofFrame, h] <;> rfl

theorem Envelope.ofFrame_of_noEnvelope {frame : Frame} {v : Json} (hread : frame.value = .ok v)
    (htype : ∀ type, v.get? "type" ≠ some (.str type)) :
    Envelope.ofFrame frame = .error (.undecodable "ModelServerMessage" v) := by
  have hv := Envelope.ofJson_of_noType htype
  cases frame <;> simp only [Frame.value] at hread <;> simp only [Envelope.ofFrame, hread, hv]

/-- A frame cannot be read, holds no envelope, or carries a type and data. -/
theorem Frame.cases (frame : Frame) :
    (∃ fault, frame.value = .error fault) ∨
      (∃ v, frame.value = .ok v ∧ ∀ type, v.get? "type" ≠ some (.str type)) ∨
        ∃ type data, frame.Carries type data := by
  cases hread : frame.value with
  | error fault => exact .inl ⟨fault, rfl⟩
  | ok v =>
    by_cases htype : ∃ type, v.get? "type" = some (.str type)
    · obtain ⟨type, htype⟩ := htype
      exact .inr (.inr ⟨type, _, v, hread, htype, rfl⟩)
    · exact .inr (.inl ⟨v, rfl, fun type h => htype ⟨type, h⟩⟩)

theorem Diagnostic.ofWire_eq_error {v : Json} {e : Error} (h : ofWire v = .error e) :
    e = .undecodable "Diagnostic" v := by
  simp only [ofWire, Narrow.checked] at h
  split at h
  · exact Checked.orUndecodable_eq_error h
  · exact (Except.error.inj h).symm

/-! ## Each case is the call -/

namespace Event

theorem frameCall_of_route {frame : Frame} {type : String} {data : Json} {callback : Callback}
    {report : Report} {protocol : Protocol} (modeluri : String) (h : frame.Carries type data)
    (hroute : route protocol ⟨type, data⟩ = .ok (callback, report)) :
    frameCall protocol modeluri frame = .ok ⟨callback, ⟨modeluri, type, report⟩⟩ := by
  simp only [frameCall, Envelope.ofFrame_of_carries h, hroute]

theorem frameCall_of_refusal {frame : Frame} {type : String} {data : Json} {e : Error}
    {protocol : Protocol} (modeluri : String) (h : frame.Carries type data)
    (hroute : route protocol ⟨type, data⟩ = .error (.reported e)) :
    frameCall protocol modeluri frame =
      .ok ⟨.failed, ⟨modeluri, "error", .failed (.failure (.reported e))⟩⟩ := by
  simp only [frameCall, Envelope.ofFrame_of_carries h, hroute]
  rfl

theorem incremental_of_reads {items : List Json} {os : List Patch.Operation}
    (h : Patch.Reads items os) : incremental .v2 (.arr items) = .ok (.patched os) := by
  simp only [incremental, Patch.isPatch_of_reads h, if_true, Patch.operations_arr,
    mapM_eq_ok.2 h]
  rfl

theorem incremental_of_not_isPatch {data : Json} (h : Patch.Operation.isPatch data = false) :
    incremental .v2 data = .error (.reported (.undecodable "Operation[]" data)) := by
  simp [incremental, h]

theorem incremental_of_refused {items : List Json} {e : Error}
    (hpatch : Patch.Operation.isPatch (.arr items) = true)
    (h : items.mapM Patch.Operation.ofWire = .error e) :
    incremental .v2 (.arr items) = .error (.reported e) := by
  simp only [incremental, hpatch, if_true, Patch.operations_arr, h]
  rfl

theorem fullUpdate_of_model {data : Json} (h : data.isString ∨ data.isObject) :
    fullUpdate data = .ok (.full data) := by
  cases data <;> simp_all [fullUpdate, Json.isString, Json.isObject]

theorem fullUpdate_of_no_model {data : Json} (h : ¬ (data.isString ∨ data.isObject)) :
    fullUpdate data = .error (.reported (.undecodable "object" data)) := by
  cases data <;> simp_all [fullUpdate, Json.isString, Json.isObject]

theorem truth_eq_decide (data : Json) : Narrow.truth data = decide (data = .bool true) := by
  cases data with
  | bool b => cases b <;> rfl
  | _ => rfl

theorem route_validationResult (protocol : Protocol) (data : Json) :
    route protocol ⟨"validationResult", data⟩ =
      match Diagnostic.ofWire data with
      | .ok d => .ok (.validation, .validated d)
      | .error e => .error (.reported e) := rfl

/-- A type that is not interpreted is of a kind that is passed on. -/
theorem route_of_not_interpreted {type : String} {data : Json} {protocol : Protocol}
    (h : type ∉ MessageKind.interpreted) :
    route protocol ⟨type, data⟩ = .ok (.unknown, .unknown data) := by
  have hname := @MessageKind.name_ofType type
  unfold route Envelope.kind
  -- A kind of its own would put the type on the list by its name.
  cases hk : MessageKind.ofType type <;> rw [hk] at hname <;> simp only <;>
    exact absurd (hname (by decide) ▸ by decide) h

/-- Each case names the call that is made. -/
theorem frameCall_of_tells {frame : Frame} {callback : Callback} {type : String}
    {report : Report} (modeluri : String) (h : Tells frame callback type report) :
    frameCall .v2 modeluri frame = .ok ⟨callback, ⟨modeluri, type, report⟩⟩ := by
  cases h with
  | unreadable hread => simp only [frameCall, Envelope.ofFrame_of_unreadable hread]; rfl
  | noEnvelope hread htype =>
    simp only [frameCall, Envelope.ofFrame_of_noEnvelope hread htype]; rfl
  | dirty h =>
    refine frameCall_of_route modeluri h ?_
    show Except.ok (Callback.dirtyState, Report.dirty (Narrow.truth _)) = _
    rw [truth_eq_decide]
  | success h => exact frameCall_of_route modeluri h rfl
  | keepAlive h => exact frameCall_of_route modeluri h rfl
  | error h => exact frameCall_of_route modeluri h rfl
  | patched h hreads =>
    refine frameCall_of_route modeluri h ?_
    show (incremental .v2 _).map _ = _
    rw [incremental_of_reads hreads]
    rfl
  | noPatch h hpatch =>
    refine frameCall_of_refusal modeluri h ?_
    show (incremental .v2 _).map _ = _
    rw [incremental_of_not_isPatch hpatch]
    rfl
  | noOperation h hpatch hreads hv =>
    refine frameCall_of_refusal modeluri h ?_
    show (incremental .v2 _).map _ = _
    rw [incremental_of_refused hpatch (mapM_append hreads hv),
      Patch.Operation.ofWire_eq_error hv]
    rfl
  | full h hdata =>
    refine frameCall_of_route modeluri h ?_
    show (fullUpdate _).map _ = _
    rw [fullUpdate_of_model hdata]
    rfl
  | noModel h hdata =>
    refine frameCall_of_refusal modeluri h ?_
    show (fullUpdate _).map _ = _
    rw [fullUpdate_of_no_model hdata]
    rfl
  | validated h hd =>
    refine frameCall_of_route modeluri h ?_
    rw [route_validationResult, hd]
  | noDiagnostic h hd =>
    refine frameCall_of_refusal modeluri h ?_
    rw [route_validationResult, hd, Diagnostic.ofWire_eq_error hd]
  | unknown h htype => exact frameCall_of_route modeluri h (route_of_not_interpreted htype)

/-! ## Some case applies -/

theorem exists_tells_incremental {frame : Frame} {data : Json}
    (h : frame.Carries "incrementalUpdate" data) :
    ∃ callback type report, Tells frame callback type report := by
  cases hpatch : Patch.Operation.isPatch data with
  | false => exact ⟨_, _, _, .noPatch h hpatch⟩
  | true =>
    cases data with
    | arr items =>
      cases hm : items.mapM Patch.Operation.ofWire with
      | ok os => exact ⟨_, _, _, .patched h (mapM_eq_ok.1 hm)⟩
      | error e =>
        obtain ⟨before, v, after, os, rfl, hreads, hv⟩ := mapM_eq_error hm
        exact ⟨_, _, _, .noOperation h hpatch hreads hv⟩
    | _ => simp [Patch.Operation.isPatch] at hpatch

theorem exists_tells (frame : Frame) :
    ∃ callback type report, Tells frame callback type report := by
  obtain ⟨fault, hread⟩ | ⟨v, hread, htype⟩ | ⟨type, data, h⟩ := frame.cases
  · exact ⟨_, _, _, .unreadable hread⟩
  · exact ⟨_, _, _, .noEnvelope hread htype⟩
  · by_cases htype : type ∈ MessageKind.interpreted
    · simp only [MessageKind.interpreted, List.mem_cons, List.not_mem_nil, or_false] at htype
      rcases htype with rfl | rfl | rfl | rfl | rfl | rfl | rfl
      · exact ⟨_, _, _, .dirty h⟩
      · exact ⟨_, _, _, .success h⟩
      · exact ⟨_, _, _, .keepAlive h⟩
      · exact ⟨_, _, _, .error h⟩
      · exact exists_tells_incremental h
      · by_cases hdata : data.isString ∨ data.isObject
        · exact ⟨_, _, _, .full h hdata⟩
        · exact ⟨_, _, _, .noModel h hdata⟩
      · cases hd : Diagnostic.ofWire data with
        | ok d => exact ⟨_, _, _, .validated h hd⟩
        | error e => exact ⟨_, _, _, .noDiagnostic h hd⟩
    · exact ⟨_, _, _, .unknown h htype⟩

end Event

/-! ## The call of a listener -/

namespace Subscription

/-- **Every frame makes one call.** A listener of the second protocol that takes its calls gets
exactly one for a frame, nothing fails, and the callback is the one that `Tells` names. Without
lone surrogates the call is the one that `Tells` names; when it brings a patch, the patch does to
any document what the data of the frame do. -/
theorem react_frame (modeluri : String) (frame : Frame) :
    ∃ call : Call,
      ({ protocol := some .v2 } : Listener).react modeluri (.arrived frame) =
        ([.typed call], none) ∧
      (∀ callback, (∃ type report, Tells frame callback type report) ↔ call.callback = callback) ∧
      (frame.isPaired = true →
        (∀ callback type report,
          Tells frame callback type report ↔ call = ⟨callback, ⟨modeluri, type, report⟩⟩) ∧
        (call.callback = .incrementalUpdate →
          ∃ items, frame.Carries "incrementalUpdate" (.arr items) ∧
            ∀ document, call.notification.patchModel? document =
              some (Patch.applyWire document items))) := by
  obtain ⟨callback, type, report, htells⟩ := Event.exists_tells frame
  have hcall := Event.frameCall_of_tells modeluri htells
  have hiff : ∀ callback' type' report', Tells frame callback' type' report' ↔
      (⟨callback, ⟨modeluri, type, report⟩⟩ : Call) =
        ⟨callback', ⟨modeluri, type', report'⟩⟩ := by
    intro callback' type' report'
    constructor
    · intro htells'
      have hcall' := Event.frameCall_of_tells modeluri htells'
      rw [hcall, Except.ok.injEq] at hcall'
      exact hcall'
    · intro heq
      cases heq
      exact htells
  refine ⟨⟨callback, ⟨modeluri, type, report⟩⟩, ?_, fun callback' => ⟨?_, ?_⟩,
    fun _ => ⟨hiff, fun hcallback => ?_⟩⟩
  · simp only [Listener.react, Event.call, hcall]
  · rintro ⟨type', report', htells'⟩
    exact congrArg Call.callback ((hiff _ _ _).1 htells')
  · rintro rfl
    exact ⟨type, report, htells⟩
  · cases htells with
    | patched h hreads =>
      exact ⟨_, h, fun document => by
        rw [Patch.applyWire_eq_apply hreads]
        rfl⟩
    | _ => cases hcallback

/-- A patch that removes one member. -/
def removal : Frame :=
  .text ("\x7b\"type\": \"incrementalUpdate\", " ++
    "\"data\": [\x7b\"op\": \"remove\", \"path\": \"/a\"\x7d]\x7d")

/-- A patch repeats its operations on any document. -/
theorem react_frame_patched :
    removal.isPaired = true ∧
      ∃ call : Call,
        ({ protocol := some .v2 } : Listener).react "m" (.arrived removal) = ([.typed call], none) ∧
        call.callback = .incrementalUpdate ∧
        ∃ items, removal.Carries "incrementalUpdate" (.arr items) ∧
          ∀ document, call.notification.patchModel? document =
            some (Patch.applyWire document items) := by
  have hpaired : removal.isPaired = true := by decide +kernel
  let item : Json := .obj [("op", .str "remove"), ("path", .str "/a")]
  have hread : removal.value =
      .ok (.obj [("type", .str "incrementalUpdate"), ("data", .arr [item])]) :=
    toOption_eq_some.1 (by decide +kernel)
  have hcarries : removal.Carries "incrementalUpdate" (.arr [item]) := ⟨_, hread, rfl, rfl⟩
  obtain ⟨os, hos⟩ : ∃ os, [item].mapM Patch.Operation.ofWire = .ok os := ⟨_, rfl⟩
  obtain ⟨call, hreact, hcallback, hpaired'⟩ := react_frame "m" removal
  have hincremental : call.callback = .incrementalUpdate :=
    (hcallback _).1 ⟨_, _, .patched hcarries (mapM_eq_ok.1 hos)⟩
  exact ⟨hpaired, call, hreact, hincremental, (hpaired' hpaired).2 hincremental⟩

/-- An integer of too many digits is told as an error, and a number that JSON does not have is
taken. -/
theorem react_frame_amiss :
    let listener : Listener := { protocol := some .v2 }
    let long : Frame := .text (Envelope.toText ⟨"success", .int Text.numeralBound⟩)
    let special : Frame := .text "\x7b\"type\": \"success\", \"data\": NaN\x7d"
    listener.react "m" (.arrived long) =
        ([.typed ⟨.failed, ⟨"m", "error", .undecodable "ModelServerMessage" long.shown⟩⟩], none) ∧
      listener.react "m" (.arrived special) =
        ([.typed ⟨.success, ⟨"m", "success", .plain⟩⟩], none) := by
  intro listener long special
  have hreact : ∀ {frame callback type report}, Tells frame callback type report →
      listener.react "m" (.arrived frame) = ([.typed ⟨callback, ⟨"m", type, report⟩⟩], none) := by
    intro frame callback type report htells
    simp only [listener, Listener.react, Event.call, Event.frameCall_of_tells "m" htells]
  have hlong : Text.numeralBound ≤ (Text.numeralBound : Int).natAbs :=
    Nat.le_of_eq (Int.natAbs_natCast _).symm
  have hspecial : special.value = .ok (.obj [("type", .str "success"), ("data", .float .nan)]) :=
    toOption_eq_some.1 (by decide +kernel)
  exact ⟨hreact (.unreadable (Json.read_of_le hlong "type" "success" "data")),
    hreact (.success ⟨_, hspecial, rfl, rfl⟩)⟩

end Subscription

end RemoteModel
