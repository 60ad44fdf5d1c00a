import RemoteModel.Proofs.Command.Reading
import RemoteModel.Proofs.Json.WrittenValue
import RemoteModel.Proofs.Notification.Frames

/-!
# What an incremental update tells a subscriber of the first protocol

The data of the update are a text, or the report of an executed command.

**Main statement.** `react_execution`: a listener that takes its calls gets exactly one for the
frame, the incremental update when the data are a text or are read as a report and an error that
names the undecodable part otherwise, unless the reading stops at the command that was executed.

The exception is exact (`StuckReport`): then the listener gets no call and the reading fails.
-/

namespace RemoteModel

namespace Execution

/-- The report of a command that is stuck. -/
def StuckReport (v : Json) : Prop :=
  isExecution v = true ∧ ∃ source, v.get? "source" = some source ∧ Command.Stuck source

theorem exists_source {v : Json} (h : isExecution v = true) :
    ∃ source, v.get? "source" = some source := by
  simp only [isExecution, Bool.and_eq_true] at h
  exact Option.isSome_iff_exists.1 h.1.2

theorem ofWire_eq {v source : Json} (h : isExecution v = true)
    (hsource : v.get? "source" = some source) :
    ofWire v = Command.ofWire source >>= fun c =>
      match check c v with
      | .ok e => .ok e
      | .bad _ => .error (.reported (.undecodable "CommandExecutionResult" v)) := by
  rw [ofWire, h, hsource]
  rfl

/-- How the reading of a report ends: an error that is reported names the report itself, or the
part of its command that is none. -/
theorem ofWire_cases (v : Json) :
    (∃ e, ofWire v = .ok e) ∨
      (∃ expected payload, ofWire v = .error (.reported (.undecodable expected payload))) ∨
        StuckReport v := by
  by_cases h : isExecution v = true
  · obtain ⟨source, hsource⟩ := exists_source h
    rw [ofWire_eq h hsource]
    have hsettles := Command.settles_ofWire source
    cases hc : Command.ofWire source with
    | ok c =>
      cases hcheck : check c v with
      | ok e =>
        refine .inl ⟨e, ?_⟩
        simp only [bind, Except.bind, hcheck]
      | bad issues =>
        refine .inr (.inl ⟨"CommandExecutionResult", v, ?_⟩)
        simp only [bind, Except.bind, hcheck]
    | error failure =>
      rw [hc] at hsettles
      cases hsettles with
      | refused part => exact .inr (.inl ⟨"Command", part, rfl⟩)
      | stopped hstuck => exact .inr (.inr ⟨h, source, hsource, hstuck⟩)
  · refine .inr (.inl ⟨"CommandExecutionResult", v, ?_⟩)
    simp [ofWire, h]

theorem ofWire_of_stuck {v : Json} (h : StuckReport v) : ofWire v = .error .wrongType := by
  obtain ⟨hexecution, source, hsource, hstuck⟩ := h
  rw [ofWire_eq hexecution hsource, Command.ofWire_of_stuck hstuck]
  rfl

end Execution

namespace Event

theorem route_incrementalUpdate (protocol : Protocol) (data : Json) :
    route protocol ⟨"incrementalUpdate", data⟩ =
      (incremental protocol data).map fun r => (.incrementalUpdate, r) := rfl

theorem incremental_of_not_text {data : Json} (h : ∀ text, data ≠ .str text) :
    incremental .v1 data = (Execution.ofWire data).map Report.executed := by
  cases data with
  | str text => exact absurd rfl (h text)
  | _ => rfl

theorem frameCall_of_stuck {frame : Frame} {data : Json} (modeluri : String)
    (h : frame.Carries "incrementalUpdate" data) (hstuck : Execution.StuckReport data) :
    frameCall .v1 modeluri frame = .error .wrongType := by
  have hdata : ∀ text, data ≠ .str text := by
    rintro text rfl
    cases hstuck.1
  have hroute : route .v1 ⟨"incrementalUpdate", data⟩ = .error .wrongType := by
    rw [route_incrementalUpdate, incremental_of_not_text hdata, Execution.ofWire_of_stuck hstuck]
    rfl
  simp only [frameCall, Envelope.ofFrame_of_carries h, hroute]

end Event

namespace Subscription

/-- What an incremental update of the first protocol tells: the callback, the type of the
notification and what it reports. -/
inductive TellsExecution (data : Json) : Callback → String → Report → Prop
  | text {text : String} (h : data = .str text) :
      TellsExecution data .incrementalUpdate "incrementalUpdate" (.executedText text)
  | executed {e : Execution} (h : Execution.ofWire data = .ok e) :
      TellsExecution data .incrementalUpdate "incrementalUpdate" (.executed e)
  | undecodable {expected : String} {payload : Json} (htext : ∀ text, data ≠ .str text)
      (h : Execution.ofWire data = .error (.reported (.undecodable expected payload))) :
      TellsExecution data .failed "error" (.undecodable expected payload)

theorem react_of_stuck {listener : Listener} {frame : Frame} {data : Json} (modeluri : String)
    (hv1 : listener.protocol = some .v1) (h : frame.Carries "incrementalUpdate" data)
    (hstuck : Execution.StuckReport data) :
    listener.react modeluri (.arrived frame) = ([], some .wrongType) := by
  simp only [Listener.react, hv1, Event.call, Event.frameCall_of_stuck modeluri h hstuck]

/-- **Every incremental update makes one call**, unless the command that was executed is stuck. -/
theorem react_execution (modeluri : String) (listener : Listener) (frame : Frame) (data : Json)
    (hv1 : listener.protocol = some .v1) (h : frame.Carries "incrementalUpdate" data) :
    (¬ Execution.StuckReport data →
      ∃ callback type report, TellsExecution data callback type report ∧
        listener.react modeluri (.arrived frame) =
          ([.typed ⟨callback, ⟨modeluri, type, report⟩⟩], listener.fails (.arrived frame))) ∧
    (Execution.StuckReport data →
      listener.react modeluri (.arrived frame) = ([], some .wrongType)) := by
  have hreact : ∀ call, Event.frameCall .v1 modeluri frame = .ok call →
      listener.react modeluri (.arrived frame) =
        ([.typed call], listener.fails (.arrived frame)) := by
    intro call hcall
    simp only [Listener.react, hv1, Event.call, hcall]
  constructor
  · intro hstuck
    by_cases htext : ∃ text, data = .str text
    · obtain ⟨text, rfl⟩ := htext
      exact ⟨_, _, _, .text rfl, hreact _ (Event.frameCall_of_route modeluri h rfl)⟩
    · have hdata : ∀ text, data ≠ .str text := fun text heq => htext ⟨text, heq⟩
      have hroute := Event.route_incrementalUpdate .v1 data
      rw [Event.incremental_of_not_text hdata] at hroute
      obtain ⟨e, he⟩ | ⟨expected, payload, herror⟩ | hreport := Execution.ofWire_cases data
      · rw [he] at hroute
        exact ⟨_, _, _, .executed he, hreact _ (Event.frameCall_of_route modeluri h hroute)⟩
      · rw [herror] at hroute
        exact ⟨_, _, _, .undecodable hdata herror,
          hreact _ (Event.frameCall_of_refusal modeluri h hroute)⟩
      · exact absurd hreport hstuck
  · exact react_of_stuck modeluri hv1 h

/-! ## Frames of updates -/

/-- The report of a command without changes. -/
def reportOf (source : Json) : Json :=
  .obj [("eClass", .str Command.executionUri), ("type", .str "execute"), ("source", source),
    ("changeDescription", .obj [("eClass", .str Change.descriptionUri)])]

/-- A compound command with some children. -/
def compoundOf (children : Json) : Json :=
  .obj [("eClass", .str Command.compoundUri), ("type", .str Command.compoundTag),
    ("commands", children)]

/-- The frame of an incremental update with some data. -/
def frameOf (data : Json) : Frame :=
  .text (Json.render Json.compact (.obj [("type", .str "incrementalUpdate"), ("data", data)]))

theorem carries_frameOf {data : Json} (hw : data.WellFormed) (hp : data.Portable) :
    (frameOf data).Carries "incrementalUpdate" data := by
  have hwire : (Json.obj [("type", .str "incrementalUpdate"), ("data", data)]).WellFormed := by
    simp [Json.WellFormed, Json.WellFormedMembers, Entries.Distinct, Entries.names, hw]
  have hportable : (Json.obj [("type", .str "incrementalUpdate"), ("data", data)]).Portable := by
    simp [Json.Portable, Json.PortableMembers, hp]
  exact ⟨_, Json.read_render Json.Layout.compact_isPlain hwire hportable, rfl, rfl⟩

/-- A report is well-formed, and it can be written, if this holds of its command. -/
theorem reportOf_isPortable {source : Json} (hw : source.WellFormed) (hp : source.Portable) :
    (reportOf source).WellFormed ∧ (reportOf source).Portable := by
  constructor
  · simp [reportOf, Json.WellFormed, Json.WellFormedMembers, Entries.Distinct, Entries.names, hw]
  · simp [reportOf, Json.Portable, Json.PortableMembers, hp]

theorem compoundOf_isPortable {c : Json} (hw : c.WellFormed) (hp : c.Portable) :
    (compoundOf c).WellFormed ∧ (compoundOf c).Portable := by
  constructor
  · simp [compoundOf, Json.WellFormed, Json.WellFormedMembers, Entries.Distinct, Entries.names, hw]
  · simp [compoundOf, Json.Portable, Json.PortableMembers, hp]

/-- A compound command inside another one that holds a text is told as an error. -/
theorem react_execution_refused :
    let data := reportOf (compoundOf (.arr [compoundOf (.str "no")]))
    (frameOf data).Carries "incrementalUpdate" data ∧ ¬ Execution.StuckReport data ∧
      ∃ callback type report, TellsExecution data callback type report ∧
        ({ protocol := some .v1 } : Listener).react "m" (.arrived (frameOf data)) =
          ([.typed ⟨callback, ⟨"m", type, report⟩⟩], none) := by
  intro data
  have hinner : (compoundOf (.str "no")).WellFormed ∧ (compoundOf (.str "no")).Portable :=
    compoundOf_isPortable trivial trivial
  have houter := compoundOf_isPortable (c := .arr [compoundOf (.str "no")])
    ⟨hinner.1, trivial⟩ ⟨hinner.2, trivial⟩
  have hreport := reportOf_isPortable houter.1 houter.2
  have hcarries := carries_frameOf hreport.1 hreport.2
  have hstuck : ¬ Execution.StuckReport data := by
    intro h
    have hother : (match Execution.ofWire data with
      | .error .wrongType => true
      | _ => false) = false := by decide +kernel
    rw [Execution.ofWire_of_stuck h] at hother
    cases hother
  exact ⟨hcarries, hstuck,
    (react_execution "m" { protocol := some .v1 } (frameOf data) data rfl hcarries).1 hstuck⟩

/-- A compound command with `null` for its children is not told at all. -/
theorem stuck_execution_is_dropped :
    let data := reportOf (compoundOf .null)
    (frameOf data).Carries "incrementalUpdate" data ∧
      ({ protocol := some .v1 } : Listener).react "m" (.arrived (frameOf data)) =
        ([], some .wrongType) := by
  intro data
  have hcommand := compoundOf_isPortable (c := .null) trivial trivial
  have hreport := reportOf_isPortable hcommand.1 hcommand.2
  have hcarries := carries_frameOf hreport.1 hreport.2
  have hcompound : Command.IsCompound (compoundOf .null) := by decide +kernel
  have hstuck : Execution.StuckReport data :=
    ⟨by decide +kernel, compoundOf .null, rfl, .here hcompound rfl rfl⟩
  exact ⟨hcarries, react_of_stuck "m" rfl hcarries hstuck⟩

end Subscription

end RemoteModel
