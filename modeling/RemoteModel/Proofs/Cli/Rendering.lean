import RemoteModel.Cli.Run
import RemoteModel.Proofs.Client.Readings
import RemoteModel.Proofs.Except
import RemoteModel.Proofs.Json.OneLine

/-!
# How errors of the library reach the caller

A command reads its files and calls the library; a job says besides how the outcome is reported.
`Order.outcome` is what the library gives alone, without any report, so it tells which error is
raised while a command runs.

**Main statement.** `error_rendered`: where an error is raised, the command prints the one line of
the error and ends with its exit code, except where the file of an edit is tagged as a command and is
none (`Misread`). That file is read before the errors of the call are taken care of, so its error
leaves the command: nothing is printed, and there is no exit code.
-/

namespace RemoteModel.Cli

/-! ## The outcome of the library -/

namespace Context

variable {α : Type} (cx : Context) (world : World)

/-- The outcome of a call of a new client. -/
def outcome (exchange : Client → Except Failure (Exchange α)) : Except Failure α :=
  (Client.ofConfig cx.config none none none).bind fun client =>
    (exchange client).bind fun x =>
      match client.start x with
      | .over result => result
      | .waiting request finish => finish (world.answer request)

/-- The outcome of a call, of which only the failure counts. -/
def settled (exchange : Client → Except Failure (Exchange α)) : Except Failure Unit :=
  (cx.outcome world exchange).map fun _ => ()

end Context

/-- The payload of a file. -/
def World.payload (world : World) (file : String) : Except Failure Json :=
  readPayload file (world.files.look file)

namespace Order

/-- What the library makes of a command: its failure, if there is one. A subscription is watched,
and not called. -/
def outcome (cx : Context) (world : World) : Order → Except Failure Unit
  | listModels format => cx.settled world fun c => .ok (c.getAll (selector format))
  | modelUris => cx.settled world fun _ => .ok Client.modelUris
  | getModel modeluri format => cx.settled world fun c => .ok (c.get modeluri (selector format))
  | getElement modeluri (some id) none format =>
    cx.settled world fun c => .ok (c.elementById modeluri id (selector format))
  | getElement modeluri none (some name) format =>
    cx.settled world fun c => .ok (c.elementByName modeluri name (selector format))
  | getElement _ _ _ _ => .ok ()
  | createModel modeluri file format =>
    (world.payload file).bind fun model =>
      cx.settled world fun c => c.create modeluri model (selector format)
  | updateModel modeluri file format =>
    (world.payload file).bind fun model =>
      cx.settled world fun c => c.update modeluri model (selector format)
  | deleteModel modeluri => cx.settled world fun _ => .ok (Client.delete modeluri)
  | closeModel modeluri => cx.settled world fun _ => .ok (Client.close modeluri)
  | saveModel modeluri => cx.settled world fun _ => .ok (Client.save modeluri)
  | saveAll => cx.settled world fun _ => .ok Client.saveAll
  | editModel modeluri file =>
    (world.payload file).bind fun payload =>
      (editOf payload).bind fun edit => cx.settled world fun c => c.edit modeluri edit none
  | undo modeluri => cx.settled world fun c => .ok (c.undo modeluri)
  | redo modeluri => cx.settled world fun c => .ok (c.redo modeluri)
  | ping => cx.settled world fun _ => .ok Client.ping
  | configure workspace => cx.settled world fun _ => .ok (Client.configure workspace)
  | validate modeluri _ => cx.settled world fun _ => .ok (Client.validate modeluri)
  | constraints modeluri => cx.settled world fun _ => .ok (Client.validationConstraints modeluri)
  | typeSchema modeluri => cx.settled world fun _ => .ok (Client.typeSchema modeluri)
  | uiSchema name => cx.settled world fun _ => .ok (Client.uiSchema name)
  | subscribe .. => .ok ()

/-- The file of an edit is tagged as a command and is none. -/
def Misread (order : Order) (world : World) (e : Error) : Prop :=
  ∃ modeluri file payload, order = .editModel modeluri file ∧ world.payload file = .ok payload ∧
    Command.isCommand payload = true ∧ Command.ofWire payload = .error (.reported e)

end Order

/-! ## Jobs -/

/-- What is left behind when an error is rendered for programs. -/
def rendered (e : Error) : Report :=
  { lines := [compactLine (errorJson e)], ending := .exit e.exitCode }

section

variable {α : Type} {cx : Context} {world : World} {e : Error}

theorem run_call (cx : Context) (world : World)
    (exchange : Client → Except Failure (Exchange α)) (shown : α → Except Failure (List Screen.Line)) :
    ∃ requests, (cx.call exchange shown).run world =
      { requests := requests
        report := .ofResult cx.audience ((cx.outcome world exchange).bind shown) } := by
  unfold Context.call Context.andThen Context.outcome
  cases Client.ofConfig cx.config none none none with
  | error failure => exact ⟨[], rfl⟩
  | ok client =>
    dsimp only [Except.bind]
    cases exchange client with
    | error failure => exact ⟨[], rfl⟩
    | ok x =>
      dsimp only
      rcases client.start x with result | ⟨request, finish⟩
      · exact ⟨[], rfl⟩
      · exact ⟨[request], rfl⟩

/-- An error that a call raises is rendered. -/
theorem run_call_of_error (haudience : cx.audience = .programs)
    {exchange : Client → Except Failure (Exchange α)}
    (shown : α → Except Failure (List Screen.Line))
    (h : cx.settled world exchange = .error (.reported e)) :
    ∃ requests, (cx.call exchange shown).run world =
      { requests := requests, report := rendered e } := by
  obtain ⟨requests, hrun⟩ := run_call cx world exchange shown
  rw [map_eq_error.1 h, haudience] at hrun
  exact ⟨requests, hrun⟩

theorem payload_ne_reported (world : World) (file : String) (e : Error) :
    world.payload file ≠ .error (.reported e) := by
  intro h
  unfold World.payload readPayload at h
  dsimp only at h
  repeat' split at h
  all_goals cases h

/-- An edit is read from a payload unless that is tagged as a command and is none. -/
theorem editOf_eq_error {payload : Json} {failure : Failure} :
    editOf payload = .error failure ↔
      Command.isCommand payload = true ∧ Command.ofWire payload = .error failure := by
  unfold editOf
  split
  · next htag => simp [htag, map_eq_error]
  · next htag => simp [htag]

/-- What is done with the payload of a file is done once it is read. -/
theorem run_withPayload {file : String} {next : Json → Job} {onward : Json → Except Failure Unit}
    (h : (world.payload file).bind onward = .error (.reported e)) :
    ∃ payload, world.payload file = .ok payload ∧ onward payload = .error (.reported e) ∧
      (Context.withPayload file next).run world = (next payload).run world := by
  cases hpayload : world.payload file with
  | error failure =>
    rw [hpayload] at h
    cases h
    exact absurd hpayload (payload_ne_reported world file e)
  | ok payload =>
    rw [hpayload] at h
    refine ⟨payload, rfl, h, ?_⟩
    unfold World.payload at hpayload
    simp only [Context.withPayload, Job.run, hpayload]

/-- **An error that a command raises is rendered, unless its file is misread.** -/
theorem run_job_of_error (haudience : cx.audience = .programs) {order : Order}
    (h : order.outcome cx world = .error (.reported e)) :
    (¬ order.Misread world e ∧ ∃ requests, (order.job cx).run world =
        { requests := requests, report := rendered e }) ∨
      (order.Misread world e ∧ (order.job cx).run world =
        { report := { ending := .failed (.reported e) } }) := by
  cases order with
  | getElement modeluri id name format =>
    cases id <;> cases name <;> simp only [Order.outcome, Order.job, reduceCtorEq] at h ⊢
    all_goals exact .inl ⟨by simp [Order.Misread], run_call_of_error haudience _ h⟩
  | createModel modeluri file format =>
    simp only [Order.outcome, Order.job] at h ⊢
    obtain ⟨model, -, hcall, hrun⟩ := run_withPayload h
    rw [hrun]
    exact .inl ⟨by simp [Order.Misread], run_call_of_error haudience _ hcall⟩
  | updateModel modeluri file format =>
    simp only [Order.outcome, Order.job] at h ⊢
    obtain ⟨model, -, hcall, hrun⟩ := run_withPayload h
    rw [hrun]
    exact .inl ⟨by simp [Order.Misread], run_call_of_error haudience _ hcall⟩
  | editModel modeluri file =>
    simp only [Order.outcome, Order.job] at h ⊢
    obtain ⟨payload, hpayload, hcall, hrun⟩ := run_withPayload h
    rw [hrun]
    cases hedit : editOf payload with
    | error failure =>
      simp only [hedit, Except.bind, Except.error.injEq] at hcall
      subst hcall
      obtain ⟨htag, hcommand⟩ := editOf_eq_error.1 hedit
      exact .inr ⟨⟨modeluri, file, payload, rfl, hpayload, htag, hcommand⟩, rfl⟩
    | ok edit =>
      simp only [hedit, Except.bind] at hcall
      refine .inl ⟨?_, run_call_of_error haudience _ hcall⟩
      rintro ⟨_, _, other, horder, hother, htag, hcommand⟩
      obtain ⟨rfl, rfl⟩ := Order.editModel.inj horder
      rw [hpayload] at hother
      obtain ⟨rfl⟩ := hother
      rw [editOf_eq_error.2 ⟨htag, hcommand⟩] at hedit
      cases hedit
  | subscribe => simp only [Order.outcome, reduceCtorEq] at h
  | _ =>
    simp only [Order.outcome, Order.job] at h ⊢
    exact .inl ⟨by simp [Order.Misread], run_call_of_error haudience _ h⟩

end

/-! ## Command lines -/

/-- The log file of a configuration, if there is one, is opened in a world, which has it from then
on. -/
inductive OpensLog (world : World) : Option String → World → Prop
  | none : OpensLog world none world
  | some {name : String} (opened : world.logFault? name = none) :
      OpensLog world (some name) { world with files := world.files.create name }

/-- A command line asks for output for programs, its configuration is read, its log file is opened,
and its arguments ask for something. -/
inductive Starts (s : Setting) (world : World) (args : List String) :
    Context → World → Order → Prop
  | intro {settings : Settings} {branch : Branch} {rest : List String} {file : String}
      {config : Config} {inside : World} {order : Order}
      (root : parseRoot args = .ok (settings, branch, rest))
      (json : settings.json = true)
      (named : settings.file s = .ok file)
      (configured : configured s settings.baseUrl (world.files.look file) = .ok config)
      (log : OpensLog world config.logging.file inside)
      (parsed : parseBranch branch rest = .ok order) :
      Starts s world args ⟨config, .programs⟩ inside order

section

variable {s : Setting} {world inside : World} {args : List String} {cx : Context} {order : Order}
  {e : Error}

theorem Starts.audience (h : Starts s world args cx inside order) : cx.audience = .programs := by
  cases h
  rfl

theorem Starts.run_eq (h : Starts s world args cx inside order) :
    run s world args = (order.job cx).run inside := by
  cases h with
  | @intro settings branch rest file config _ _ root json named configured log horder =>
    have hlook : (job s args).run world =
        (withLog config.logging.file (branchJob ⟨config, .programs⟩ branch rest)).run world := by
      rw [job, root]
      simp only [named, Job.run, configured, json, isForPrograms, Bool.true_or, if_true]
    rw [run, hlook]
    cases hlog : config.logging.file with
    | none =>
      rw [hlog] at log
      cases log
      simp only [withLog, branchJob, horder]
    | some name =>
      rw [hlog] at log
      cases log with
      | some opened => simp only [withLog, Job.run, opened, branchJob, horder]

/-- **An error of the library is rendered**: the one line of the error is printed, and its exit code
ends the command. The exception is an edit whose file is tagged as a command and is none: its error
leaves the command, and nothing is printed. -/
theorem error_rendered (hstart : Starts s world args cx inside order)
    (h : order.outcome cx inside = .error (.reported e)) :
    (¬ order.Misread inside e ∧
        (run s world args).output = Json.render Json.compact (errorJson e) ++ "\n" ∧
        '\n' ∉ (Json.render Json.compact (errorJson e)).toList ∧
        (run s world args).report.ending = .exit e.exitCode) ∨
      (order.Misread inside e ∧ (run s world args).output = "" ∧
        (run s world args).report.ending = .failed (.reported e)) := by
  rw [hstart.run_eq]
  rcases run_job_of_error hstart.audience h with ⟨hread, requests, hrun⟩ | ⟨hmisread, hrun⟩
  · rw [hrun]
    refine .inl ⟨hread, ?_, Json.newline_not_mem_render Json.Layout.compact_isFlat _, rfl⟩
    simp [Run.output, rendered, printed, compactLine, Screen.Line.plain]
  · rw [hrun]
    exact .inr ⟨hmisread, rfl, rfl⟩

end

/-! ## Two edits -/

/-- A setting without an environment and accounts. -/
def bare : Setting :=
  { environment := [], accounts := fun _ => none, configFile := "config.json", terminal := false }

/-- A world in which one file holds a text and no answer arrives. -/
def holding (text : String) : World :=
  { files := [("edit.json", Text.Utf8.encode text.toList)], answer := fun _ => .timedOut }

/-- The command line of an edit. -/
def editing : List String := ["--json", "models", "edit", "a.coffee", "edit.json"]

theorem ofConfig_usual : Client.ofConfig {} none none none = .ok localClient :=
  Client.ofConfig_local none

theorem starts_editing {text : String} (h : (holding text).files.look "config.json" = .missing) :
    Starts bare (holding text) editing ⟨{}, .programs⟩ (holding text)
      (.editModel "a.coffee" "edit.json") := by
  refine @Starts.intro _ _ _ { json := true } (.group modelCommands)
    ["edit", "a.coffee", "edit.json"] "config.json" _ _ _ rfl rfl rfl ?_ .none rfl
  rw [h]
  rfl

/-- A file that is no patch is rendered. -/
theorem error_rendered_patch :
    (run bare (holding "\x7b\x7d") editing).output =
        Json.render Json.compact (errorJson (.undecodable "Operation" (.obj []))) ++ "\n" ∧
      (run bare (holding "\x7b\x7d") editing).report.ending = .exit 6 := by
  have hlook : (holding "\x7b\x7d").files.look "config.json" = .missing := by decide +kernel
  have hpayload : (holding "\x7b\x7d").payload "edit.json" = .ok (.obj []) :=
    toOption_eq_some.1 (by decide +kernel)
  have houtcome : Order.outcome ⟨{}, .programs⟩ (holding "\x7b\x7d")
      (.editModel "a.coffee" "edit.json") =
        .error (.reported (.undecodable "Operation" (.obj []))) := by
    rw [Order.outcome, hpayload]
    simp only [Except.bind, editOf, Context.settled, Context.outcome, ofConfig_usual]
    rfl
  rcases error_rendered (starts_editing hlook) houtcome with ⟨-, houtput, -, hending⟩ | ⟨hmisread, -⟩
  · exact ⟨houtput, hending⟩
  · obtain ⟨_, _, payload, horder, hread, htag, -⟩ := hmisread
    obtain ⟨rfl, rfl⟩ := Order.editModel.inj horder
    rw [hpayload] at hread
    obtain ⟨rfl⟩ := hread
    cases htag

/-- A set command whose indices are no list. -/
def misreadText : String :=
  "\x7b\"eClass\": \"http://www.eclipse.org/emfcloud/modelserver/command#//Command\"," ++
    " \"type\": \"set\", \"indices\": \"x\"\x7d"

/-- What is read from the text. -/
def misreadPayload : Json :=
  .obj [("eClass", .str "http://www.eclipse.org/emfcloud/modelserver/command#//Command"),
    ("type", .str "set"), ("indices", .str "x")]

/-- A file that is tagged as a command and is none raises an error that is not rendered: nothing is
printed, and the error ends the program. -/
theorem misread_escapes :
    Starts bare (holding misreadText) editing ⟨{}, .programs⟩ (holding misreadText)
        (.editModel "a.coffee" "edit.json") ∧
      Order.outcome ⟨{}, .programs⟩ (holding misreadText) (.editModel "a.coffee" "edit.json") =
        .error (.reported (.undecodable "Command" misreadPayload)) ∧
      (run bare (holding misreadText) editing).output = "" ∧
      (run bare (holding misreadText) editing).report.ending =
        .failed (.reported (.undecodable "Command" misreadPayload)) := by
  have hlook : (holding misreadText).files.look "config.json" = .missing := by decide +kernel
  have hpayload : (holding misreadText).payload "edit.json" = .ok misreadPayload :=
    toOption_eq_some.1 (by decide +kernel)
  have hcommand : Command.ofWire misreadPayload =
      .error (.reported (.undecodable "Command" misreadPayload)) := by
    rfl
  have htag : Command.isCommand misreadPayload = true := by decide +kernel
  have houtcome : Order.outcome ⟨{}, .programs⟩ (holding misreadText)
      (.editModel "a.coffee" "edit.json") =
        .error (.reported (.undecodable "Command" misreadPayload)) := by
    rw [Order.outcome, hpayload]
    simp only [Except.bind, editOf_eq_error.2 ⟨htag, hcommand⟩]
  have hstart := starts_editing hlook
  rcases run_job_of_error rfl houtcome with ⟨hread, -⟩ | ⟨-, hrun⟩
  · exact absurd ⟨_, _, _, rfl, hpayload, htag, hcommand⟩ hread
  · rw [hstart.run_eq, hrun]
    exact ⟨hstart, houtcome, rfl, rfl⟩

end RemoteModel.Cli
