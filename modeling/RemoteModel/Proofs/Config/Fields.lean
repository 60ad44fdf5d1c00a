import RemoteModel.Config.Source
import RemoteModel.Proofs.Check
import RemoteModel.Proofs.Entries

/-!
# The fields of a configuration

`fields` lists what can be configured: the section and the name of each field, whether it holds a
text, what it takes, and where it stands in a configuration. Fields are checked one by one:

* a configuration is accepted exactly if each of its fields has a value that its check takes, or
  none (`check_eq_ok`), and
* nothing else that is found in the sections matters (`check_congr`).
-/

namespace RemoteModel.Config

/-- A field of a configuration. -/
structure Field (α : Type) where
  sectionName : String
  name : String
  /-- Its values are texts, also where they name something else. -/
  isText : Bool
  check : Check α
  get : Config → α

namespace Field

def baseUrl : Field String where
  sectionName := "server"
  name := "base_url"
  isText := true
  check := Check.text
  get c := c.server.baseUrl

def version : Field Protocol where
  sectionName := "server"
  name := "api_version"
  isText := true
  check := Config.protocol
  get c := c.server.protocol

def serverFormat : Field (Option Format) where
  sectionName := "server"
  name := "default_format"
  isText := true
  check := Check.nullable Config.format
  get c := c.server.defaultFormat

def requestTimeout : Field Double where
  sectionName := "server"
  name := "request_timeout_seconds"
  isText := false
  check := Check.real
  get c := c.server.timeout

def format : Field (Option Format) where
  sectionName := "subscription"
  name := "format"
  isText := true
  check := Check.nullable Config.format
  get c := c.subscription.format

def timeout : Field (Option Int) where
  sectionName := "subscription"
  name := "timeout"
  isText := false
  check := Check.nullable Check.integer
  get c := c.subscription.timeout

def liveValidation : Field (Option Bool) where
  sectionName := "subscription"
  name := "livevalidation"
  isText := false
  check := Check.nullable Check.truth
  get c := c.subscription.liveValidation

def errorWhenUnsuccessful : Field Bool where
  sectionName := "subscription"
  name := "error_when_unsuccessful"
  isText := false
  check := Check.truth
  get c := c.subscription.errorWhenUnsuccessful

def keepAlive : Field (Option Double) where
  sectionName := "subscription"
  name := "keep_alive_seconds"
  isText := false
  check := Check.nullable Check.real
  get c := c.subscription.keepAlive

def level : Field String where
  sectionName := "logging"
  name := "level"
  isText := true
  check := Check.text
  get c := c.logging.level

def logFile : Field (Option String) where
  sectionName := "logging"
  name := "log_file"
  isText := true
  check := Check.nullable Config.fileName
  get c := c.logging.file

def outputFormat : Field Output where
  sectionName := "output"
  name := "default_format"
  isText := true
  check := Check.word Output.ofName?
  get c := c.output

end Field

/-- All fields. -/
def fields : List ((α : Type) × Field α) := [
  ⟨_, .baseUrl⟩, ⟨_, .version⟩, ⟨_, .serverFormat⟩, ⟨_, .requestTimeout⟩,
  ⟨_, .format⟩, ⟨_, .timeout⟩, ⟨_, .liveValidation⟩, ⟨_, .errorWhenUnsuccessful⟩, ⟨_, .keepAlive⟩,
  ⟨_, .level⟩, ⟨_, .logFile⟩, ⟨_, .outputFormat⟩]

/-! ## Readings -/

/-- What a field makes of a value, or its default if there is none. -/
def Field.reading {α : Type} (f : Field α) : Option Json → Checked α
  | none => .ok (f.get {})
  | some v => (f.check v).under f.name

/-- The configuration that is read field by field. -/
def assemble (read : {α : Type} → Field α → Checked α) : Checked Config :=
  Config.mk
    <$> (Server.mk <$> read .baseUrl <*> read .version <*> read .serverFormat
          <*> read .requestTimeout).under "server"
    <*> (Subscriptions.mk <$> read .format <*> read .timeout <*> read .liveValidation
          <*> read .errorWhenUnsuccessful <*> read .keepAlive).under "subscription"
    <*> (Logging.mk <$> read .level <*> read .logFile).under "logging"
    <*> (read .outputFormat).under "output"

section

variable {read read' : {α : Type} → Field α → Checked α} {c : Config}

theorem Field.reading_eq_ok {α : Type} {f : Field α} {raw : Option Json} {a : α} :
    f.reading raw = .ok a ↔ (raw = none ∧ f.get {} = a) ∨ ∃ v, raw = some v ∧ f.check v = .ok a := by
  cases raw with
  | none => simp [reading]
  | some v => simp [reading, Checked.under_eq_ok]

theorem forall_fields {P : (α : Type) × Field α → Prop} :
    (∀ f ∈ fields, P f) ↔ P ⟨_, .baseUrl⟩ ∧ P ⟨_, .version⟩ ∧ P ⟨_, .serverFormat⟩ ∧
      P ⟨_, .requestTimeout⟩ ∧ P ⟨_, .format⟩ ∧ P ⟨_, .timeout⟩ ∧ P ⟨_, .liveValidation⟩ ∧
      P ⟨_, .errorWhenUnsuccessful⟩ ∧ P ⟨_, .keepAlive⟩ ∧ P ⟨_, .level⟩ ∧ P ⟨_, .logFile⟩ ∧
      P ⟨_, .outputFormat⟩ := by
  simp [fields]

/-- **A configuration is what its fields read.** -/
theorem assemble_eq_ok :
    assemble read = .ok c ↔ ∀ f ∈ fields, read f.2 = .ok (f.2.get c) := by
  rw [forall_fields]
  simp only [assemble, Checked.seq_eq_ok, Checked.map_eq_ok, Checked.under_eq_ok]
  constructor
  · rintro ⟨_, _, ⟨_, _, ⟨_, _, ⟨_, ⟨_, _, ⟨_, _, ⟨_, _, ⟨_, hurl, rfl⟩, hversion, rfl⟩, hdefault,
      rfl⟩, htimeout, rfl⟩, rfl⟩, ⟨_, _, ⟨_, _, ⟨_, _, ⟨_, _, ⟨_, hformat, rfl⟩, hidle, rfl⟩, hlive,
      rfl⟩, herror, rfl⟩, hkeepAlive, rfl⟩, rfl⟩, ⟨_, _, ⟨_, hlevel, rfl⟩, hfile, rfl⟩, rfl⟩,
      houtput, rfl⟩
    exact ⟨hurl, hversion, hdefault, htimeout, hformat, hidle, hlive, herror, hkeepAlive, hlevel,
      hfile, houtput⟩
  · rintro ⟨hurl, hversion, hdefault, htimeout, hformat, hidle, hlive, herror, hkeepAlive, hlevel,
      hfile, houtput⟩
    exact ⟨_, _, ⟨_, _, ⟨_, _, ⟨_, ⟨_, _, ⟨_, _, ⟨_, _, ⟨_, hurl, rfl⟩, hversion, rfl⟩, hdefault,
      rfl⟩, htimeout, rfl⟩, rfl⟩, ⟨_, _, ⟨_, _, ⟨_, _, ⟨_, _, ⟨_, hformat, rfl⟩, hidle, rfl⟩, hlive,
      rfl⟩, herror, rfl⟩, hkeepAlive, rfl⟩, rfl⟩, ⟨_, _, ⟨_, hlevel, rfl⟩, hfile, rfl⟩, rfl⟩,
      houtput, rfl⟩

/-- There is a configuration exactly if each field reads something. -/
theorem exists_assemble_eq_ok :
    (∃ c, assemble read = .ok c) ↔ ∀ f ∈ fields, ∃ a, read f.2 = .ok a := by
  constructor
  · rintro ⟨c, hc⟩ f hf
    exact ⟨_, assemble_eq_ok.1 hc f hf⟩
  · rw [forall_fields]
    rintro ⟨⟨url, hurl⟩, ⟨version, hversion⟩, ⟨default, hdefault⟩, ⟨timeout, htimeout⟩,
      ⟨format, hformat⟩, ⟨idle, hidle⟩, ⟨live, hlive⟩, ⟨error, herror⟩, ⟨keepAlive, hkeepAlive⟩,
      ⟨level, hlevel⟩, ⟨file, hfile⟩, ⟨output, houtput⟩⟩
    refine ⟨⟨⟨url, version, default, timeout⟩, ⟨format, idle, live, error, keepAlive⟩,
      ⟨level, file⟩, output⟩, assemble_eq_ok.2 ?_⟩
    rw [forall_fields]
    exact ⟨hurl, hversion, hdefault, htimeout, hformat, hidle, hlive, herror, hkeepAlive, hlevel,
      hfile, houtput⟩

/-- Fields that read the same make the same of it, also where they fail. -/
theorem assemble_congr (h : ∀ f ∈ fields, read f.2 = read' f.2) :
    assemble read = assemble read' := by
  rw [forall_fields] at h
  obtain ⟨hurl, hversion, hdefault, htimeout, hformat, hidle, hlive, herror, hkeepAlive, hlevel,
    hfile, houtput⟩ := h
  simp only [assemble, hurl, hversion, hdefault, htimeout, hformat, hidle, hlive, herror, hkeepAlive,
    hlevel, hfile, houtput]

end

/-! ## Sections -/

/-- The value of a field among those that are found. -/
def field? (found : Entries (Entries Json)) (sectionName name : String) : Option Json :=
  (found.get? sectionName).bind fun members => Entries.get? members name

/-- Sections as an object. -/
def sectionsObject (found : Entries (Entries Json)) : Json :=
  .obj (found.map fun s => (s.1, .obj s.2))

variable {α : Type} {found : Entries (Entries Json)}

theorem defaulted_section {default : α} (check : Check α) (name : String)
    (h : check (.obj []) = .ok default) :
    Check.defaulted (found.map fun s => (s.1, Json.obj s.2)) [name] default check =
      (check (.obj ((found.get? name).getD []))).under name := by
  rw [Check.defaulted, Check.find?, Entries.get?_map]
  cases found.get? name with
  | none =>
    simp only [Option.map_none, Option.getD_none, Check.find?, h]
    rfl
  | some members => rfl

theorem defaulted_field (f : Field α) :
    Check.defaulted ((found.get? f.sectionName).getD []) [f.name] (f.get {}) f.check =
      f.reading (field? found f.sectionName f.name) := by
  have hget : Entries.get? ((found.get? f.sectionName).getD []) f.name =
      field? found f.sectionName f.name := by
    unfold field?
    cases found.get? f.sectionName <;> rfl
  rw [Check.defaulted, Check.find?, hget]
  cases field? found f.sectionName f.name <;> rfl

/-- **The sections are checked field by field.** -/
theorem check_sectionsObject (found : Entries (Entries Json)) :
    check (sectionsObject found) =
      assemble fun f => f.reading (field? found f.sectionName f.name) := by
  simp only [assemble, ← defaulted_field]
  simp only [check, Check.fields, sectionsObject]
  rw [defaulted_section Server.check "server" rfl,
    defaulted_section Subscriptions.check "subscription" rfl,
    defaulted_section Logging.check "logging" rfl, defaulted_section Output.check "output" rfl]
  rfl

end RemoteModel.Config
