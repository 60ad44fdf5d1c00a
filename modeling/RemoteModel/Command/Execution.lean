import RemoteModel.Command.Change
import RemoteModel.Command.Wire

/-!
# Executed commands

What the server reports about a command that it executed, undid or redid: the command, what it
changed and which objects are affected.
-/

namespace RemoteModel

/-- The report of an executed command. -/
structure Execution where
  type : String
  kind : String
  source : Command
  change : Change.Description
  affectedObjects : Option (List Reference)
  details : Option (Entries String)

namespace Execution

/-- A value that is tagged as the report of an executed command. -/
def isExecution (v : Json) : Bool :=
  v.text? typeTag == some Command.executionUri && v.hasString "type" && (v.get? "source").isSome &&
    (v.get? "changeDescription").any Change.Description.isDescription

/-- Checks a report whose command is read. -/
def check (source : Command) : Check Execution :=
  Check.fields fun ms =>
    (fun type kind change => Execution.mk type kind source change)
      <$> Check.defaulted ms ["eClass", "e_class"] Command.executionUri Check.text
      <*> Check.required ms ["type", "kind"] Check.text
      <*> Check.required ms ["changeDescription", "change_description"] Change.Description.check
      <*> Check.optional ms ["affectedObjects", "affected_objects"] (Check.list Reference.check)
      <*> Check.optional ms ["details"] (Check.table Check.text)

/-- A report from its wire form. -/
def ofWire (v : Json) : Except Failure Execution :=
  if !isExecution v then .error (.reported (.undecodable "CommandExecutionResult" v))
  else do
    let source ← Command.ofWire (Json.ofOption (v.get? "source"))
    match check source v with
    | .ok e => .ok e
    | .bad _ => .error (.reported (.undecodable "CommandExecutionResult" v))

/-- The report, with `null` for what is missing. -/
def dump (e : Execution) : Json :=
  .obj [("eClass", .str e.type), ("type", .str e.kind), ("source", e.source.dump),
    ("changeDescription", e.change.dump),
    ("affectedObjects", Change.wireList Reference.toWire e.affectedObjects),
    ("details", Change.wireOf (fun ds => .obj (ds.map fun d => (d.1, .str d.2))) e.details)]

end Execution

end RemoteModel
