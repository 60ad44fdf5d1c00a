import RemoteModel.Command.Execution
import RemoteModel.Diagnostic.Basic

/-!
# Guards by name

The properties by which payloads can be narrowed, under the names that errors report.
-/

namespace RemoteModel

/-- A value that has the shape of a message. -/
def isMessage (v : Json) : Bool := v.hasString "type"

namespace Guard

def all : List Guard := [
  ⟨"is_model_server_object", isTagged⟩,
  ⟨"is_reference_description", isReference⟩,
  ⟨"is_object_v2", isTaggedV2⟩,
  ⟨"is_reference_description_v2", isReferenceV2⟩,
  ⟨"is_command", Command.isCommand⟩,
  ⟨"is_command_execution_result", Execution.isExecution⟩,
  ⟨"is_change_description", Change.Description.isDescription⟩,
  Diagnostic.guard,
  ⟨"is_operation", Patch.Operation.isOperation⟩,
  ⟨"is_patch", Patch.Operation.isPatch⟩,
  ⟨"is_message", isMessage⟩,
  ⟨"is_any_object", Json.isObject⟩]

def ofName? (name : String) : Option Guard := all.find? fun g => g.name = name

end Guard

end RemoteModel
