import RemoteModel.Reference

/-!
# Edit commands

A command edits a model on the server: it sets, adds or removes values of a feature, or it runs
other commands in order, or it is a custom one that the server knows by its tag.

**Two written forms.** `toWire` leaves out what is missing; `dump` writes `null` for it.
-/

namespace RemoteModel

namespace Command

/-- The namespace of commands. -/
def namespaceUri : String := "http://www.eclipse.org/emfcloud/modelserver/command"

def commandUri : String := namespaceUri ++ "#//Command"

def compoundUri : String := namespaceUri ++ "#//CompoundCommand"

def executionUri : String := namespaceUri ++ "#//CommandExecutionResult"

/-- The variant of a command that holds no others. -/
inductive Variant where
  | custom
  | set
  | add
  | remove
deriving DecidableEq, Repr

namespace Variant

/-- The tag of a variant; custom commands have tags of their own. -/
def tag? : Variant → Option String
  | custom => none
  | set => some "set"
  | add => some "add"
  | remove => some "remove"

/-- The variant of a tag. -/
def ofTag (tag : String) : Variant :=
  if tag = "set" then set else if tag = "add" then add else if tag = "remove" then remove
  else custom

end Variant

/-- The tag of compound commands. -/
def compoundTag : String := "compound"

/-- What every command may carry. -/
structure Fields where
  type : String := commandUri
  kind : String
  owner : Option Reference := none
  feature : Option String := none
  indices : Option (List Json) := none
  dataValues : Option (List Json) := none
  objectValues : Option (List Reference) := none
  objectsToAdd : Option (List (Entries Json)) := none
  properties : Option (Entries Json) := none
deriving DecidableEq

namespace Fields

/-- A value of a feature as it is written: a number stays as it is, also one that is not finite. -/
def writtenValue : Json → Json
  | .float x => .float x
  | v => v.finiteOrNull

/-- A written list, if there is one. -/
def listOf {α : Type} (wire : α → Json) (vs : Option (List α)) : Option Json :=
  vs.map fun vs => .arr (vs.map wire)

/-- All fields in order, each with its written form if there is one. -/
def written (f : Fields) : Entries (Option Json) :=
  [("eClass", some (.str f.type)), ("type", some (.str f.kind)),
    ("owner", f.owner.map Reference.toWire), ("feature", f.feature.map Json.str),
    ("indices", listOf Json.finiteOrNull f.indices),
    ("dataValues", listOf writtenValue f.dataValues),
    ("objectValues", listOf Reference.toWire f.objectValues),
    ("objectsToAdd",
      listOf (fun ms => .obj (ms.map fun m => (m.1, m.2.finiteOrNull))) f.objectsToAdd),
    ("properties", f.properties.map fun ps => .obj (ps.map fun p => (p.1, p.2.finiteOrNull)))]

/-- The fields that are there. -/
def present (f : Fields) : Entries Json :=
  f.written.filterMap fun m => m.2.map fun v => (m.1, v)

/-- All fields, with `null` for a missing one. -/
def complete (f : Fields) : Entries Json := f.written.map fun m => (m.1, Json.ofOption m.2)

end Fields

end Command

/-- A command. -/
inductive Command where
  | simple (variant : Command.Variant) (fields : Command.Fields)
  | compound (fields : Command.Fields) (children : List Command)

namespace Command

def fields : Command → Fields
  | simple _ f => f
  | compound f _ => f

def children : Command → List Command
  | simple _ _ => []
  | compound _ cs => cs

/-- The command with other fields. -/
def withFields (f : Fields) : Command → Command
  | simple v _ => simple v f
  | compound _ cs => compound f cs

mutual

/-- The wire form, without what is missing. -/
def toWire : Command → Json
  | simple _ f => .obj f.present
  | compound f cs => .obj (f.present ++ [("commands", .arr (toWires cs))])

def toWires : List Command → List Json
  | [] => []
  | c :: rest => toWire c :: toWires rest

end

mutual

/-- The wire form, with `null` for what is missing. -/
def dump : Command → Json
  | simple _ f => .obj f.complete
  | compound f cs => .obj (f.complete ++ [("commands", .arr (dumps cs))])

def dumps : List Command → List Json
  | [] => []
  | c :: rest => dump c :: dumps rest

end

/-! ## Properties and children -/

/-- Writes a property. -/
def setProperty (c : Command) (key : String) (v : Json) : Command :=
  c.withFields { c.fields with properties := some ((c.fields.properties.getD []).insert key v) }

/-- A property, if it is there. -/
def property? (c : Command) (key : String) : Option Json :=
  c.fields.properties.bind fun ps => ps.get? key

/-- Puts a command behind the children of a compound one. -/
def append (c child : Command) : Except Failure Command :=
  match c with
  | compound f cs => .ok (compound f (cs ++ [child]))
  | simple _ _ => .error .noMethod

end Command

end RemoteModel
