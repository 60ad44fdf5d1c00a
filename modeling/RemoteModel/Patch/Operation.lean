import RemoteModel.Failure
import RemoteModel.Narrow

/-!
# Patch operations

An operation names a place in a document by a path and says what to do there. It may carry a
value, and `move` and `copy` carry the path of their source. A value that is missing is not the
same as a value that is `null`: the first one is not sent.
-/

namespace RemoteModel.Patch

/-- What an operation does. -/
inductive Action where
  | add
  | remove
  | replace
  | move
  | copy
  | test
deriving DecidableEq, Repr

namespace Action

def all : List Action := [add, remove, replace, move, copy, test]

def name : Action → String
  | add => "add"
  | remove => "remove"
  | replace => "replace"
  | move => "move"
  | copy => "copy"
  | test => "test"

def ofName? (s : String) : Option Action := all.find? fun a => a.name = s

theorem ofName?_name (a : Action) : ofName? a.name = some a := by cases a <;> decide

end Action

/-- An operation of a patch. -/
structure Operation where
  action : Action
  path : String
  value : Option Json := none
  source : Option String := none
deriving DecidableEq

namespace Operation

/-- The value, with `null` for a missing one. -/
def operand (o : Operation) : Json := Json.ofOption o.value

def toWire (o : Operation) : Json :=
  .obj ([("op", .str o.action.name), ("path", .str o.path)] ++
    (match o.value with
      | some v => [("value", v)]
      | none => []) ++
    match o.source with
    | some s => [("from", .str s)]
    | none => [])

/-- All fields, with `null` for a missing one. -/
def dump (o : Operation) : Json :=
  .obj [("op", .str o.action.name), ("path", .str o.path), ("value", o.operand.finiteOrNull),
    ("from", Json.ofText? o.source)]

def check : Check Operation :=
  Check.fields fun ms =>
    Operation.mk <$> Check.required ms ["op"] (Check.word Action.ofName?)
      <*> Check.required ms ["path"] Check.text
      <*> Check.defaulted ms ["value"] none (fun v => .ok (some v))
      <*> Check.optional ms ["from", "from_"] Check.text

/-- An operation from its wire form. -/
def ofWire (v : Json) : Except Error Operation := (check v).orUndecodable "Operation" v

theorem ofWire_toWire (o : Operation) : ofWire o.toWire = .ok o := by
  obtain ⟨action, path, value, source⟩ := o
  cases value <;> cases source <;> cases action <;> rfl

/-- A value that looks like an operation. -/
def isOperation (v : Json) : Bool :=
  ((v.text? "op").bind Action.ofName?).isSome && v.hasString "path"

/-- A list of values that look like operations. -/
def isPatch : Json → Bool
  | .arr items => items.all isOperation
  | _ => false

end Operation

/-- What a value holds when it is gone through: items, names of members, or characters. -/
def elements : Json → Except Failure (List Json)
  | .arr items => .ok items
  | .obj members => .ok (members.map fun m => .str m.1)
  | .str s => .ok (s.toList.map fun c => .str (String.singleton c))
  | _ => .error .wrongType

/-- The operations of a patch: a single one, or what the value holds. -/
def operations (v : Json) : Except Failure (List Operation) := do
  let items ←
    match v with
    | .obj members => .ok [.obj members]
    | v => elements v
  match items.mapM Operation.ofWire with
  | .ok os => .ok os
  | .error e => .error (.reported e)

end RemoteModel.Patch
