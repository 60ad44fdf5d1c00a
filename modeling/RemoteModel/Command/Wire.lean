import RemoteModel.Command.Build
import RemoteModel.Patch.Operation

/-!
# Reading commands

A command is rebuilt from its wire form by its tag. The children of a compound command are read
first, in order, and the first one that cannot be read decides.
-/

namespace RemoteModel.Command

/-- A value that is tagged as a command. -/
def isCommand (v : Json) : Bool :=
  (v.text? typeTag == some commandUri || v.text? typeTag == some compoundUri) && v.hasString "type"

namespace Fields

/-- Checks the fields of a command; `kind` checks the tag, and `type` is the type by default. -/
def check (type : String) (kind : Entries Json → Checked String) (ms : Entries Json) :
    Checked Fields :=
  Fields.mk <$> Check.defaulted ms ["eClass", "e_class"] type Check.text
    <*> kind ms
    <*> Check.optional ms ["owner"] Reference.check
    <*> Check.optional ms ["feature"] Check.text
    <*> Check.optional ms ["indices"] (Check.list fun v => (Check.integer v).map Json.int)
    <*> Check.optional ms ["dataValues", "data_values"] (Check.list data)
    <*> Check.optional ms ["objectValues", "object_values"] (Check.list Reference.check)
    <*> Check.optional ms ["objectsToAdd", "objects_to_add"] (Check.list Check.object)
    <*> Check.optional ms ["properties"] fun v =>
      (Check.table Check.text v).map fun ps => ps.map fun p => (p.1, Json.str p.2)

/-- A tag of any kind, which must be there. -/
def anyKind (ms : Entries Json) : Checked String := Check.required ms ["type", "kind"] Check.text

/-- A given tag, which may be missing. -/
def thisKind (tag : String) (ms : Entries Json) : Checked String :=
  Check.defaulted ms ["type", "kind"] tag (Check.word fun s => if s = tag then some s else none)

end Fields

/-- Checks a command of a variant. -/
def checkVariant (variant : Variant) : Check Command :=
  Check.fields fun ms =>
    (simple variant) <$> Fields.check commandUri
      (match variant.tag? with
        | some tag => Fields.thisKind tag
        | none => Fields.anyKind) ms

/-- Checks the fields of a compound command whose children are read. -/
def checkCompound (children : List Command) : Check Command :=
  Check.fields fun ms =>
    (compound · children) <$> Fields.check compoundUri (Fields.thisKind compoundTag) ms

/-- A command, or the error that a value is none. -/
def orNone (v : Json) (c : Checked Command) : Except Failure Command :=
  match c with
  | .ok c => .ok c
  | .bad _ => .error (.reported (.undecodable "Command" v))

mutual

/-- A command from its wire form. -/
def ofWire : Json → Except Failure Command
  | .obj members =>
    let v : Json := .obj members
    if !isCommand v then .error (.reported (.undecodable "Command" v))
    else if v.text? "type" == some compoundTag then do
      let children ← childrenOf members
      orNone v (checkCompound children v)
    else orNone v (checkVariant (Variant.ofTag ((v.text? "type").getD "")) v)
  | v => .error (.reported (.undecodable "Command" v))

/-- The children of a compound command. -/
def childrenOf : List (String × Json) → Except Failure (List Command)
  | [] => .ok []
  | (k, v) :: rest => if k = "commands" then elementsOf v else childrenOf rest

/-- The commands that a value holds; a name or a character is none. -/
def elementsOf : Json → Except Failure (List Command)
  | .arr items => ofWires items
  | v =>
    match Patch.elements v with
    | .ok [] => .ok []
    | .ok (name :: _) => .error (.reported (.undecodable "Command" name))
    | .error failure => .error failure

def ofWires : List Json → Except Failure (List Command)
  | [] => .ok []
  | v :: rest => do
    let c ← ofWire v
    let cs ← ofWires rest
    .ok (c :: cs)

end

end RemoteModel.Command
