import RemoteModel.Command.Basic

/-!
# Building commands

Builders choose the fields by the values: references go to `objectValues`, objects that are to
be added to `objectsToAdd`, each with a reference to its place there, indices to `indices`, and
everything else to `dataValues`.

**Checks.** The owner must be a reference. Values to set must be truth values, numbers or texts.
-/

namespace RemoteModel.Command

/-- A truth value, a number or a text. -/
def isData : Json → Bool
  | .bool _ => true
  | .int _ => true
  | .float _ => true
  | .str _ => true
  | _ => false

/-- Checks for a truth value, a number or a text, which is kept as it came. -/
def data : Check Json := fun v => if isData v then .ok v else Check.misfit

/-- Sets the values of a feature. -/
def set (owner : Value) (feature : String) (values : List Value) : Except Failure Command :=
  if !values.isEmpty && areReferences values then do
    let owner ← owner.check.orFail
    -- The first value that is no reference decides.
    let refs ← values.mapM fun v => v.check.orFail
    .ok (.simple .set
      { kind := "set", owner := some owner, feature := some feature, objectValues := some refs })
  else do
    let owner ← owner.check.orFail
    let values ← ((Check.items data 0 (values.map Value.toWire)).under "data_values").orFail
    .ok (.simple .set
      { kind := "set", owner := some owner, feature := some feature, dataValues := some values })

/-- The place of an object among the objects to add. -/
def addedPlace (i : Nat) : String := "//@objectsToAdd." ++ toString i

/-- A reference to each object to add, by its type and place. -/
def addedReferences (objects : List (Entries Json)) : List Reference :=
  objects.zipIdx.map fun (ms, i) => ⟨((ms.get? typeTag).bind Json.string?).getD "", addedPlace i⟩

/-- Adds values to a feature, at an index if one is given. -/
def add (owner : Value) (feature : String) (values : List Value) (index : Option Json) :
    Except Failure Command := do
  let owner ← owner.check.orFail
  let indices := index.map fun i => [i]
  if !values.isEmpty && areTagged values then
    let objects := values.filterMap fun v => v.toWire.members?
    .ok (.simple .add
      { kind := "add", owner := some owner, feature := some feature, indices := indices,
        objectValues := some (addedReferences objects), objectsToAdd := some objects })
  else
    .ok (.simple .add
      { kind := "add", owner := some owner, feature := some feature, indices := indices,
        dataValues := some (values.map Value.toWire) })

/-- Removes values of a feature: the ones at some indices, or the elements referred to. -/
def remove (owner : Value) (feature : String) (values : List Value) : Except Failure Command := do
  let owner ← owner.check.orFail
  if areIntegers values then
    .ok (.simple .remove
      { kind := "remove", owner := some owner, feature := some feature,
        indices := some (values.map Value.toWire) })
  else
    let refs ← values.mapM fun v => v.check.orFail
    .ok (.simple .remove
      { kind := "remove", owner := some owner, feature := some feature,
        objectValues := some refs })

/-- Runs commands in order. -/
def sequence (children : List Command) : Command :=
  .compound { type := compoundUri, kind := compoundTag } children

/-- A custom command with a tag and properties; no properties are the same as none. -/
def custom (kind : String) (properties : Entries Json) : Except Failure Command := do
  let properties ← ((Check.table Check.text (.obj properties)).under "properties").orFail
  .ok (.simple .custom
    { kind := kind,
      properties :=
        if properties.isEmpty then none else some (properties.map fun p => (p.1, .str p.2)) })

end RemoteModel.Command
