import RemoteModel.Reference

/-!
# Change descriptions

What an executed command has changed: for each object its changed features, for each list the
additions, removals and moves. Members beyond the known ones are kept and come last when a
description is written.
-/

namespace RemoteModel.Change

/-- The namespace of change descriptions. -/
def namespaceUri : String := "http://www.eclipse.org/emf/2003/Change"

def descriptionUri : String := namespaceUri ++ "#//ChangeDescription"

def objectChangesUri : String := namespaceUri ++ "#//EObjectToChangesMapEntry"

def resourceChangeUri : String := namespaceUri ++ "#//ResourceChange"

def featureChangeUri : String := namespaceUri ++ "#//FeatureChange"

/-- What happens to a list. -/
inductive Kind where
  | add
  | remove
  | move
  /-- A kind of another server, by its name. -/
  | named (name : String)
deriving DecidableEq, Repr

namespace Kind

def ofNumber? : Int → Option Kind
  | 0 => some add
  | 1 => some remove
  | 2 => some move
  | _ => none

def toWire : Kind → Json
  | add => .int 0
  | remove => .int 1
  | move => .int 2
  | named name => .str name

/-- A number of one of the kinds, or a name, which may be any text. -/
def check : Check Kind
  | .str s => .ok (.named s)
  | v => (Check.integer v).andThen fun n => Check.ofOption (ofNumber? n)

end Kind

/-- A list of wire forms, with `null` for a missing one. -/
def wireList {α : Type} (wire : α → Json) : Option (List α) → Json
  | some vs => .arr (vs.map wire)
  | none => .null

/-- A wire form, with `null` for a missing one. -/
def wireOf {α : Type} (wire : α → Json) : Option α → Json
  | some v => wire v
  | none => .null

/-- Further members, as they are written. -/
def wireExtras (extras : Entries Json) : Entries Json :=
  extras.map fun m => (m.1, m.2.finiteOrNull)

/-! ## Lists -/

structure ListChange where
  kind : Option Kind
  dataValues : Option (List String)
  index : Int
  moveToIndex : Option Int
  values : Option (List Json)
  referenceValues : Option (List Reference)
  feature : Json
  extras : Entries Json
deriving DecidableEq

namespace ListChange

def names : List (List String) :=
  [["kind"], ["dataValues", "data_values"], ["index"], ["moveToIndex", "move_to_index"],
    ["values"], ["referenceValues", "reference_values"], ["feature"]]

def check : Check ListChange :=
  Check.fields fun ms =>
    ListChange.mk <$> Check.optional ms ["kind"] Kind.check
      <*> Check.optional ms ["dataValues", "data_values"] (Check.list Check.text)
      <*> Check.defaulted ms ["index"] (-1) Check.integer
      <*> Check.optional ms ["moveToIndex", "move_to_index"] Check.integer
      <*> Check.optional ms ["values"] (Check.list Check.anything)
      <*> Check.optional ms ["referenceValues", "reference_values"] (Check.list Reference.check)
      <*> Check.defaulted ms ["feature"] .null Check.anything
      <*> .ok (Check.extras ms names)

def dump (c : ListChange) : Json :=
  .obj ([("kind", wireOf Kind.toWire c.kind), ("dataValues", wireList .str c.dataValues),
    ("index", .int c.index), ("moveToIndex", wireOf .int c.moveToIndex),
    ("values", wireList Json.finiteOrNull c.values),
    ("referenceValues", wireList Reference.toWire c.referenceValues),
    ("feature", c.feature.finiteOrNull)] ++ wireExtras c.extras)

end ListChange

/-! ## Features -/

structure FeatureChange where
  type : String
  featureName : Option String
  dataValue : Option String
  isSet : Option Bool
  value : Json
  feature : Option Reference
  referenceValue : Option Reference
  listChanges : Option (List ListChange)
  extras : Entries Json
deriving DecidableEq

namespace FeatureChange

def names : List (List String) :=
  [["eClass", "e_class"], ["featureName", "feature_name"], ["dataValue", "data_value"], ["set"],
    ["value"], ["feature"], ["referenceValue", "reference_value"], ["listChanges", "list_changes"]]

def check : Check FeatureChange :=
  Check.fields fun ms =>
    FeatureChange.mk <$> Check.defaulted ms ["eClass", "e_class"] featureChangeUri Check.text
      <*> Check.optional ms ["featureName", "feature_name"] Check.text
      <*> Check.optional ms ["dataValue", "data_value"] Check.text
      <*> Check.optional ms ["set"] Check.truth
      <*> Check.defaulted ms ["value"] .null Check.anything
      <*> Check.optional ms ["feature"] Reference.check
      <*> Check.optional ms ["referenceValue", "reference_value"] Reference.check
      <*> Check.optional ms ["listChanges", "list_changes"] (Check.list ListChange.check)
      <*> .ok (Check.extras ms names)

def dump (c : FeatureChange) : Json :=
  .obj ([("eClass", .str c.type), ("featureName", Json.ofText? c.featureName),
    ("dataValue", Json.ofText? c.dataValue), ("set", wireOf .bool c.isSet),
    ("value", c.value.finiteOrNull), ("feature", wireOf Reference.toWire c.feature),
    ("referenceValue", wireOf Reference.toWire c.referenceValue),
    ("listChanges", wireList ListChange.dump c.listChanges)] ++ wireExtras c.extras)

end FeatureChange

/-! ## Objects and resources -/

structure ObjectChanges where
  type : String
  key : Reference
  value : Option (List FeatureChange)
  extras : Entries Json
deriving DecidableEq

namespace ObjectChanges

def names : List (List String) := [["eClass", "e_class"], ["key"], ["value"]]

def check : Check ObjectChanges :=
  Check.fields fun ms =>
    ObjectChanges.mk <$> Check.defaulted ms ["eClass", "e_class"] objectChangesUri Check.text
      <*> Check.required ms ["key"] Reference.check
      <*> Check.optional ms ["value"] (Check.list FeatureChange.check)
      <*> .ok (Check.extras ms names)

def dump (c : ObjectChanges) : Json :=
  .obj ([("eClass", .str c.type), ("key", c.key.toWire),
    ("value", wireList FeatureChange.dump c.value)] ++ wireExtras c.extras)

end ObjectChanges

structure ResourceChange where
  type : String
  resourceUri : Option String
  value : Json
  listChanges : Option (List ListChange)
  extras : Entries Json
deriving DecidableEq

namespace ResourceChange

def names : List (List String) :=
  [["eClass", "e_class"], ["resourceURI", "resource_uri"], ["value"],
    ["listChanges", "list_changes"]]

def check : Check ResourceChange :=
  Check.fields fun ms =>
    ResourceChange.mk <$> Check.defaulted ms ["eClass", "e_class"] resourceChangeUri Check.text
      <*> Check.optional ms ["resourceURI", "resource_uri"] Check.text
      <*> Check.defaulted ms ["value"] .null Check.anything
      <*> Check.optional ms ["listChanges", "list_changes"] (Check.list ListChange.check)
      <*> .ok (Check.extras ms names)

def dump (c : ResourceChange) : Json :=
  .obj ([("eClass", .str c.type), ("resourceURI", Json.ofText? c.resourceUri),
    ("value", c.value.finiteOrNull), ("listChanges", wireList ListChange.dump c.listChanges)] ++
      wireExtras c.extras)

end ResourceChange

/-! ## Descriptions -/

/-- All changes of one command. -/
structure Description where
  type : String
  objectChanges : Option (List ObjectChanges)
  objectsToDetach : Option (List (Entries Json))
  objectsToAttach : Option (List (Entries Json))
  resourceChanges : Option (List ResourceChange)
  extras : Entries Json
deriving DecidableEq

namespace Description

def names : List (List String) :=
  [["eClass", "e_class"], ["objectChanges", "object_changes"],
    ["objectsToDetach", "objects_to_detach"], ["objectsToAttach", "objects_to_attach"],
    ["resourceChanges", "resource_changes"]]

def check : Check Description :=
  Check.fields fun ms =>
    Description.mk <$> Check.defaulted ms ["eClass", "e_class"] descriptionUri Check.text
      <*> Check.optional ms ["objectChanges", "object_changes"] (Check.list ObjectChanges.check)
      <*> Check.optional ms ["objectsToDetach", "objects_to_detach"] (Check.list Check.object)
      <*> Check.optional ms ["objectsToAttach", "objects_to_attach"] (Check.list Check.object)
      <*> Check.optional ms ["resourceChanges", "resource_changes"]
        (Check.list ResourceChange.check)
      <*> .ok (Check.extras ms names)

def dump (d : Description) : Json :=
  .obj ([("eClass", .str d.type), ("objectChanges", wireList ObjectChanges.dump d.objectChanges),
    ("objectsToDetach", wireList (fun ms => .obj (wireExtras ms)) d.objectsToDetach),
    ("objectsToAttach", wireList (fun ms => .obj (wireExtras ms)) d.objectsToAttach),
    ("resourceChanges", wireList ResourceChange.dump d.resourceChanges)] ++ wireExtras d.extras)

/-- A value that is tagged as a change description. -/
def isDescription (v : Json) : Bool := v.text? typeTag == some descriptionUri

end Description

end RemoteModel.Change
