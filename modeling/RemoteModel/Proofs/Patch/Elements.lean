import RemoteModel.Patch.Build
import RemoteModel.Proofs.Json.Objects
import RemoteModel.Proofs.Patch.Paths
import RemoteModel.Proofs.Patch.Steps

/-!
# Elements and their paths

**Search.** The element of an identifier is the first object in document order that bears it
(`locate_eq_find`). An object that alone bears its identifier is found where it stands
(`locate_of_alone`).

**Paths.** A model path leads from where its identifier is found by its steps, and a pointer by
its steps from the root (`resolvePath_modelPath`, `resolvePath_pointerText`). The paths that are
built for an element lead there from its location (`IsElement.featurePath`, `IsElement.resolve`).
-/

namespace RemoteModel.Patch

open Json (Step Location)

/-! ## Search -/

theorem bears_iff {id : String} {ms : Entries Json} :
    bears id ms = true ↔ Entries.get? ms "$id" = some (.str id) := by
  unfold bears
  cases h : Entries.get? ms "$id" with
  | none => simp
  | some v => cases v <;> simp [Json.string?]

/-- The first object of a list that bears an identifier, as the steps to it. -/
def firstBearing (id : String) (os : List (Location × Entries Json)) : Option (List String) :=
  (os.find? fun o => bears id o.2).map fun o => o.1.map Step.token

theorem firstBearing_append (id : String) (os ps : List (Location × Entries Json)) :
    firstBearing id (os ++ ps) = (firstBearing id os).or (firstBearing id ps) := by
  unfold firstBearing
  rw [List.find?_append]
  cases os.find? fun o => bears id o.2 <;> rfl

theorem firstBearing_under (id : String) (s : Step) (os : List (Location × Entries Json)) :
    firstBearing id (os.map (Json.under s)) = (firstBearing id os).map (s.token :: ·) := by
  unfold firstBearing
  rw [List.find?_map, Option.map_map, Option.map_map]
  rfl

mutual

/-- **The search finds the first object in document order.** -/
theorem locate_eq_find (id : String) : (v : Json) → locate id v = firstBearing id v.objects
  | .obj ms => by
    rw [locate, Json.objects, locateMember_eq_find id ms]
    by_cases hb : bears id ms = true
    · simp [firstBearing, hb]
    · simp [firstBearing, hb]
  | .arr items => by rw [locate, Json.objects, locateItem_eq_find id 0 items]
  | .null => rfl
  | .bool _ => rfl
  | .int _ => rfl
  | .float _ => rfl
  | .str _ => rfl

theorem locateMember_eq_find (id : String) : (ms : List (String × Json)) →
    locateMember id ms = firstBearing id (Json.objectsOfMembers ms)
  | [] => rfl
  | (k, v) :: rest => by
    rw [locateMember, Json.objectsOfMembers, firstBearing_append, firstBearing_under,
      locate_eq_find id v, locateMember_eq_find id rest]
    cases firstBearing id v.objects <;> rfl

theorem locateItem_eq_find (id : String) (n : Nat) : (items : List Json) →
    locateItem id n items = firstBearing id (Json.objectsOfItems n items)
  | [] => rfl
  | v :: rest => by
    rw [locateItem, Json.objectsOfItems, firstBearing_append, firstBearing_under,
      locate_eq_find id v, locateItem_eq_find id (n + 1) rest]
    cases firstBearing id v.objects <;> rfl

end

/-- An object that alone bears its identifier is found where it stands. -/
theorem locate_of_alone {document : Json} {t : Location} {members : Entries Json} {id : String}
    (hw : document.WellFormed) (here : document.at? t = some (.obj members))
    (identifier : Entries.get? members "$id" = some (.str id))
    (alone : ∀ l ms, document.at? l = some (.obj ms) →
      Entries.get? ms "$id" = some (.str id) → l = t) :
    locate id document = some (t.map Step.token) := by
  rw [locate_eq_find, firstBearing, Option.map_eq_some_iff]
  have hmem := (Json.mem_objects_iff hw).2 here
  cases hfind : document.objects.find? fun o => bears id o.2 with
  | none => exact absurd (bears_iff.2 identifier) (List.find?_eq_none.1 hfind _ hmem)
  | some o =>
    obtain ⟨l, ms⟩ := o
    have hl := (Json.mem_objects_iff hw).1 (List.mem_of_find?_eq_some hfind)
    have hb := List.find?_some (p := fun o : Location × Entries Json => bears id o.2) hfind
    exact ⟨(l, ms), rfl, by rw [alone l ms hl (bears_iff.1 hb)]⟩

/-- A model path leads from where its identifier is found by its steps. -/
theorem resolvePath_modelPath {document : Json} {id : String} {found steps : List String}
    (modeluri : String) (hid : id ≠ "") (hplain : ∀ s ∈ id :: steps, '/' ∉ s.toList)
    (h : locate id document = some found) :
    resolvePath document (Address.modelPath modeluri id steps) = .ok (found ++ steps, true) := by
  unfold resolvePath
  rw [Address.ofPath_modelPath modeluri hid hplain]
  simp only [bind, Except.bind, Address.resolve, h]
  rfl

theorem resolvePath_pointerText (document : Json) {steps : List String}
    (h : ∀ s ∈ steps, '#' ∉ s.toList) :
    resolvePath document (Address.pointerText steps) = .ok (steps, false) := by
  unfold resolvePath
  rw [Address.ofPath_pointerText h]
  rfl

/-! ## Elements -/

theorem elementPath_of_identifier {members : Entries Json} {id : String} (modeluri : String)
    (hobject : isReferenceV2 (.obj members) = false)
    (hid : Entries.get? members "$id" = some (.str id)) :
    elementPath modeluri (.obj members) = .ok (Address.modelPath modeluri id []) := by
  unfold elementPath
  rw [hobject]
  simp only [member, hid, if_false, Bool.false_eq_true]
  rfl

theorem featurePath_of_elementPath {modeluri id : String} {element : Json} (feature : String)
    (h : elementPath modeluri element = .ok (Address.modelPath modeluri id [])) :
    featurePath modeluri element feature = .ok (Address.modelPath modeluri id [feature]) := by
  unfold featurePath
  rw [h]
  simp [Address.modelPath, Text.join, Except.map, String.append_assoc]

/-- The operation that removes what stands at a path. -/
def removeFrom (path : String) : Operation :=
  { action := .remove, path := path }

theorem applyOperation_removeFrom {document : Json} {path : String} {steps : List String}
    {isModelPath : Bool} (h : resolvePath document path = .ok (steps, isModelPath)) :
    applyOperation document (removeFrom path) = remove path steps document := by
  unfold applyOperation removeFrom
  simp only [h, bind, Except.bind]

theorem removeElement_of_elementPath {modeluri path : String} {element : Json}
    (h : elementPath modeluri element = .ok path) :
    removeElement modeluri element = .ok (removeFrom path) := by
  rw [removeElement, h]
  rfl

/-- An element of a document that paths can name: an object that alone bears its identifier,
which is not empty and holds no slash. A reference is named by what it refers to instead. -/
structure IsElement (document : Json) (t : Location) (members : Entries Json) (id : String) :
    Prop where
  here : document.at? t = some (.obj members)
  identifier : Entries.get? members "$id" = some (.str id)
  named : id ≠ ""
  plain : '/' ∉ id.toList
  alone : ∀ l ms, document.at? l = some (.obj ms) → Entries.get? ms "$id" = some (.str id) → l = t
  noReference : isReferenceV2 (.obj members) = false

namespace IsElement

variable {document : Json} {t : Location} {members : Entries Json} {id : String}

/-- **An element is found where it stands.** -/
theorem locate (he : IsElement document t members id) (hd : document.IsDocument) :
    Patch.locate id document = some (t.map Step.token) :=
  locate_of_alone hd.wellFormed he.here he.identifier he.alone

theorem elementPath (he : IsElement document t members id) (modeluri : String) :
    Patch.elementPath modeluri (.obj members) = .ok (Address.modelPath modeluri id []) :=
  elementPath_of_identifier modeluri he.noReference he.identifier

theorem featurePath (he : IsElement document t members id) (modeluri feature : String) :
    Patch.featurePath modeluri (.obj members) feature =
      .ok (Address.modelPath modeluri id [feature]) :=
  featurePath_of_elementPath feature (he.elementPath modeluri)

theorem resolve (he : IsElement document t members id) (hd : document.IsDocument)
    (modeluri : String) {steps : List String} (hsteps : ∀ s ∈ steps, '/' ∉ s.toList) :
    resolvePath document (Address.modelPath modeluri id steps) =
      .ok (t.map Step.token ++ steps, true) :=
  resolvePath_modelPath modeluri he.named (List.forall_mem_cons.2 ⟨he.plain, hsteps⟩)
    (he.locate hd)

end IsElement

end RemoteModel.Patch
