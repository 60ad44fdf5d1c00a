import RemoteModel.Proofs.Patch.Containment

/-!
# Adding to a feature of an element

A new object, or a reference to an element, is added to a feature of an element by its model path.
Such a path does not tell whether the feature holds a list; the document does.

**One value.** `grown`: a list has the added value behind its items, and anything else, or nothing,
gives way to it. This is what the last step of a model path does to an object (`addEntry_member`),
and the steps before it lead to the element wherever it stands.

**Main statement.** `apply_additions`: both operations are built and apply, the feature has grown by
the value, and all locations apart from the feature hold what they held (`HasFeature`).
-/

namespace RemoteModel.Patch

open Json (Location Apart)

variable {document : Json} {t : Location} {members element : Entries Json} {id feature : String}

/-! ## The value of the feature -/

/-- What a feature holds after a value has been added to it: the list with the value at its end, or
the value itself. -/
def grown (v : Json) : Option Json → Json
  | some (.arr items) => .arr (items ++ [v])
  | _ => v

theorem addEntry_member (path feature : String) (v : Json) (members : Entries Json) :
    addEntry path true feature v (.obj members) =
      .ok (.obj (Entries.insert members feature (grown v (Entries.get? members feature)))) := by
  cases hget : Entries.get? members feature with
  | none => simp only [addEntry, hget, grown]
  | some w => cases w <;> simp only [addEntry, hget, grown]

/-- A document in which an element has a value under a feature: its other features and all
locations apart from the feature hold what they held before. -/
structure HasFeature (document : Json) (t : Location) (members : Entries Json) (feature : String)
    (w result : Json) : Prop where
  here : result.at? t = some (.obj (Entries.insert members feature w))
  frame : ∀ l, Apart (t ++ [.member feature]) l → result.at? l = document.at? l

theorem hasFeature_put (w : Json) (ht : document.at? t = some (.obj members)) :
    HasFeature document t members feature w
      (Json.put (.obj (Entries.insert members feature w)) t document) where
  here := Json.at?_put_self _ ht
  frame _ hl := Json.at?_put_setChild w ht hl

/-- **Adding at the path of a feature.** The value goes to the feature of the element that bears
the identifier, and nothing else changes. -/
theorem apply_addTo_feature (he : IsElement document t members id) (hd : document.IsDocument)
    (hfeature : '/' ∉ feature.toList) (modeluri : String) (v : Json) :
    ∃ result, apply document [addTo v (Address.modelPath modeluri id [feature])] = .ok result ∧
      HasFeature document t members feature (grown v (Entries.get? members feature)) result := by
  have hresolve := he.resolve hd modeluri (List.forall_mem_singleton.2 hfeature)
  refine ⟨_, apply_singleton ?_, hasFeature_put _ he.here⟩
  rw [applyOperation_addTo, hresolve, Except.bind, add, edit_concat]
  exact update_tokens hd he.here (addEntry_member _ feature v members)

/-! ## What is added -/

/-- The type of an element, and how a reference to it names it. A reference is passed on; of any
other object the identifier is written as plain text. -/
inductive RefersTo (element : Entries Json) : Json → String → Prop
  | reference {type target : String} (htype : Entries.get? element typeTagV2 = some (.str type))
      (href : Entries.get? element "$ref" = some (.str target)) :
      RefersTo element (.str type) target
  | object {type id : Json} (hobject : isReferenceV2 (.obj element) = false)
      (htype : Entries.get? element typeTagV2 = some type)
      (hid : Entries.get? element "$id" = some id) : RefersTo element type (Json.Display.shown id)

theorem RefersTo.type {type : Json} {target : String} (h : RefersTo element type target) :
    Entries.get? element typeTagV2 = some type := by
  cases h with
  | reference htype _ => exact htype
  | object _ htype _ => exact htype

theorem isReferenceV2_iff :
    isReferenceV2 (.obj element) = true ↔
      (∃ type, Entries.get? element typeTagV2 = some (.str type)) ∧
        ∃ target, Entries.get? element "$ref" = some (.str target) := by
  rw [isReferenceV2, Bool.and_eq_true, Json.hasString_iff, Json.hasString_iff]
  rfl

theorem RefersTo.elementPath {type : Json} {target : String} (h : RefersTo element type target)
    (modeluri : String) :
    Patch.elementPath modeluri (.obj element) =
      .ok (String.ofList (Address.base modeluri) ++ "#" ++ target) := by
  cases h with
  | reference htype href =>
    obtain ⟨target', href', hpath⟩ :=
      elementPath_of_reference modeluri (isReferenceV2_iff.2 ⟨⟨_, htype⟩, _, href⟩)
    cases href.symm.trans href'
    exact hpath
  | object hobject _ hid =>
    unfold Patch.elementPath
    rw [hobject]
    simp only [member, hid, if_false, Bool.false_eq_true]
    rfl

/-- **Additions.** Creating an object and adding a reference apply for every feature of an element:
the feature gains the new object with its type and attributes, or a reference with the type and the
path of the element that is referred to. -/
theorem apply_additions (he : IsElement document t members id) (hd : document.IsDocument)
    (hfeature : '/' ∉ feature.toList) (modeluri : String) :
    (∀ type attributes, ∃ o result,
      create modeluri (.obj members) feature type attributes = .ok o ∧
        apply document [o] = .ok result ∧
        HasFeature document t members feature
          (grown (.obj (Entries.merge [(typeTagV2, .str type)] attributes))
            (Entries.get? members feature)) result) ∧
    ∀ element type target, RefersTo element type target → ∃ o result,
      addReference modeluri (.obj members) feature (.obj element) = .ok o ∧
        apply document [o] = .ok result ∧
        HasFeature document t members feature
          (grown (.obj [(typeTagV2, type),
              ("$id", .str (String.ofList (Address.base modeluri) ++ "#" ++ target))])
            (Entries.get? members feature)) result := by
  refine ⟨?_, ?_⟩
  · intro type attributes
    obtain ⟨result, happly, hhas⟩ := apply_addTo_feature he hd hfeature modeluri
      (.obj (Entries.merge [(typeTagV2, .str type)] attributes))
    refine ⟨_, result, ?_, happly, hhas⟩
    rw [create, he.featurePath]
    rfl
  · intro element type target hrefers
    obtain ⟨result, happly, hhas⟩ := apply_addTo_feature he hd hfeature modeluri
      (.obj [(typeTagV2, type),
        ("$id", .str (String.ofList (Address.base modeluri) ++ "#" ++ target))])
    refine ⟨_, result, ?_, happly, hhas⟩
    unfold addReference
    simp only [member, hrefers.type, hrefers.elementPath modeluri, he.featurePath, bind,
      Except.bind]
    rfl

/-- A gear gets a second tooth, and its name gives way to a reference to another part. -/
theorem apply_additions_machine :
    IsElement machine [.member "parts", .item 1] gear "#~1" ∧ machine.IsDocument ∧
      (∃ o result, create "m.ecore#x" (.obj gear) "teeth" "Tooth" [("size", .int 2)] = .ok o ∧
        apply machine [o] = .ok result ∧
        result.at? [.member "parts", .item 1] = some (.obj
          [("$id", .str "#~1"), ("name", .str "x"),
            ("teeth", .arr [.int 1, .obj [("$type", .str "Tooth"), ("size", .int 2)]])])) ∧
      ∃ o result, addReference "m.ecore#x" (.obj gear) "name"
          (.obj [("$type", .str "Part"), ("$id", .str "a")]) = .ok o ∧
        apply machine [o] = .ok result ∧
        result.at? [.member "parts", .item 1] = some (.obj
          [("$id", .str "#~1"),
            ("name", .obj [("$type", .str "Part"), ("$id", .str "m.ecore#a")]),
            ("teeth", .arr [.int 1])]) := by
  have hplain : '/' ∉ "teeth".toList ∧ '/' ∉ "name".toList := by decide
  have hteeth := apply_additions machine_isElement machine_isDocument hplain.1 "m.ecore#x"
  have hname := apply_additions machine_isElement machine_isDocument hplain.2 "m.ecore#x"
  obtain ⟨o, result, hcreate, happly, hhas⟩ := hteeth.1 "Tooth" [("size", .int 2)]
  have hid : Entries.get? [("$type", .str "Part"), ("$id", .str "a")] "$id" =
    some (Json.str "a") := rfl
  obtain ⟨o', result', hadd, happly', hhas'⟩ := hname.2 _ _ _ (.object rfl rfl hid)
  refine ⟨machine_isElement, machine_isDocument, ⟨o, result, hcreate, happly, ?_⟩,
    o', result', hadd, happly', ?_⟩
  · exact hhas.here
  · exact hhas'.here

end RemoteModel.Patch
