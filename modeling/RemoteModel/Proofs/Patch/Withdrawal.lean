import RemoteModel.Proofs.Json.Equality
import RemoteModel.Proofs.Patch.Additions
import RemoteModel.Proofs.Patch.Removal

/-!
# Removing a value from a feature of an element

The value is looked up in the list that the feature holds, and what is removed is named by its
position. The position is written as the last step of a model path and read again in the document.

**Main statement.** `removeValue_first`: nothing is built exactly if no item of the feature is equal
to the value, and otherwise the first item that is equal is taken out of the list.

* *Position.* Digits are a plain step, so the path leads to the item (`apply_removeFrom_item`).
* *First.* The items before the removed one differ from the value, in the sense of `Json.Equals`
  (`Json.firstEqual_of_indexOf?`).
-/

namespace RemoteModel.Patch

open Json (Location Equals FirstEqual)

variable {document v : Json} {t : Location} {members : Entries Json} {id feature : String}
  {items : List Json}

/-! ## Removing at a position -/

theorem put_feature {u : Json} (w : Json) (ht : document.at? t = some (.obj members))
    (hget : Entries.get? members feature = some u) :
    Json.put w (t ++ [.member feature]) document =
      Json.put (.obj (Entries.insert members feature w)) t document := by
  have hchild : (Json.obj members).child? (.member feature) = some u := hget
  rw [Json.put_append w _ ht, Json.put_cons w [] hchild]
  rfl

/-- The path of a position of a feature leads to the item there. -/
theorem apply_removeFrom_item {front back : List Json} {x : Json}
    (he : IsElement document t members id) (hd : document.IsDocument)
    (hfeature : '/' ∉ feature.toList) (modeluri : String)
    (hget : Entries.get? members feature = some (.arr (front ++ x :: back))) :
    ∃ result, apply document
        [removeFrom (Address.modelPath modeluri id [feature, toString front.length])] = .ok result ∧
      HasFeature document t members feature (.arr (front ++ back)) result := by
  have hsteps : ∀ s ∈ [feature, toString front.length], '/' ∉ s.toList :=
    List.forall_mem_cons.2
      ⟨hfeature, List.forall_mem_singleton.2 (Text.not_mem_toString (by decide) _)⟩
  have hlist : document.at? (t ++ [.member feature]) = some (.arr (front ++ x :: back)) := by
    rw [Json.at?_append, he.here, Option.bind_some, Json.at?_cons, Json.child?, hget]
    rfl
  have hitem : Json.child? (.arr (front ++ x :: back)) (.item front.length) = some x := by
    simp [Json.child?]
  have herase : Json.eraseChild (.arr (front ++ x :: back)) (.item front.length) =
      .arr (front ++ back) := by
    simp [Json.eraseChild, List.eraseIdx_append_of_length_le]
  have hremove := remove_child (Address.modelPath modeluri id [feature, toString front.length])
    hd hlist hitem
  rw [herase, put_feature _ he.here hget, List.append_assoc, List.map_append] at hremove
  refine ⟨_, apply_singleton ?_, hasFeature_put _ he.here⟩
  rw [applyOperation_removeFrom (he.resolve hd modeluri hsteps)]
  exact hremove

/-! ## Removing a value -/

theorem removeValue_of_list (he : IsElement document t members id) (modeluri : String) (v : Json)
    (hget : Entries.get? members feature = some (.arr items)) :
    removeValue modeluri (.obj members) feature v =
      .ok ((Json.indexOf? v items).map fun i =>
        removeFrom (Address.modelPath modeluri id [feature, toString i])) := by
  cases hindex : Json.indexOf? v items with
  | none => simp only [removeValue, hget, hindex, Option.map_none]
  | some i =>
    simp only [removeValue, hget, hindex, Option.map_some, Except.map,
      removeAt_of_elementPath feature i (he.elementPath modeluri)]

theorem removeValue_of_not_list (modeluri : String) (v : Json)
    (h : ∀ items, Entries.get? members feature ≠ some (.arr items)) :
    removeValue modeluri (.obj members) feature v = .ok none := by
  cases hget : Entries.get? members feature with
  | none => simp only [removeValue, hget]
  | some w =>
    cases w with
    | arr items => exact absurd hget (h items)
    | _ => simp only [removeValue, hget]

theorem regular_items (he : IsElement document t members id) (hr : document.Regular)
    (hget : Entries.get? members feature = some (.arr items)) : (Json.arr items).Regular :=
  (hr.at? he.here).member (Entries.mem_of_get? hget)

theorem removeValue_eq_none_iff (he : IsElement document t members id) (hr : document.Regular)
    (modeluri : String) (hv : v.Regular) (hnan : .nan ∉ v.doubles) :
    removeValue modeluri (.obj members) feature v = .ok none ↔
      ¬ ∃ items x, Entries.get? members feature = some (.arr items) ∧ x ∈ items ∧
        Equals x v := by
  by_cases hlist : ∃ items, Entries.get? members feature = some (.arr items)
  · obtain ⟨items, hget⟩ := hlist
    rw [removeValue_of_list he modeluri v hget, Except.ok.injEq, Option.map_eq_none_iff,
      Json.indexOf?_eq_none_iff (regular_items he hr hget) hv hnan]
    simp [hget]
  · refine iff_of_true (removeValue_of_not_list modeluri v (not_exists.1 hlist)) ?_
    rintro ⟨items, -, hget, -⟩
    exact hlist ⟨items, hget⟩

/-- **Removing a value from a feature.** Nothing is built exactly if the feature holds no list with
an item that is equal to the value. Otherwise the first such item is taken out of the list, and all
other items and all locations apart from the feature stay. -/
theorem removeValue_first (he : IsElement document t members id) (hd : document.IsDocument)
    (hr : document.Regular) (hfeature : '/' ∉ feature.toList) (modeluri : String) (hv : v.Regular)
    (hnan : .nan ∉ v.doubles) :
    (removeValue modeluri (.obj members) feature v = .ok none ↔
      ¬ ∃ items x, Entries.get? members feature = some (.arr items) ∧ x ∈ items ∧ Equals x v) ∧
    ∀ items x, Entries.get? members feature = some (.arr items) → x ∈ items → Equals x v →
      ∃ o front first back result,
        removeValue modeluri (.obj members) feature v = .ok (some o) ∧
          apply document [o] = .ok result ∧ FirstEqual v items front first back ∧
          HasFeature document t members feature (.arr (front ++ back)) result := by
  refine ⟨removeValue_eq_none_iff he hr modeluri hv hnan, ?_⟩
  intro items x hget hx hequals
  obtain ⟨front, first, back, hfirst, hindex⟩ :=
    Json.exists_firstEqual (regular_items he hr hget) hv hnan hx hequals
  have hbuilt := removeValue_of_list he modeluri v hget
  rw [hindex] at hbuilt
  rw [hfirst.split] at hget
  obtain ⟨result, happly, hhas⟩ := apply_removeFrom_item he hd hfeature modeluri hget
  exact ⟨_, front, first, back, result, hbuilt, happly, hfirst, hhas⟩

/-- A tagged element: a text, a truth value and a number. -/
def tagged : Entries Json := [("$id", .str "m"), ("tags", .arr [.str "1", .bool true, .int 1])]

/-- One, as a double. -/
def one : Double := .finite false (2 ^ 52) (-52)

theorem one_isCanonical : one.IsCanonical where
  lt := by decide
  least := by decide
  greatest := by decide
  full _ := Nat.le_refl _

theorem tagged_isDocument : (Json.obj tagged).IsDocument := by
  have hthree : 3 ≤ Text.numeralBound := Text.le_numeralBound (by decide)
  refine ⟨?_, ?_⟩
  · simp [tagged, Json.WellFormed, Json.WellFormedItems, Json.WellFormedMembers, Entries.Distinct,
      Entries.names]
  · simp [tagged, Json.Indexable, Json.IndexableItems, Json.IndexableMembers, hthree]

theorem tagged_regular : (Json.obj tagged).Regular where
  wellFormed := tagged_isDocument.wellFormed
  canonical := by simp [tagged, Json.doubles, Json.doublesOfMembers, Json.doublesOfItems]

theorem tagged_isElement : IsElement (.obj tagged) [] tagged "m" where
  here := rfl
  identifier := rfl
  named := by decide
  plain := by decide
  alone := by
    intro l ms hl _
    have hmem := (Json.mem_objects_iff tagged_isDocument.wellFormed).2 hl
    have hall : ∀ o ∈ (Json.obj tagged).objects, o.1 = [] := by decide
    exact hall _ hmem
  noReference := by decide

/-- Of a text, a truth value and a number that all look like a one, the truth value is the first
that is equal to `1.0`. -/
theorem removeValue_first_tagged :
    IsElement (.obj tagged) [] tagged "m" ∧ (Json.obj tagged).IsDocument ∧
      (Json.obj tagged).Regular ∧ '/' ∉ "tags".toList ∧ (Json.float one).Regular ∧
      .nan ∉ (Json.float one).doubles ∧
      ∃ o front first back result,
        removeValue "m.ecore" (.obj tagged) "tags" (.float one) = .ok (some o) ∧
          apply (.obj tagged) [o] = .ok result ∧
          FirstEqual (.float one) [.str "1", .bool true, .int 1] front first back ∧
          HasFeature (.obj tagged) [] tagged "tags" (.arr (front ++ back)) result := by
  have hplain : '/' ∉ "tags".toList := by decide
  have hv : (Json.float one).Regular := ⟨trivial, List.forall_mem_singleton.2 one_isCanonical⟩
  have hnan : .nan ∉ (Json.float one).doubles := by decide
  have hequals : Equals (.bool true) (.float one) := by
    refine .number rfl (congrArg some (congrArg Quantity.rational ?_))
    norm_num [Double.signed, Json.bit]
  exact ⟨tagged_isElement, tagged_isDocument, tagged_regular, hplain, hv, hnan,
    (removeValue_first tagged_isElement tagged_isDocument tagged_regular hplain "m.ecore" hv
      hnan).2 _ (.bool true) rfl (by simp) hequals⟩

end RemoteModel.Patch
