import RemoteModel.Proofs.Json.Census

/-!
# The own features of an element

An element is an object that bears an identifier. Its own features are its members, in which other
elements count by their identifiers alone: what these hold is not its own. `outline` is a value
seen in this way, with one element left out.

**Census.** `featureNotes` notes the own features of each element. What is noted does not change
when a value is written that has the outline of the one before (`steady_features`), when the
element is erased that is left out (`eraseChild_congr`), or when it is added under a new name
(`insert_congr`).
-/

namespace RemoteModel.Json

open scoped List

/-! ## Outlines -/

/-- An element that counts by its identifier alone. -/
def stub (id : String) : Json := .obj [("$id", .str id)]

mutual

/-- What a value holds besides what its elements hold. The element with one identifier is left
out. -/
def outline (a : String) : Json → Option Json
  | .obj ms =>
    match id? ms with
    | some id => if id = a then none else some (stub id)
    | none => some (.obj (features a ms))
  | .arr items => some (.arr (outlineItems a items))
  | v => some v

/-- The own features of an element. -/
def features (a : String) : List (String × Json) → List (String × Json)
  | [] => []
  | (k, v) :: rest =>
    match outline a v with
    | some o => (k, o) :: features a rest
    | none => features a rest

def outlineItems (a : String) : List Json → List Json
  | [] => []
  | v :: rest =>
    match outline a v with
    | some o => o :: outlineItems a rest
    | none => outlineItems a rest

end

variable {a : String} {u v w x : Json} {s : Step} {ms : Entries Json} {name : String}

theorem features_eq (a : String) (ms : Entries Json) :
    features a ms = ms.filterMap fun m => (outline a m.2).map (m.1, ·) := by
  induction ms with
  | nil => rfl
  | cons m rest ih =>
    obtain ⟨k, v⟩ := m
    rw [features, List.filterMap_cons, ih]
    cases outline a v <;> rfl

theorem outlineItems_eq (a : String) (items : List Json) :
    outlineItems a items = items.filterMap (outline a) := by
  induction items with
  | nil => rfl
  | cons v rest ih =>
    rw [outlineItems, List.filterMap_cons, ih]
    cases outline a v <;> rfl

theorem outline_obj (a : String) (ms : Entries Json) :
    outline a (.obj ms) =
      match id? ms with
      | some id => if id = a then none else some (stub id)
      | none => some (.obj (features a ms)) := by
  rw [outline]

theorem outline_of_id? (h : id? ms = some a) : outline a (.obj ms) = none := by
  rw [outline_obj, h]
  exact if_pos rfl

/-- Texts have outlines of their own. -/
theorem sameText_of_outline (h : outline a u = outline a w) : SameText u w := by
  have htext : ∀ v : Json, (outline a v).bind string? = v.string? := by
    intro v
    cases v with
    | obj ms =>
      rw [outline_obj]
      cases id? ms with
      | none => rfl
      | some id =>
        simp only
        split <;> rfl
    | arr items => rw [outline]; rfl
    | _ => rfl
  rw [SameText, ← htext u, ← htext w, h]

/-! ## Changes that keep outlines -/

theorem features_insert (hget : ms.get? name = some u) (h : outline a u = outline a w) :
    features a (ms.insert name w) = features a ms := by
  obtain ⟨front, back, hms, -, hinsert⟩ := Entries.split_of_get? hget
  rw [hinsert, hms, features_eq, features_eq, List.filterMap_append, List.filterMap_append,
    List.filterMap_cons, List.filterMap_cons, h]

theorem features_erase (hget : ms.get? name = some u) (h : outline a u = none) :
    features a (ms.erase name) = features a ms := by
  obtain ⟨front, back, hms, herase, -⟩ := Entries.split_of_get? hget
  rw [herase, hms, features_eq, features_eq, List.filterMap_append, List.filterMap_append,
    List.filterMap_cons, h]
  rfl

theorem features_insert_new (hget : ms.get? name = none) (h : outline a w = none) :
    features a (ms.insert name w) = features a ms := by
  rw [Entries.insert_of_get?_eq_none hget, features_eq, features_eq, List.filterMap_append,
    List.filterMap_cons, h]
  exact List.append_nil _

/-- An element bears no identifier under the name of one of its elements. -/
theorem id?_erase (hd : ms.Distinct) (hget : ms.get? name = some u) (h : u.string? = none) :
    id? (ms.erase name) = id? ms := by
  unfold id?
  by_cases hname : name = "$id"
  · rw [hname] at hget ⊢
    rw [Entries.get?_erase_self hd, hget, Option.bind_none, Option.bind_some, h]
  · rw [Entries.get?_erase_of_ne ms (Ne.symm hname)]

theorem id?_insert_new (hget : ms.get? name = none) (h : w.string? = none) :
    id? (ms.insert name w) = id? ms := by
  unfold id?
  by_cases hname : name = "$id"
  · rw [hname] at hget ⊢
    rw [Entries.get?_insert_self, hget, Option.bind_none, Option.bind_some, h]
  · rw [Entries.get?_insert_of_ne _ _ (Ne.symm hname)]

/-! ## The census of own features -/

/-- Notes the identifier and the own features of an element. -/
def featureNotes (a : String) (ms : Entries Json) : Option (String × Entries Json) :=
  (id? ms).map fun id => (id, features a ms)

theorem outline_congr {ms ms' : Entries Json} (hid : id? ms' = id? ms)
    (hfeatures : features a ms' = features a ms) :
    outline a (.obj ms') = outline a (.obj ms) ∧
      headNote (featureNotes a) (.obj ms') = headNote (featureNotes a) (.obj ms) := by
  refine ⟨?_, ?_⟩
  · rw [outline_obj, outline_obj, hid, hfeatures]
  · simp only [headNote, featureNotes, hid, hfeatures]

theorem setChild_congr (hs : child? v s = some u) (h : outline a u = outline a w) :
    outline a (setChild w v s) = outline a v ∧
      headNote (featureNotes a) (setChild w v s) = headNote (featureNotes a) v := by
  cases v <;> cases s <;> simp only [child?, reduceCtorEq] at hs
  · obtain ⟨front, back, hitems, -, hset⟩ := split_of_getElem? hs
    refine ⟨?_, rfl⟩
    rw [setChild, hset, hitems, outline, outline, outlineItems_eq, outlineItems_eq,
      List.filterMap_append, List.filterMap_append, List.filterMap_cons, List.filterMap_cons, h]
  · exact outline_congr (id?_insert hs (sameText_of_outline h)) (features_insert hs h)

theorem steady_features (a : String) :
    Steady (featureNotes a) fun u w => outline a u = outline a w where
  head hs h := (setChild_congr hs h).2
  container hs h := (setChild_congr hs h).1.symm

theorem eraseChild_congr (hw : v.WellFormed) (hs : child? v s = some x)
    (h : outline a x = none) (htext : x.string? = none) :
    outline a (eraseChild v s) = outline a v ∧
      headNote (featureNotes a) (eraseChild v s) = headNote (featureNotes a) v := by
  cases v <;> cases s <;> simp only [child?, reduceCtorEq] at hs
  · obtain ⟨front, back, hitems, herase, -⟩ := split_of_getElem? hs
    refine ⟨?_, rfl⟩
    rw [eraseChild, herase, hitems, outline, outline, outlineItems_eq, outlineItems_eq,
      List.filterMap_append, List.filterMap_append, List.filterMap_cons, h]
  · exact outline_congr (id?_erase hw.1 hs htext) (features_erase hs h)

/-- The element that is left out does not show in another one. -/
theorem insert_congr {am : Entries Json} (hget : ms.get? name = none) (ha : id? am = some a) :
    outline a (.obj (ms.insert name (.obj am))) = outline a (.obj ms) ∧
      headNote (featureNotes a) (.obj (ms.insert name (.obj am))) =
        headNote (featureNotes a) (.obj ms) :=
  outline_congr (id?_insert_new hget rfl) (features_insert_new hget (outline_of_id? ha))

theorem map_fst_census (a : String) (v : Json) :
    (census (featureNotes a) v).map Prod.fst = v.ids := by
  have hnote : ∀ o : Location × Entries Json, (featureNotes a o.2).map Prod.fst = id? o.2 := by
    intro o
    unfold featureNotes
    cases id? o.2 <;> rfl
  rw [census, List.map_filterMap, ids, census]
  exact List.filterMap_congr fun o _ => hnote o

/-- Where identifiers are distinct an identifier is noted with one list of features. -/
theorem features_eq_of_mem {id : String} {fs fs' : Entries Json} (hids : v.ids.Nodup)
    (h : (id, fs) ∈ census (featureNotes a) v) (h' : (id, fs') ∈ census (featureNotes a) v) :
    fs = fs' := by
  rw [← map_fst_census a] at hids
  exact congrArg Prod.snd (List.inj_on_of_nodup_map hids h h' rfl)

end RemoteModel.Json
