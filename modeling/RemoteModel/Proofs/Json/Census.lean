import Mathlib.Data.List.Nodup
import Mathlib.Data.List.Pairwise
import Mathlib.Data.List.Perm.Basic
import RemoteModel.Proofs.Json.Containers
import RemoteModel.Proofs.Json.Objects

/-!
# A census of the objects in a value

`census note v` lists what a function notes of the objects inside a value, in document order.

**Changes.** The census of a value is that of a part of it and that of the rest, up to the order
(`census_child`). Writing to the part leaves the rest as it is, as long as nothing changes that is
noted of the containers around it (`Steady`, `census_put`).

**Identifiers.** `ids` lists the identifiers that objects bear. Where they are distinct an
identifier stands at one location (`eq_of_nodup_ids`).
-/

namespace RemoteModel.Json

open scoped List

variable {β : Type} {note : Entries Json → Option β}

/-- What is noted of the objects inside a value. -/
def census (note : Entries Json → Option β) (v : Json) : List β :=
  (objects v).filterMap fun o => note o.2

/-- What is noted of a value itself. -/
def headNote (note : Entries Json → Option β) : Json → List β
  | .obj ms => (note ms).toList
  | _ => []

theorem filterMap_under (note : Entries Json → Option β) (s : Step)
    (os : List (Location × Entries Json)) :
    ((os.map (under s)).filterMap fun o => note o.2) = os.filterMap fun o => note o.2 := by
  rw [List.filterMap_map]
  rfl

theorem filterMap_objectsOfMembers (note : Entries Json → Option β) (ms : Entries Json) :
    ((objectsOfMembers ms).filterMap fun o => note o.2) = ms.flatMap fun m => census note m.2 := by
  induction ms with
  | nil => rfl
  | cons m rest ih =>
    obtain ⟨k, v⟩ := m
    rw [objectsOfMembers, List.filterMap_append, filterMap_under, ih, List.flatMap_cons]
    rfl

theorem filterMap_objectsOfItems (note : Entries Json → Option β) (n : Nat) (items : List Json) :
    ((objectsOfItems n items).filterMap fun o => note o.2) = items.flatMap (census note) := by
  induction items generalizing n with
  | nil => rfl
  | cons v rest ih =>
    rw [objectsOfItems, List.filterMap_append, filterMap_under, ih, List.flatMap_cons]
    rfl

theorem census_obj (note : Entries Json → Option β) (ms : Entries Json) :
    census note (.obj ms) = headNote note (.obj ms) ++ ms.flatMap fun m => census note m.2 := by
  rw [census, objects, List.filterMap_cons, filterMap_objectsOfMembers]
  simp only [headNote]
  cases note ms <;> rfl

theorem census_arr (note : Entries Json → Option β) (items : List Json) :
    census note (.arr items) = items.flatMap (census note) := by
  rw [census, objects, filterMap_objectsOfItems]

theorem mem_census_iff {v : Json} {b : β} (hw : v.WellFormed) :
    b ∈ census note v ↔ ∃ l ms, v.at? l = some (.obj ms) ∧ note ms = some b := by
  rw [census, List.mem_filterMap]
  constructor
  · rintro ⟨⟨l, ms⟩, hmem, hnote⟩
    exact ⟨l, ms, (mem_objects_iff hw).1 hmem, hnote⟩
  · rintro ⟨l, ms, hl, hnote⟩
    exact ⟨(l, ms), (mem_objects_iff hw).2 hl, hnote⟩

/-! ## Parts -/

theorem perm_part {α : Type} (front middle back : List α) :
    front ++ (middle ++ back) ~ (front ++ back) ++ middle := by
  rw [List.append_assoc]
  exact List.perm_append_comm.append_left front

/-- **A child and the rest.** The rest is the same whatever stands in the place of the child, and
when it is erased. -/
theorem census_child {v x : Json} {s : Step} (note : Entries Json → Option β)
    (h : child? v s = some x) :
    ∃ rest, census note v ~ headNote note v ++ (rest ++ census note x) ∧
      (∀ w, census note (setChild w v s) ~
        headNote note (setChild w v s) ++ (rest ++ census note w)) ∧
      census note (eraseChild v s) ~ headNote note (eraseChild v s) ++ rest := by
  cases v <;> cases s <;> simp only [child?, reduceCtorEq] at h
  · obtain ⟨front, back, hitems, herase, hset⟩ := split_of_getElem? h
    refine ⟨front.flatMap (census note) ++ back.flatMap (census note), ?_, fun w => ?_, ?_⟩
    · rw [hitems, census_arr, List.flatMap_append, List.flatMap_cons]
      exact perm_part _ _ _
    · rw [setChild, hset, census_arr, List.flatMap_append, List.flatMap_cons]
      exact perm_part _ _ _
    · rw [eraseChild, herase, census_arr, List.flatMap_append]
      exact .refl _
  · obtain ⟨front, back, hmembers, herase, hinsert⟩ := Entries.split_of_get? h
    refine ⟨(front.flatMap fun m => census note m.2) ++ back.flatMap fun m => census note m.2,
      ?_, fun w => ?_, ?_⟩
    · rw [hmembers, census_obj, List.flatMap_append, List.flatMap_cons]
      exact (perm_part _ _ _).append_left _
    · rw [setChild, hinsert, census_obj, List.flatMap_append, List.flatMap_cons]
      exact (perm_part _ _ _).append_left _
    · rw [eraseChild, herase, census_obj, List.flatMap_append]

/-- A relation of values that can stand for one another: what is noted of a container does not
change, and the containers can stand for one another, too. -/
structure Steady (note : Entries Json → Option β) (R : Json → Json → Prop) : Prop where
  head {v u w : Json} {s : Step} (h : child? v s = some u) (hR : R u w) :
    headNote note (setChild w v s) = headNote note v
  container {v u w : Json} {s : Step} (h : child? v s = some u) (hR : R u w) :
    R v (setChild w v s)

/-- **A part and the rest.** Writing to a part leaves the census of the rest as it is. -/
theorem census_put {R : Json → Json → Prop} (hS : Steady note R) {l : Location} {v u w : Json}
    (h : at? l v = some u) (hR : R u w) :
    R v (put w l v) ∧ ∃ rest, census note v ~ rest ++ census note u ∧
      census note (put w l v) ~ rest ++ census note w := by
  induction l generalizing v with
  | nil =>
    cases Option.some.inj h
    exact ⟨hR, [], .refl _, .refl _⟩
  | cons s l ih =>
    rw [at?_cons, Option.bind_eq_some_iff] at h
    obtain ⟨x, hx, hl⟩ := h
    obtain ⟨hR', rest, hbefore, hafter⟩ := ih hl
    obtain ⟨around, hv, hset, -⟩ := census_child note hx
    rw [put_cons w l hx]
    refine ⟨hS.container hx hR', headNote note v ++ around ++ rest, ?_, ?_⟩
    · simp only [List.append_assoc]
      exact hv.trans ((hbefore.append_left around).append_left _)
    · have hset' := hset (put w l x)
      rw [hS.head hx hR'] at hset'
      simp only [List.append_assoc]
      exact hset'.trans ((hafter.append_left around).append_left _)

theorem census_insert_new {ms : Entries Json} {name : String} {w : Json}
    (hget : ms.get? name = none) (hhead : headNote note (.obj (ms.insert name w)) =
      headNote note (.obj ms)) :
    census note (.obj (ms.insert name w)) = census note (.obj ms) ++ census note w := by
  rw [census_obj, hhead, Entries.insert_of_get?_eq_none hget, census_obj, List.flatMap_append,
    List.flatMap_singleton, List.append_assoc]

/-! ## Identifiers -/

/-- The identifier that an object bears. -/
def id? (ms : Entries Json) : Option String := (ms.get? "$id").bind string?

theorem id?_eq_some {ms : Entries Json} {id : String} :
    id? ms = some id ↔ ms.get? "$id" = some (.str id) := by
  unfold id?
  cases ms.get? "$id" with
  | none => simp
  | some v => cases v <;> simp [string?]

/-- The identifiers that the objects inside a value bear. -/
def ids (v : Json) : List String := census id? v

/-- Distinct identifiers stand at one location each. -/
theorem eq_of_nodup_ids {v : Json} {l l' : Location} {ms ms' : Entries Json} {id : String}
    (hw : v.WellFormed) (hids : v.ids.Nodup) (hl : v.at? l = some (.obj ms))
    (hid : id? ms = some id) (hl' : v.at? l' = some (.obj ms')) (hid' : id? ms' = some id) :
    l = l' := by
  have hpairwise := List.pairwise_filterMap.1 hids
  have hsymmetric : Std.Symm fun o o' : Location × Entries Json =>
      ∀ b, id? o.2 = some b → ∀ b', id? o'.2 = some b' → b ≠ b' :=
    ⟨fun _ _ h b hb b' hb' heq => h b' hb' b hb heq.symm⟩
  by_cases heq : ((l, ms) : Location × Entries Json) = (l', ms')
  · exact congrArg Prod.fst heq
  · have hne := hpairwise.forall ((mem_objects_iff hw).2 hl)
      ((mem_objects_iff hw).2 hl') heq id hid id hid'
    exact absurd rfl hne

/-- A text stands only for itself. -/
def SameText (u w : Json) : Prop := u.string? = w.string?

theorem id?_insert {ms : Entries Json} {name : String} {u w : Json}
    (h : ms.get? name = some u) (hR : SameText u w) : id? (ms.insert name w) = id? ms := by
  unfold id?
  by_cases hname : name = "$id"
  · rw [hname] at h ⊢
    rw [Entries.get?_insert_self, h, Option.bind_some, Option.bind_some, hR]
  · rw [Entries.get?_insert_of_ne _ _ (Ne.symm hname)]

theorem steady_ids : Steady id? SameText where
  head {v u w s} h hR := by
    cases v <;> cases s <;> simp only [child?, reduceCtorEq] at h
    · rfl
    · exact congrArg Option.toList (id?_insert h hR)
  container {v u w s} h _ := by
    cases v <;> cases s <;> simp only [child?, reduceCtorEq] at h <;> rfl

end RemoteModel.Json
