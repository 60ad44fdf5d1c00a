import Mathlib.Data.List.Perm.Subperm
import RemoteModel.Json.Equality
import RemoteModel.Proofs.Json.ReadValue
import RemoteModel.Proofs.Number.Quantity

/-!
# What equal values are

`Json.equal` decides whether two values are equal, and `Equals` says what that is: numbers are
equal when they are the same quantity, however they are held; lists are equal item by item, and
objects when they have the same names with equal values.

**Main statement.** `equal_iff`: a value is equal to one without `nan` exactly by these rules.

* *Numbers* are compared as integers, truth values or doubles, and each of these comparisons is
  one of quantities (`equal_number_iff`).
* *Not a number.* Inside lists and objects a `nan` is taken for another one. This does not happen
  beside a value that holds none.
-/

namespace RemoteModel.Json

variable {u v : Json} {us vs : List Json} {ms ns : Entries Json} {q : Quantity} {n : Int}

/-- The quantity of a number; a truth value counts as zero or one. -/
def quantity? : Json → Option Quantity
  | .bool b => some (.rational (bit b))
  | .int n => some (.rational n)
  | .float x => x.quantity?
  | _ => none

/-- Two values are equal. -/
inductive Equals : Json → Json → Prop
  | null : Equals .null .null
  | text (s : String) : Equals (.str s) (.str s)
  | number {u v : Json} {q : Quantity} (hu : u.quantity? = some q) (hv : v.quantity? = some q) :
      Equals u v
  | list {us vs : List Json} (h : List.Forall₂ Equals us vs) : Equals (.arr us) (.arr vs)
  | object {ms ns : Entries Json} (hnames : ∀ name, name ∈ ms.names ↔ name ∈ ns.names)
      (h : ∀ name u v, ms.get? name = some u → ns.get? name = some v → Equals u v) :
      Equals (.obj ms) (.obj ns)

mutual

/-- The doubles inside a value. -/
def doubles : Json → List Double
  | .float x => [x]
  | .arr items => doublesOfItems items
  | .obj members => doublesOfMembers members
  | _ => []

def doublesOfItems : List Json → List Double
  | [] => []
  | v :: rest => doubles v ++ doublesOfItems rest

def doublesOfMembers : List (String × Json) → List Double
  | [] => []
  | (_, v) :: rest => doubles v ++ doublesOfMembers rest

end

theorem doubles_arr (vs : List Json) : (arr vs).doubles = vs.flatMap doubles := by
  rw [doubles]
  induction vs with
  | nil => rfl
  | cons v rest ih => rw [doublesOfItems, ih, List.flatMap_cons]

theorem doubles_obj (ms : Entries Json) : (obj ms).doubles = ms.flatMap fun m => m.2.doubles := by
  rw [doubles]
  induction ms with
  | nil => rfl
  | cons m rest ih => rw [doublesOfMembers, ih, List.flatMap_cons]

theorem doubles_item (h : v ∈ vs) : v.doubles ⊆ (arr vs).doubles := by
  rw [doubles_arr]
  exact fun x hx => List.mem_flatMap.2 ⟨v, h, hx⟩

theorem doubles_member {m : String × Json} (h : m ∈ ms) : m.2.doubles ⊆ (obj ms).doubles := by
  rw [doubles_obj]
  exact fun x hx => List.mem_flatMap.2 ⟨m, h, hx⟩

/-- What holds of every value in a memory: members of an object have distinct names, and doubles
are in canonical form. -/
structure Regular (v : Json) : Prop where
  wellFormed : v.WellFormed
  canonical : ∀ x ∈ v.doubles, x.IsCanonical

theorem canonical_of_faithful (h : v.Faithful) : ∀ x ∈ v.doubles, x.IsCanonical := by
  induction v using induct with
  | float x => exact List.forall_mem_singleton.2 h
  | arr vs ih =>
    intro x hx
    rw [doubles_arr] at hx
    obtain ⟨v, hv, hx⟩ := List.mem_flatMap.1 hx
    exact ih v hv (faithfulItems_iff.1 h v hv) x hx
  | obj ms ih =>
    intro x hx
    rw [doubles_obj] at hx
    obtain ⟨m, hm, hx⟩ := List.mem_flatMap.1 hx
    exact ih m hm (faithfulMembers_iff.1 h m hm) x hx
  | _ => exact fun x hx => nomatch hx

theorem regular_of_read {text : String} (h : read text = .ok v) : v.Regular :=
  ⟨wellFormed_of_read h, canonical_of_faithful (of_read h).2⟩

theorem Regular.item (h : (arr vs).Regular) (hv : v ∈ vs) : v.Regular :=
  ⟨wellFormedItems_iff.1 h.wellFormed v hv, fun x hx => h.canonical x (doubles_item hv hx)⟩

theorem Regular.member {m : String × Json} (h : (obj ms).Regular) (hm : m ∈ ms) : m.2.Regular :=
  ⟨wellFormedMembers_iff.1 h.wellFormed.2 m hm, fun x hx => h.canonical x (doubles_member hm hx)⟩

theorem Regular.child {s : Step} (h : v.Regular) (hs : child? v s = some u) : u.Regular := by
  cases v <;> cases s <;> simp only [child?, reduceCtorEq] at hs
  · exact h.item (List.mem_of_getElem? hs)
  · exact h.member (Entries.mem_of_get? hs)

theorem Regular.at? {l : Location} (h : v.Regular) (hl : Json.at? l v = some u) : u.Regular :=
  at?_inherits (fun _ _ _ => Regular.child) h hl

/-! ## Numbers -/

theorem integral?_iff : v.integral? = some n ↔ v.quantity? = some (.rational n) := by
  cases v with
  | float x => exact Double.toInt?_iff
  | bool b => simp [integral?, quantity?]
  | int i => simp [integral?, quantity?]
  | _ => simp [integral?, quantity?]

theorem equals_number_iff (hu : u.quantity? = some q) : Equals u v ↔ v.quantity? = some q := by
  refine ⟨fun h => ?_, .number hu⟩
  cases h with
  | number hu' hv => rwa [← hu, hu']
  | _ => cases hu

theorem equal_double_iff {x : Double} (hx : x.quantity? = some q) (hv : ∀ y, v ≠ .float y) :
    (x.toInt?.isSome && v.integral? == x.toInt?) = true ↔ v.quantity? = some q := by
  cases hi : x.toInt? with
  | some i =>
    have hq : Quantity.rational i = q := Option.some.inj ((Double.toInt?_iff.1 hi).symm.trans hx)
    simp only [Option.isSome_some, Bool.true_and, beq_iff_eq, integral?_iff, hq]
  | none =>
    simp only [Option.isSome_none, Bool.false_and, Bool.false_eq_true, false_iff]
    intro hq
    obtain ⟨n, rfl⟩ : ∃ n : Int, q = .rational n := by
      cases v with
      | float y => exact absurd rfl (hv y)
      | bool b => exact ⟨bit b, (Option.some.inj hq).symm⟩
      | int n => exact ⟨n, (Option.some.inj hq).symm⟩
      | _ => cases hq
    exact absurd (Double.toInt?_iff.2 hx) (by simp [hi])

theorem equal_number_iff (hu : u.Regular) (hv : v.Regular) (hq : u.quantity? = some q) :
    u.equal v = true ↔ v.quantity? = some q := by
  cases u with
  | bool b => rw [equal, beq_iff_eq, integral?_iff, ← hq]; rfl
  | int n => rw [equal, beq_iff_eq, integral?_iff, ← hq]; rfl
  | float x =>
    cases v with
    | float y =>
      have hcanonical : x.IsCanonical ∧ y.IsCanonical :=
        ⟨hu.canonical x List.mem_cons_self, hv.canonical y List.mem_cons_self⟩
      have hx : x.quantity? = some q := hq
      rw [equal, Double.same_iff hcanonical.1 hcanonical.2]
      simp [hx, quantity?]
    | _ => exact equal_double_iff hq (by simp)
  | _ => cases hq

/-! ## Containers -/

theorem bothNan_eq_false (hv : .nan ∉ v.doubles) (u : Json) : bothNan u v = false := by
  unfold bothNan
  split
  · exact absurd List.mem_cons_self hv
  · rfl

theorem equalItems_iff (h : ∀ u ∈ us, ∀ v ∈ vs, (bothNan u v || u.equal v) = true ↔ Equals u v) :
    equalItems us vs = true ↔ List.Forall₂ Equals us vs := by
  induction us generalizing vs with
  | nil => cases vs <;> simp [equalItems]
  | cons u us ih =>
    cases vs with
    | nil => simp [equalItems]
    | cons v vs =>
      have hrest := ih fun u hu v hv =>
        h u (List.mem_cons_of_mem _ hu) v (List.mem_cons_of_mem _ hv)
      rw [equalItems, Bool.and_eq_true, h u List.mem_cons_self v List.mem_cons_self, hrest,
        List.forall₂_cons]

theorem equalMembers_iff (h : ∀ m ∈ ms, ∀ v, ns.get? m.1 = some v →
      ((bothNan m.2 v || m.2.equal v) = true ↔ Equals m.2 v)) :
    equalMembers ms ns = true ↔ ∀ m ∈ ms, ∃ v, Entries.get? ns m.1 = some v ∧ Equals m.2 v := by
  induction ms with
  | nil => simp [equalMembers]
  | cons m rest ih =>
    obtain ⟨hm, hrest⟩ := List.forall_mem_cons.1 h
    obtain ⟨k, u⟩ := m
    rw [equalMembers, Bool.and_eq_true, ih hrest, List.forall_mem_cons]
    refine and_congr_left fun _ => ?_
    cases hget : ns.get? k with
    | none => simp
    | some v => simpa using hm v hget

theorem equals_list_iff : Equals (.arr us) (.arr vs) ↔ List.Forall₂ Equals us vs := by
  refine ⟨fun h => ?_, .list⟩
  cases h with
  | number hu _ => cases hu
  | list h => exact h

/-- Objects with as many members have the same names if the one has all names of the other. -/
theorem names_iff_of_subset (hms : ms.Distinct) (hlength : ms.length = ns.length)
    (h : ms.names ⊆ ns.names) (name : String) : name ∈ ms.names ↔ name ∈ ns.names := by
  have hle : ns.names.length ≤ ms.names.length := by simp [Entries.names, hlength]
  exact ((hms.subperm h).perm_of_length_le hle).mem_iff

theorem length_eq_of_names (hms : ms.Distinct) (hns : ns.Distinct)
    (h : ∀ name, name ∈ ms.names ↔ name ∈ ns.names) : ms.length = ns.length := by
  have hlength := ((List.perm_ext_iff_of_nodup hms hns).2 h).length_eq
  simpa [Entries.names] using hlength

/-- Objects are equal when they have as many members and those of the one are found, with equal
values, in the other. -/
theorem equals_object_iff (hms : ms.Distinct) (hns : ns.Distinct) :
    Equals (.obj ms) (.obj ns) ↔ ms.length = ns.length ∧
      ∀ m ∈ ms, ∃ v, Entries.get? ns m.1 = some v ∧ Equals m.2 v := by
  constructor
  · intro h
    cases h with
    | number hu _ => cases hu
    | object hnames h =>
      refine ⟨length_eq_of_names hms hns hnames, fun m hm => ?_⟩
      obtain ⟨v, hv⟩ := Entries.mem_names_iff.1 ((hnames m.1).1 (List.mem_map_of_mem hm))
      exact ⟨v, hv, h m.1 m.2 v (Entries.get?_of_mem hms hm) hv⟩
  · rintro ⟨hlength, h⟩
    refine .object (names_iff_of_subset hms hlength fun name hname => ?_) fun name u v hu hv => ?_
    · obtain ⟨u, hu⟩ := Entries.mem_names_iff.1 hname
      obtain ⟨v, hv, -⟩ := h _ (Entries.mem_of_get? hu)
      exact Entries.mem_names_iff.2 ⟨v, hv⟩
    · obtain ⟨w, hw, hequals⟩ := h _ (Entries.mem_of_get? hu)
      rw [hw] at hv
      exact Option.some.inj hv ▸ hequals

/-- A value that is no number is equal to values of its kind only. -/
theorem Equals.kind (h : Equals u v) (hu : u.quantity? = none) :
    u = .null ∧ v = .null ∨ (∃ s, u = .str s ∧ v = .str s) ∨ (∃ us vs, u = .arr us ∧ v = .arr vs) ∨
      ∃ ms ns, u = .obj ms ∧ v = .obj ns := by
  cases h with
  | null => exact .inl ⟨rfl, rfl⟩
  | text s => exact .inr (.inl ⟨s, rfl, rfl⟩)
  | number hq _ => cases hu.symm.trans hq
  | list _ => exact .inr (.inr (.inl ⟨_, _, rfl, rfl⟩))
  | object _ _ => exact .inr (.inr (.inr ⟨_, _, rfl, rfl⟩))

theorem equal_nan (v : Json) : equal (.float .nan) v = false := by
  cases v <;> rfl

/-- **What is equal** to a value without `nan`. -/
theorem equal_iff (hu : u.Regular) (hv : v.Regular) (hnan : .nan ∉ v.doubles) :
    u.equal v = true ↔ Equals u v := by
  induction u using induct generalizing v with
  | null =>
    cases v with
    | null => exact iff_of_true rfl .null
    | _ => exact iff_of_false nofun fun h => by simpa using h.kind rfl
  | str s =>
    rw [equal, beq_iff_eq]
    cases v with
    | str s' =>
      simp only [string?, Option.some.injEq]
      refine ⟨fun h => h ▸ .text s', fun h => ?_⟩
      simpa [eq_comm] using h.kind rfl
    | _ => exact iff_of_false nofun fun h => by simpa using h.kind rfl
  | bool b => exact (equal_number_iff hu hv rfl).trans (equals_number_iff rfl).symm
  | int n => exact (equal_number_iff hu hv rfl).trans (equals_number_iff rfl).symm
  | float x =>
    cases hq : x.quantity? with
    | some q => exact (equal_number_iff hu hv hq).trans (equals_number_iff (u := .float x) hq).symm
    | none =>
      cases x with
      | nan => exact iff_of_false (by simp [equal_nan]) fun h => by simpa using h.kind rfl
      | _ => cases hq
  | arr us ih =>
    cases v with
    | arr vs =>
      have hitems : equalItems us vs = true ↔ List.Forall₂ Equals us vs := by
        refine equalItems_iff fun u hmu v hmv => ?_
        have hnan' : .nan ∉ v.doubles := fun h => hnan (doubles_item hmv h)
        rw [bothNan_eq_false hnan', Bool.false_or]
        exact ih u hmu (hu.item hmu) (hv.item hmv) hnan'
      rw [equal, hitems, equals_list_iff]
    | _ => exact iff_of_false nofun fun h => by simpa using h.kind rfl
  | obj ms ih =>
    cases v with
    | obj ns =>
      have hmembers : equalMembers ms ns = true ↔
          ∀ m ∈ ms, ∃ v, Entries.get? ns m.1 = some v ∧ Equals m.2 v := by
        refine equalMembers_iff fun m hm v hv' => ?_
        have hmv := Entries.mem_of_get? hv'
        have hnan' : .nan ∉ v.doubles := fun h => hnan (doubles_member hmv h)
        rw [bothNan_eq_false hnan', Bool.false_or]
        exact ih m hm (hu.member hm) (hv.member hmv) hnan'
      rw [equal, Bool.and_eq_true, beq_iff_eq, hmembers,
        equals_object_iff hu.wellFormed.1 hv.wellFormed.1]
    | _ => exact iff_of_false nofun fun h => by simpa using h.kind rfl

/-! ## The first equal item -/

/-- Items, split at the first one that is equal to a value. -/
structure FirstEqual (v : Json) (items front : List Json) (x : Json) (back : List Json) :
    Prop where
  split : items = front ++ x :: back
  equals : Equals x v
  first : ∀ y ∈ front, ¬ Equals y v

theorem indexOf?_eq_findIdx? (v : Json) (items : List Json) :
    indexOf? v items = items.findIdx? fun x => bothNan x v || x.equal v := by
  induction items with
  | nil => rfl
  | cons x rest ih => rw [indexOf?, List.findIdx?_cons, ih]

theorem found_iff_equals (hitems : (arr vs).Regular) (hv : v.Regular) (hnan : .nan ∉ v.doubles)
    (hu : u ∈ vs) : (bothNan u v || u.equal v) = true ↔ Equals u v := by
  rw [bothNan_eq_false hnan, Bool.false_or]
  exact equal_iff (hitems.item hu) hv hnan

theorem indexOf?_eq_none_iff (hitems : (arr vs).Regular) (hv : v.Regular)
    (hnan : .nan ∉ v.doubles) : indexOf? v vs = none ↔ ∀ u ∈ vs, ¬ Equals u v := by
  rw [indexOf?_eq_findIdx?, List.findIdx?_eq_none_iff]
  refine forall₂_congr fun u hu => ?_
  rw [← found_iff_equals hitems hv hnan hu, Bool.not_eq_true]

/-- **The position that is looked up** is that of the first equal item. -/
theorem firstEqual_of_indexOf? {i : Nat} (hitems : (arr vs).Regular) (hv : v.Regular)
    (hnan : .nan ∉ v.doubles) (h : indexOf? v vs = some i) :
    ∃ front x back, FirstEqual v vs front x back ∧ front.length = i := by
  rw [indexOf?_eq_findIdx?, List.findIdx?_eq_some_iff_getElem] at h
  obtain ⟨hi, hfound, hbefore⟩ := h
  have hiff := fun u hu => found_iff_equals (u := u) hitems hv hnan hu
  refine ⟨vs.take i, vs[i], vs.drop (i + 1), ⟨?_, ?_, ?_⟩, List.length_take_of_le hi.le⟩
  · rw [← List.drop_eq_getElem_cons hi, List.take_append_drop]
  · exact (hiff _ (List.getElem_mem hi)).1 hfound
  · intro y hy hequals
    obtain ⟨j, hj, rfl⟩ := List.mem_take_iff_getElem.1 hy
    have hj' := lt_min_iff.1 hj
    exact hbefore j hj'.1 ((hiff _ (List.getElem_mem hj'.2)).2 hequals)

theorem exists_firstEqual {x : Json} (hitems : (arr vs).Regular) (hv : v.Regular)
    (hnan : .nan ∉ v.doubles) (hx : x ∈ vs) (hequals : Equals x v) :
    ∃ front first back, FirstEqual v vs front first back ∧ indexOf? v vs = some front.length := by
  cases hindex : indexOf? v vs with
  | none => exact absurd hequals ((indexOf?_eq_none_iff hitems hv hnan).1 hindex x hx)
  | some i =>
    obtain ⟨front, first, back, hfirst, rfl⟩ := firstEqual_of_indexOf? hitems hv hnan hindex
    exact ⟨front, first, back, hfirst, rfl⟩

end RemoteModel.Json
