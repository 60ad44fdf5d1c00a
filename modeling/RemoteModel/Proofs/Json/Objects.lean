import RemoteModel.Proofs.Json.Location

/-!
# The objects of a value in document order

`objects` lists every object inside a value with its location: an object before its members,
members in their order, items by their position. Where member names are distinct these are
exactly the locations that hold an object (`mem_objects_iff`).

**Order.** `Precedes` is document order as a relation between locations, by the first step in which
they differ. The list follows it (`ordered_objects`), and nothing comes before the containers that
it stands in (`Precedes.not_prefix`).
-/

namespace RemoteModel.Json

/-- An object inside a value, below a step. -/
def under (s : Step) (o : Location × Entries Json) : Location × Entries Json := (s :: o.1, o.2)

mutual

/-- The objects inside a value, with their locations, in document order. -/
def objects : Json → List (Location × Entries Json)
  | .obj ms => ([], ms) :: objectsOfMembers ms
  | .arr items => objectsOfItems 0 items
  | _ => []

def objectsOfMembers : List (String × Json) → List (Location × Entries Json)
  | [] => []
  | (k, v) :: rest => (objects v).map (under (.member k)) ++ objectsOfMembers rest

def objectsOfItems (n : Nat) : List Json → List (Location × Entries Json)
  | [] => []
  | v :: rest => (objects v).map (under (.item n)) ++ objectsOfItems (n + 1) rest

end

theorem mem_objectsOfMembers {ms : List (String × Json)} {o : Location × Entries Json} :
    o ∈ objectsOfMembers ms ↔ ∃ k v p, (k, v) ∈ ms ∧ p ∈ objects v ∧ under (.member k) p = o := by
  induction ms with
  | nil => simp [objectsOfMembers]
  | cons m rest ih =>
    obtain ⟨k, v⟩ := m
    rw [objectsOfMembers, List.mem_append, List.mem_map, ih]
    constructor
    · rintro (⟨p, hp, rfl⟩ | ⟨k', v', p, hkv, hp, rfl⟩)
      · exact ⟨k, v, p, List.mem_cons_self, hp, rfl⟩
      · exact ⟨k', v', p, List.mem_cons_of_mem _ hkv, hp, rfl⟩
    · rintro ⟨k', v', p, hkv, hp, rfl⟩
      rcases List.mem_cons.1 hkv with heq | hkv
      · cases heq
        exact .inl ⟨p, hp, rfl⟩
      · exact .inr ⟨k', v', p, hkv, hp, rfl⟩

theorem mem_objectsOfItems {items : List Json} {n : Nat} {o : Location × Entries Json} :
    o ∈ objectsOfItems n items ↔
      ∃ i v p, items[i]? = some v ∧ p ∈ objects v ∧ under (.item (n + i)) p = o := by
  induction items generalizing n with
  | nil => simp [objectsOfItems]
  | cons v rest ih =>
    rw [objectsOfItems, List.mem_append, List.mem_map, ih]
    constructor
    · rintro (⟨p, hp, rfl⟩ | ⟨i, v', p, hi, hp, rfl⟩)
      · exact ⟨0, v, p, rfl, hp, rfl⟩
      · exact ⟨i + 1, v', p, hi, hp, by rw [Nat.add_right_comm, Nat.add_assoc]⟩
    · rintro ⟨i, v', p, hi, hp, rfl⟩
      cases i with
      | zero =>
        cases Option.some.inj hi
        exact .inl ⟨p, hp, rfl⟩
      | succ i =>
        exact .inr ⟨i, v', p, hi, hp, by rw [Nat.add_right_comm, Nat.add_assoc]⟩

/-- An object below a container stands below one of its children. -/
theorem mem_objects_cons {v : Json} {s : Step} {l : Location} {ms : Entries Json}
    (hw : v.WellFormed) :
    (s :: l, ms) ∈ objects v ↔ ∃ u, v.child? s = some u ∧ (l, ms) ∈ objects u := by
  cases v with
  | arr items =>
    rw [objects, mem_objectsOfItems]
    constructor
    · rintro ⟨i, u, ⟨l', ms'⟩, hi, hp, heq⟩
      simp only [under, Prod.mk.injEq, List.cons.injEq] at heq
      obtain ⟨⟨rfl, rfl⟩, rfl⟩ := heq
      exact ⟨u, by rw [child?, Nat.zero_add]; exact hi, hp⟩
    · rintro ⟨u, hu, hp⟩
      cases s with
      | member name => simp [child?] at hu
      | item i => exact ⟨i, u, (l, ms), hu, hp, by rw [Nat.zero_add]; rfl⟩
  | obj members =>
    rw [objects, List.mem_cons, mem_objectsOfMembers]
    constructor
    · rintro (heq | ⟨k, u, ⟨l', ms'⟩, hku, hp, heq⟩)
      · simp at heq
      · simp only [under, Prod.mk.injEq, List.cons.injEq] at heq
        obtain ⟨⟨rfl, rfl⟩, rfl⟩ := heq
        exact ⟨u, Entries.get?_of_mem hw.1 hku, hp⟩
    · rintro ⟨u, hu, hp⟩
      cases s with
      | item i => simp [child?] at hu
      | member k => exact .inr ⟨k, u, (l, ms), Entries.mem_of_get? hu, hp, rfl⟩
  | _ => simp [objects, child?]

/-- **The objects of a value are what its locations hold.** -/
theorem mem_objects_iff {v : Json} {l : Location} {ms : Entries Json} (hw : v.WellFormed) :
    (l, ms) ∈ objects v ↔ v.at? l = some (.obj ms) := by
  induction l generalizing v with
  | nil =>
    rw [at?_nil, Option.some.injEq]
    cases v with
    | obj members =>
      rw [objects, List.mem_cons, mem_objectsOfMembers]
      constructor
      · rintro (heq | ⟨k, u, p, -, -, heq⟩)
        · cases heq
          rfl
        · simp [under] at heq
      · intro heq
        cases heq
        exact .inl rfl
    | arr items => simp [objects, mem_objectsOfItems, under]
    | _ => simp [objects]
  | cons s l ih =>
    rw [mem_objects_cons hw, at?_cons, Option.bind_eq_some_iff]
    constructor
    · rintro ⟨u, hu, hp⟩
      exact ⟨u, hu, (ih (hw.child hu)).1 hp⟩
    · rintro ⟨u, hu, hl⟩
      exact ⟨u, hu, (ih (hw.child hu)).2 hl⟩

/-! ## Document order -/

/-- One location of a value comes before another one in document order: a container before what it
holds, members in their order, items by their position. -/
inductive Precedes : Json → Location → Location → Prop
  | inside {v : Json} {s : Step} {l : Location} : Precedes v [] (s :: l)
  | members {ms : Entries Json} {k k' : String} {l m : Location} (h : [k, k'].Sublist ms.names) :
      Precedes (.obj ms) (.member k :: l) (.member k' :: m)
  | items {items : List Json} {i j : Nat} {l m : Location} (h : i < j) :
      Precedes (.arr items) (.item i :: l) (.item j :: m)
  | deeper {v u : Json} {s : Step} {l m : Location} (hs : v.child? s = some u)
      (h : Precedes u l m) : Precedes v (s :: l) (s :: m)

/-- What comes later does not lead to what comes before. -/
theorem Precedes.not_prefix {v : Json} {l m : Location} (h : Precedes v l m)
    (hw : v.WellFormed) : ¬ m <+: l := by
  induction h with
  | inside => exact fun hp => List.cons_ne_nil _ _ (List.prefix_nil.1 hp)
  | members hnames =>
    intro hp
    obtain ⟨heq, -⟩ := List.cons_prefix_cons.1 hp
    cases heq
    have hnodup : [_, _].Nodup := List.Nodup.sublist hnames hw.1
    simp at hnodup
  | items hlt =>
    intro hp
    obtain ⟨heq, -⟩ := List.cons_prefix_cons.1 hp
    cases heq
    exact Nat.lt_irrefl _ hlt
  | deeper hs _ ih => exact fun hp => ih (hw.child hs) (List.cons_prefix_cons.1 hp).2

/-- Objects with their locations are listed in the document order of a value. -/
abbrev Ordered (v : Json) (os : List (Location × Entries Json)) : Prop :=
  os.Pairwise fun o p => Precedes v o.1 p.1

theorem ordered_under {v u : Json} {s : Step} (hs : v.child? s = some u)
    (h : Ordered u (objects u)) : Ordered v ((objects u).map (under s)) :=
  List.pairwise_map.2 (h.imp fun hop => .deeper hs hop)

theorem ordered_objectsOfMembers (before : Entries Json) {rest : Entries Json}
    (hd : Entries.Distinct (before ++ rest)) (h : ∀ m ∈ rest, Ordered m.2 (objects m.2)) :
    Ordered (.obj (before ++ rest)) (objectsOfMembers rest) := by
  induction rest generalizing before with
  | nil => exact .nil
  | cons member rest ih =>
    obtain ⟨k, v⟩ := member
    obtain ⟨hv, hrest⟩ := List.forall_mem_cons.1 h
    refine List.pairwise_append.2 ⟨ordered_under ?_ hv, ?_, ?_⟩
    · exact Entries.get?_of_mem hd (List.mem_append_right before List.mem_cons_self)
    · rw [List.append_cons] at hd ⊢
      exact ih _ hd hrest
    · intro o ho p hp
      obtain ⟨o', -, rfl⟩ := List.mem_map.1 ho
      obtain ⟨k', w, p', hkw, -, rfl⟩ := mem_objectsOfMembers.1 hp
      have hlater : [k'].Sublist (Entries.names rest) :=
        List.singleton_sublist.2 (List.mem_map_of_mem hkw)
      have hnames : Entries.names (before ++ (k, v) :: rest) =
          before.names ++ k :: Entries.names rest := List.map_append
      refine .members ?_
      rw [hnames]
      exact (hlater.cons_cons k).trans (List.sublist_append_right _ _)

theorem ordered_objectsOfItems (before : List Json) {rest : List Json}
    (h : ∀ v ∈ rest, Ordered v (objects v)) :
    Ordered (.arr (before ++ rest)) (objectsOfItems before.length rest) := by
  induction rest generalizing before with
  | nil => exact .nil
  | cons v rest ih =>
    obtain ⟨hv, hrest⟩ := List.forall_mem_cons.1 h
    refine List.pairwise_append.2 ⟨ordered_under ?_ hv, ?_, ?_⟩
    · simp [child?]
    · have hnext := ih (before ++ [v]) hrest
      rwa [List.length_append, List.append_assoc] at hnext
    · intro o ho p hp
      obtain ⟨o', -, rfl⟩ := List.mem_map.1 ho
      obtain ⟨i, w, p', -, -, rfl⟩ := mem_objectsOfItems.1 hp
      exact .items (by omega)

/-- **The list of the objects follows document order.** -/
theorem ordered_objects {v : Json} (hw : v.WellFormed) : Ordered v (objects v) := by
  induction v using Json.induct with
  | arr items ih =>
    exact ordered_objectsOfItems [] fun v hv => ih v hv (wellFormedItems_iff.1 hw v hv)
  | obj ms ih =>
    have hmembers : Ordered (.obj ms) (objectsOfMembers ms) :=
      ordered_objectsOfMembers [] hw.1 fun m hm =>
        ih m hm (wellFormedMembers_iff.1 hw.2 m hm)
    refine List.pairwise_cons.2 ⟨fun p hp => ?_, hmembers⟩
    obtain ⟨k, w, p', -, -, rfl⟩ := mem_objectsOfMembers.1 hp
    exact .inside
  | _ => exact .nil

end RemoteModel.Json
