import RemoteModel.Proofs.Patch.Removal
import RemoteModel.Proofs.Patch.Replacement

/-!
# Moving an element into another one

A move names the element that is moved and the one that takes it by their identifiers. Both are
looked up first; then the element is removed from its place and added under the new feature.

**Main statement.** `apply_move`: unless the removal displaces the element that takes it, the move
applies, the moved element stands under the feature and nowhere else, and every element is found
before and after it with the same own features. If the removal displaces it, the steps that were
looked up no longer lead to it, and the element that is meant never gets the feature.

The first part is an equation of what is noted: the document without the element, together with
the element, is what was there before (`census_eraseChild`) and what is there afterwards
(`census_moved`).
-/

namespace RemoteModel.Patch

open Json (Step Location Apart census ids featureNotes headNote outline SameText)
open scoped List

variable {d d₁ u w x : Json} {p l la lb : Location} {s : Step} {am bm : Entries Json}
  {id ida idb feature path : String}

/-- An object of a document that bears an identifier that paths can name. -/
structure Stands (d : Json) (l : Location) (ms : Entries Json) (id : String) : Prop where
  here : d.at? l = some (.obj ms)
  identifier : Json.id? ms = some id
  named : id ≠ ""
  plain : '/' ∉ id.toList

/-- The move of the element of an identifier to a feature of another one. -/
def moveTo (modeluri ida idb feature : String) : Operation where
  action := .move
  path := Address.modelPath modeluri idb [feature]
  source := some (Address.modelPath modeluri ida [])

/-! ## The steps of a move -/

theorem Stands.resolve (h : Stands d l bm id) (hd : d.IsDocument) (hids : d.ids.Nodup)
    (modeluri : String) {steps : List String} (hsteps : ∀ s ∈ steps, '/' ∉ s.toList) :
    resolvePath d (Address.modelPath modeluri id steps) =
      .ok (l.map Step.token ++ steps, true) :=
  resolvePath_modelPath modeluri h.named (List.forall_mem_cons.2 ⟨h.plain, hsteps⟩)
    (found_of_nodup hd.wellFormed hids h.here h.identifier).1

/-- A move removes the element and adds it by the steps that were looked up before. -/
theorem applyOperation_moveTo (hd : d.IsDocument) (hids : d.ids.Nodup)
    (ha : Stands d (p ++ [s]) am ida) (hb : Stands d lb bm idb) (hp : d.at? p = some u)
    (hs : u.child? s = some (.obj am)) (hfeature : '/' ∉ feature.toList) (modeluri : String) :
    applyOperation d (moveTo modeluri ida idb feature) =
      add (Address.modelPath modeluri idb [feature]) false (lb.map Step.token ++ [feature])
        (.obj am) (Json.put (u.eraseChild s) p d) := by
  have hpath := hb.resolve hd hids modeluri (List.forall_mem_singleton.2 hfeature)
  have hnone : ∀ s ∈ ([] : List String), '/' ∉ s.toList := by simp
  have hsource := ha.resolve hd hids modeluri hnone
  rw [List.append_nil] at hsource
  unfold applyOperation moveTo sourceSteps
  simp only [hpath, hsource, bind, Except.bind, Except.map, get_tokens _ hd ha.here,
    remove_child _ hd hp hs]

/-! ## Into an element that stays where it is -/

theorem add_new (path : String) (x : Json) (hd : d.IsDocument) (hb : d.at? lb = some (.obj bm)) :
    add path false (lb.map Step.token ++ [feature]) x d =
      .ok (Json.put (.obj (Entries.insert bm feature x)) lb d) := by
  rw [add, edit_concat]
  exact update_tokens hd hb rfl

theorem census_put_new (hb : d.at? lb = some (.obj bm)) (hfree : Entries.get? bm feature = none)
    (ha : Json.id? am = some ida) :
    census (featureNotes ida) (Json.put (.obj (Entries.insert bm feature (.obj am))) lb d) ~
      census (featureNotes ida) d ++ census (featureNotes ida) (.obj am) := by
  obtain ⟨houtline, hhead⟩ := Json.insert_congr hfree ha
  obtain ⟨-, rest, hbefore, hafter⟩ :=
    Json.census_put (Json.steady_features ida) hb houtline.symm
  rw [Json.census_insert_new hfree hhead, ← List.append_assoc] at hafter
  exact hafter.trans (hbefore.symm.append_right _)

/-- **What is noted of a document stays the same** when an element is moved. -/
theorem census_moved (hw : d.WellFormed) (hp : d.at? p = some u)
    (hs : u.child? s = some (.obj am)) (ha : Json.id? am = some ida)
    (hb : (Json.put (u.eraseChild s) p d).at? lb = some (.obj bm))
    (hfree : Entries.get? bm feature = none) :
    census (featureNotes ida)
        (Json.put (.obj (Entries.insert bm feature (.obj am))) lb
          (Json.put (u.eraseChild s) p d)) ~
      census (featureNotes ida) d :=
  (census_put_new hb hfree ha).trans (census_eraseChild hw hp hs ha).symm

/-- Documents that are noted alike hold the same elements with the same own features. -/
structure SameElements (a : String) (d d' : Json) : Prop where
  found : ∀ id, (∃ l ms, Found d id l ms) ↔ ∃ l ms, Found d' id l ms
  features : ∀ id l l' ms ms', Found d id l ms → Found d' id l' ms' →
    Json.features a ms' = Json.features a ms

theorem sameElements_of_census {a : String} {d' : Json} (hd : d.IsDocument) (hd' : d'.IsDocument)
    (hids : d.ids.Nodup) (hcensus : census (featureNotes a) d' ~ census (featureNotes a) d) :
    d'.ids.Nodup ∧ SameElements a d d' := by
  have hperm : d'.ids ~ d.ids := by
    rw [← Json.map_fst_census a, ← Json.map_fst_census a]
    exact hcensus.map Prod.fst
  have hids' : d'.ids.Nodup := hperm.nodup_iff.2 hids
  refine ⟨hids', ⟨fun id => ?_, fun id l l' ms ms' hl hl' => ?_⟩⟩
  · rw [exists_found_iff hd hids, exists_found_iff hd' hids', hperm.mem_iff]
  · have hnoted : ∀ {v : Json} {k : Location} {fs : Entries Json}, v.IsDocument →
        Found v id k fs → (id, Json.features a fs) ∈ census (featureNotes a) v := by
      intro v k fs hv hfound
      refine (Json.mem_census_iff hv.wellFormed).2 ⟨k, fs, hfound.2, ?_⟩
      rw [featureNotes, hfound.id? hv]
      rfl
    exact Json.features_eq_of_mem hids (hcensus.mem_iff.1 (hnoted hd' hl')) (hnoted hd hl)

/-! ## Past an element that is displaced -/

theorem addEntry_eq_ok {key : String} (h : addEntry path false key x u = .ok w) :
    (∃ items i, u = .arr items ∧ i ≤ items.length ∧ w = .arr (items.insertIdx i x)) ∨
      ∃ ms, u = .obj ms ∧ w = .obj (Entries.insert ms key x) := by
  cases u with
  | arr items =>
    left
    by_cases hkey : key = "-"
    · simp only [addEntry, if_pos hkey, Except.ok.injEq] at h
      exact ⟨items, items.length, rfl, Nat.le.refl, by rw [← h, List.insertIdx_length_self]⟩
    · simp only [addEntry, if_neg hkey] at h
      cases hi : index (items.length + 1) key with
      | error fault => simp [hi, Except.map] at h
      | ok i =>
        simp only [hi, Except.map, Except.ok.injEq] at h
        have hlt := index_lt hi
        exact ⟨items, i, rfl, by omega, h.symm⟩
  | obj ms =>
    right
    simp only [addEntry, Except.ok.injEq] at h
    exact ⟨ms, rfl, h.symm⟩
  | _ => simp [addEntry] at h

theorem wellFormed_addEntry {key : String} (hu : u.WellFormed) (hx : x.WellFormed)
    (h : addEntry path false key x u = .ok w) : w.WellFormed := by
  rcases addEntry_eq_ok h with ⟨items, i, rfl, hi, rfl⟩ | ⟨ms, rfl, rfl⟩
  · refine Json.wellFormedItems_iff.2 fun y hy => ?_
    rcases (List.mem_insertIdx hi).1 hy with rfl | hy
    · exact hx
    · exact Json.wellFormedItems_iff.1 hu y hy
  · exact Json.WellFormed.setChild (s := .member key) hu hx

/-- An object keeps its identifier when a member is written, or it bears none any more. -/
theorem headNote_insert (ms : Entries Json) (key : String) (hx : x.string? = none) :
    ∃ gone, headNote Json.id? (.obj ms) =
      headNote Json.id? (.obj (Entries.insert ms key x)) ++ gone := by
  by_cases hkey : key = "$id"
  · have hnone : Json.id? (Entries.insert ms key x) = none := by
      rw [hkey, Json.id?, Entries.get?_insert_self, Option.bind_some, hx]
    refine ⟨headNote Json.id? (.obj ms), ?_⟩
    simp only [headNote, hnone, Option.toList_none, List.nil_append]
  · have hsame : Json.id? (Entries.insert ms key x) = Json.id? ms := by
      rw [Json.id?, Entries.get?_insert_of_ne _ _ (Ne.symm hkey)]
      rfl
    refine ⟨[], ?_⟩
    simp only [headNote, hsame, List.append_nil]

/-- Adding brings the identifiers of what is added, and some may be lost with what it replaces. -/
theorem ids_addEntry {key : String} (h : addEntry path false key x u = .ok w)
    (hx : x.string? = none) :
    SameText u w ∧ ∃ lost, ids w ++ lost ~ ids u ++ ids x := by
  rcases addEntry_eq_ok h with ⟨items, i, rfl, hi, rfl⟩ | ⟨ms, rfl, rfl⟩
  · refine ⟨rfl, [], ?_⟩
    have hperm : items.insertIdx i x ~ items ++ [x] :=
      (List.perm_insertIdx x items hi).trans (List.perm_append_singleton x items).symm
    have hids := hperm.flatMap_right ids
    rw [List.flatMap_append, List.flatMap_singleton] at hids
    rw [List.append_nil, ids, ids, Json.census_arr, Json.census_arr]
    exact hids
  · refine ⟨rfl, ?_⟩
    cases hget : Entries.get? ms key with
    | none =>
      have hhead : headNote Json.id? (.obj (Entries.insert ms key x)) =
          headNote Json.id? (.obj ms) := congrArg Option.toList (Json.id?_insert_new hget hx)
      refine ⟨[], ?_⟩
      rw [List.append_nil]
      exact .of_eq (Json.census_insert_new hget hhead)
    | some y =>
      obtain ⟨rest, hbefore, hafter, -⟩ :=
        Json.census_child (v := .obj ms) (s := .member key) Json.id? hget
      obtain ⟨gone, hgone⟩ := headNote_insert ms key hx
      refine ⟨ids y ++ gone, List.perm_iff_count.2 fun b => ?_⟩
      have hcount := hbefore.count_eq b
      have hcount' := (hafter x).count_eq b
      rw [hgone] at hcount
      simp only [List.count_append, Json.setChild, ids] at hcount hcount' ⊢
      omega

/-- Steps into the list lead to the position that they name, whatever stands there by now. -/
theorem place?_item {items : List Json} {j : Nat} {steps : List String}
    (hd : d.IsDocument) (hp : d.at? p = some (.arr items))
    (h : place? ((p.map Step.token) ++ toString j :: steps) d = some l) :
    ∃ r, l = p ++ .item j :: r := by
  rw [place?_append, place?_tokens hd hp, Option.bind_some, hp, Option.bind_some] at h
  obtain ⟨m, hm, rfl⟩ := Option.map_eq_some_iff.1 h
  rw [place?_cons] at hm
  obtain ⟨s, hs, hm⟩ := Option.bind_eq_some_iff.1 hm
  obtain ⟨y, -, hm⟩ := Option.bind_eq_some_iff.1 hm
  obtain ⟨r, -, rfl⟩ := Option.map_eq_some_iff.1 hm
  obtain ⟨k, hk, rfl⟩ := Option.map_eq_some_iff.1 hs
  rw [eq_of_index_toString (toOption_eq_some.1 hk)]
  exact ⟨r, rfl⟩

theorem apart_items {i j : Nat} (h : i ≠ j) (p q r : Location) :
    Apart (p ++ .item i :: q) (p ++ .item j :: r) := by
  refine ⟨fun hprefix => h ?_, fun hprefix => h ?_⟩
  · rw [List.prefix_append_right_inj, List.cons_prefix_cons] at hprefix
    exact Step.item.inj hprefix.1
  · rw [List.prefix_append_right_inj, List.cons_prefix_cons] at hprefix
    exact (Step.item.inj hprefix.1).symm

/-- **An element that is displaced does not get the feature.** What is written is written to its
former place, which is another one by now. -/
theorem found_of_displaced {result : Json} {i j : Nat} {r : Location} (hd : d.IsDocument)
    (hids : d.ids.Nodup) (hp : d.at? p = some u) (hs : u.child? (.item i) = some (.obj am))
    (ha : Json.id? am = some ida) (hb : d.at? (p ++ .item j :: r) = some (.obj bm))
    (hid : Json.id? bm = some idb) (hlt : i < j)
    (h : add path false ((p ++ .item j :: r).map Step.token ++ [feature]) (.obj am)
      (Json.put (u.eraseChild (.item i)) p d) = .ok result) :
    Found result idb (p ++ .item (j - 1) :: r) bm := by
  have hu := hd.at? hp
  have hd₁ : (Json.put (u.eraseChild (.item i)) p d).IsDocument := hd.put hu.eraseChild
  have hp₁ := Json.at?_put_self (u.eraseChild (.item i)) hp
  have hb₁ := (at?_displaced r hp hlt).trans hb
  obtain ⟨items, rfl⟩ : ∃ items, u = .arr items := by
    cases u <;> simp only [Json.child?, reduceCtorEq] at hs
    exact ⟨_, rfl⟩
  have hcensus := ids_eraseChild hd.wellFormed hp hs ha
  generalize Json.put ((Json.arr items).eraseChild (.item i)) p d = d₁ at h hd₁ hp₁ hb₁ hcensus
  -- What is written stands at the position that the steps name.
  rw [add, edit_concat, ← toOption_eq_some, toOption_update, Option.bind_eq_some_iff] at h
  obtain ⟨l, hl, h⟩ := h
  obtain ⟨v, hv, h⟩ := Option.bind_eq_some_iff.1 h
  obtain ⟨w, hw, rfl⟩ := Option.map_eq_some_iff.1 h
  rw [toOption_eq_some] at hw
  rw [List.map_append, List.map_cons] at hl
  obtain ⟨r', rfl⟩ := place?_item hd₁ hp₁ hl
  -- Identifiers are distinct still.
  obtain ⟨hsame, lost, hlost⟩ := ids_addEntry hw rfl
  obtain ⟨-, rest, hbefore, hafter⟩ := Json.census_put Json.steady_ids hv hsame
  have hperm : ids (Json.put w (p ++ .item j :: r') d₁) ++ lost ~ d.ids := by
    refine List.perm_iff_count.2 fun b => ?_
    have hcount := hcensus.count_eq b
    have hcountBefore := hbefore.count_eq b
    have hcountAfter := hafter.count_eq b
    have hcountLost := hlost.count_eq b
    simp only [List.count_append, ids] at hcount hcountBefore hcountAfter hcountLost ⊢
    omega
  have hids' := (hperm.nodup_iff.2 hids).of_append_left
  have ham : (Json.obj am).WellFormed := hu.wellFormed.child hs
  have hw' := hd₁.wellFormed.put (l := p ++ .item j :: r')
    (wellFormed_addEntry (hd₁.wellFormed.at? hv) ham hw)
  refine found_of_nodup hw' hids' ?_ hid
  rw [Json.at?_put_of_apart w d₁ (apart_items (by omega) p r' r)]
  exact hb₁

/-! ## The main statement -/

/-- **A move finds both elements, but only one of them where it is then.** Unless removing the
element displaces the one that is to take it, the move applies: the element stands under the
feature and no longer at its former place, and all elements are found before and after the move
with the same own features, apart from the element that is moved. Otherwise the element that is to
take it does not get it. -/
theorem apply_move (hd : d.IsDocument) (hids : d.ids.Nodup) (ha : Stands d la am ida)
    (hb : Stands d lb bm idb) (hinside : la ≠ []) (houtside : ¬ la <+: lb)
    (hfeature : '/' ∉ feature.toList) (hfree : Entries.get? bm feature = none)
    (modeluri : String) :
    (¬ Displaces la lb →
      ∃ result, apply d [moveTo modeluri ida idb feature] = .ok result ∧
        (∃ bm', Found result idb lb bm' ∧ Entries.get? bm' feature = some (.obj am)) ∧
        result.at? la ≠ some (.obj am) ∧ SameElements ida d result) ∧
    (Displaces la lb →
      ∀ result, apply d [moveTo modeluri ida idb feature] = .ok result →
        ∃ l bm', Found result idb l bm' ∧ Entries.get? bm' feature = none) := by
  obtain ⟨p, s, u, rfl, hp, hs⟩ := exists_container ha.here hinside
  have hmove := applyOperation_moveTo hd hids ha hb hp hs hfeature modeluri
  have hd₁ : (Json.put (u.eraseChild s) p d).IsDocument := hd.put (hd.at? hp).eraseChild
  refine ⟨fun hdisplaces => ?_, ?_⟩
  · obtain ⟨bm₁, hb₁, hid₁, hnone⟩ := at?_put_eraseChild hd.wellFormed hp hs rfl hb.here
      hb.identifier houtside hdisplaces
    have hfree₁ := hnone feature hfree
    have ham : (Json.obj am).IsDocument := hd.at? ha.here
    have hresult := hd₁.put (l := lb)
      (Json.IsDocument.setChild (s := .member feature) (hd₁.at? hb₁) ham)
    obtain ⟨hids', helements⟩ := sameElements_of_census hd hresult hids
      (census_moved hd.wellFormed hp hs ha.identifier hb₁ hfree₁)
    have hthere := Json.at?_put_self (.obj (Entries.insert bm₁ feature (.obj am))) hb₁
    refine ⟨_, apply_singleton (hmove.trans (add_new _ _ hd₁ hb₁)),
      ⟨Entries.insert bm₁ feature (.obj am), ?_, ?_⟩, ?_, helements⟩
    · refine found_of_nodup hresult.wellFormed hids' hthere ?_
      exact (Json.id?_insert_new hfree₁ rfl).trans hid₁
    · exact Entries.get?_insert_self _ _ _
    · -- Its identifier stands under the feature, where nothing stood before.
      intro hla
      have hlb : Json.at? (lb ++ [.member feature])
          (Json.put (.obj (Entries.insert bm₁ feature (.obj am))) lb
            (Json.put (u.eraseChild s) p d)) = some (.obj am) := by
        rw [Json.at?_append, hthere, Option.bind_some, Json.at?_cons, Json.child?,
          Entries.get?_insert_self]
        rfl
      have heq := Json.eq_of_nodup_ids hresult.wellFormed hids' hla ha.identifier hlb
        ha.identifier
      have hhere := ha.here
      rw [heq, Json.at?_append, hb.here, Option.bind_some, Json.at?_cons, Json.child?, hfree]
        at hhere
      cases hhere
  · rintro ⟨p', i, j, r, heq, rfl, hlt⟩ result hok
    obtain ⟨hsame, hstep⟩ := List.append_inj' heq rfl
    cases hsame
    cases hstep
    rw [apply_singleton_iff, hmove] at hok
    exact ⟨_, bm, found_of_displaced hd hids hp hs ha.identifier hb.here hb.identifier hlt hok,
      hfree⟩

/-- A small model: three elements in a list. -/
def shelf : Json :=
  .obj [("$id", .str "r"),
    ("items", .arr [.obj [("$id", .str "a")], .obj [("$id", .str "b")], .obj [("$id", .str "c")]])]

theorem shelf_isDocument : shelf.IsDocument := by
  have hthree : 3 ≤ Text.numeralBound := Text.le_numeralBound (by decide)
  refine ⟨?_, ?_⟩
  · simp [shelf, Json.WellFormed, Json.WellFormedItems, Json.WellFormedMembers, Entries.Distinct,
      Entries.names]
  · simp [shelf, Json.Indexable, Json.IndexableItems, Json.IndexableMembers, hthree]

/-- The last item is moved into the one before it. -/
theorem apply_move_shelf :
    Stands shelf [.member "items", .item 2] [("$id", .str "c")] "c" ∧
      Stands shelf [.member "items", .item 1] [("$id", .str "b")] "b" ∧
      ¬ Displaces [.member "items", .item 2] [.member "items", .item 1] ∧
      ∃ result, apply shelf [moveTo "m" "c" "b" "child"] = .ok result ∧
        (∃ bm', Found result "b" [.member "items", .item 1] bm' ∧
          Entries.get? bm' "child" = some (.obj [("$id", .str "c")])) ∧
        result.at? [.member "items", .item 2] ≠ some (.obj [("$id", .str "c")]) ∧
        SameElements "c" shelf result := by
  have hc : Stands shelf [.member "items", .item 2] [("$id", .str "c")] "c" :=
    ⟨rfl, rfl, by decide, by decide⟩
  have hb : Stands shelf [.member "items", .item 1] [("$id", .str "b")] "b" :=
    ⟨rfl, rfl, by decide, by decide⟩
  have hdisplaces : ¬ Displaces [.member "items", .item 2] [.member "items", .item 1] := by
    rintro ⟨p, i, j, r, hi, hj, hlt⟩
    have hsplit : [Step.member "items"] ++ [Step.item 2] = p ++ [Step.item i] := hi
    obtain ⟨rfl, hitem⟩ := List.append_inj' hsplit rfl
    simp only [List.cons_append, List.nil_append, List.cons.injEq, Step.item.injEq, true_and,
      and_true] at hitem hj
    omega
  exact ⟨hc, hb, hdisplaces,
    (apply_move shelf_isDocument (by decide +kernel) hc hb (by decide) (by decide) (by decide) rfl
      "m").1 hdisplaces⟩

/-- The first item is moved into the one behind it, but the last one gets it. -/
theorem move_misses_displaced :
    Stands shelf [.member "items", .item 0] [("$id", .str "a")] "a" ∧
      Stands shelf [.member "items", .item 1] [("$id", .str "b")] "b" ∧
      ∃ result, apply shelf [moveTo "m" "a" "b" "child"] = .ok result ∧
        Found result "b" [.member "items", .item 0] [("$id", .str "b")] ∧
        Found result "c" [.member "items", .item 1]
          [("$id", .str "c"), ("child", .obj [("$id", .str "a")])] := by
  let result : Json := .obj [("$id", .str "r"), ("items", .arr [.obj [("$id", .str "b")],
    .obj [("$id", .str "c"), ("child", .obj [("$id", .str "a")])]])]
  have happly : (apply shelf [moveTo "m" "a" "b" "child"]).toOption = some result := by
    decide +kernel
  refine ⟨⟨rfl, rfl, by decide, by decide⟩, ⟨rfl, rfl, by decide, by decide⟩, result,
    toOption_eq_some.1 happly, ⟨by decide +kernel, rfl⟩, ⟨by decide +kernel, rfl⟩⟩

end RemoteModel.Patch
