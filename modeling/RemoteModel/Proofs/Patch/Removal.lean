import RemoteModel.Proofs.Json.Features
import RemoteModel.Proofs.Patch.Elements

/-!
# Taking an element out of a document

Removing at the steps of a location erases a child there (`remove_child`). All other elements keep
their own features: what is noted of the document is what is left and what is noted of the element
that has been taken out (`census_eraseChild`, `ids_eraseChild`).

**Locations.** What stands apart from the element stays where it is, except for what stands in the
same list behind the removed item, or inside such an item (`Displaces`): this moves down by one
(`at?_put_eraseChild_of_apart`, `at?_displaced`). Elements around it stay, too
(`at?_put_eraseChild`).

**Finding.** Where identifiers are distinct an element is found exactly where an object bears its
identifier (`found_iff`).
-/

namespace RemoteModel.Patch

open Json (Step Location Apart census ids featureNotes headNote outline SameText)
open scoped List

variable {d u x : Json} {p l : Location} {s : Step} {ms bm : Entries Json} {id a path : String}

/-! ## Finding elements -/

/-- An element is found at a location by its identifier. -/
def Found (d : Json) (id : String) (l : Location) (ms : Entries Json) : Prop :=
  locate id d = some (l.map Step.token) ∧ d.at? l = some (.obj ms)

theorem found_of_nodup (hw : d.WellFormed) (hids : d.ids.Nodup) (hl : d.at? l = some (.obj ms))
    (hid : Json.id? ms = some id) : Found d id l ms := by
  refine ⟨locate_of_alone hw hl (Json.id?_eq_some.1 hid) fun l' ms' hl' hid' => ?_, hl⟩
  exact Json.eq_of_nodup_ids hw hids hl' (Json.id?_eq_some.2 hid') hl hid

theorem Found.id? (hd : d.IsDocument) (h : Found d id l ms) : Json.id? ms = some id := by
  obtain ⟨hlocate, hl⟩ := h
  rw [locate_eq_find, firstBearing, Option.map_eq_some_iff] at hlocate
  obtain ⟨⟨l', ms'⟩, hfind, htokens⟩ := hlocate
  have hl' := (Json.mem_objects_iff hd.wellFormed).1 (List.mem_of_find?_eq_some hfind)
  have hb := List.find?_some (p := fun o : Location × Entries Json => bears id o.2) hfind
  -- The texts of the two locations are the same, so the locations are.
  have hplace := place?_tokens hd hl'
  rw [htokens, place?_tokens hd hl, Option.some.injEq] at hplace
  subst hplace
  cases hl.symm.trans hl'
  exact Json.id?_eq_some.2 (bears_iff.1 hb)

theorem found_iff (hd : d.IsDocument) (hids : d.ids.Nodup) :
    Found d id l ms ↔ d.at? l = some (.obj ms) ∧ Json.id? ms = some id :=
  ⟨fun h => ⟨h.2, h.id? hd⟩, fun h => found_of_nodup hd.wellFormed hids h.1 h.2⟩

theorem exists_found_iff (hd : d.IsDocument) (hids : d.ids.Nodup) :
    (∃ l ms, Found d id l ms) ↔ id ∈ d.ids := by
  rw [ids, Json.mem_census_iff hd.wellFormed]
  simp only [found_iff hd hids]

/-! ## Removing a child -/

theorem removeEntry_token (path : String) (hu : u.IsDocument) (hs : u.child? s = some x) :
    removeEntry path s.token u = .ok (u.eraseChild s) := by
  cases u <;> cases s <;> simp only [Json.child?, reduceCtorEq] at hs
  · have hn := (List.getElem?_eq_some_iff.1 hs).1
    simp only [removeEntry, Step.token, index_toString hn hu.indexable.1]
    rfl
  · simp only [removeEntry, Step.token, Entries.contains, hs]
    rfl

/-- **Removing erases a child.** -/
theorem remove_child (path : String) (hd : d.IsDocument) (hp : d.at? p = some u)
    (hs : u.child? s = some x) :
    remove path ((p ++ [s]).map Step.token) d = .ok (Json.put (u.eraseChild s) p d) := by
  rw [List.map_append, List.map_singleton, remove, edit_concat]
  exact update_tokens hd hp (removeEntry_token path (hd.at? hp) hs)

theorem exists_container (h : d.at? l = some x) (hne : l ≠ []) :
    ∃ p s u, l = p ++ [s] ∧ d.at? p = some u ∧ u.child? s = some x := by
  obtain ⟨p, s, rfl⟩ := (List.eq_nil_or_concat l).resolve_left hne
  rw [List.concat_eq_append] at h ⊢
  rw [Json.at?_append, Option.bind_eq_some_iff] at h
  obtain ⟨u, hu, hs⟩ := h
  rw [Json.at?_cons, Option.bind_eq_some_iff] at hs
  obtain ⟨y, hy, heq⟩ := hs
  cases Option.some.inj heq
  exact ⟨p, s, u, rfl, hu, hy⟩

/-! ## What is left -/

theorem sameText_eraseChild (u : Json) (s : Step) : SameText u (u.eraseChild s) := by
  cases u <;> cases s <;> rfl

/-- Elements keep their own features when one of them is taken out. -/
theorem census_eraseChild {am : Entries Json} (hw : d.WellFormed) (hp : d.at? p = some u)
    (hs : u.child? s = some (.obj am)) (ha : Json.id? am = some a) :
    census (featureNotes a) d ~
      census (featureNotes a) (Json.put (u.eraseChild s) p d) ++
        census (featureNotes a) (.obj am) := by
  obtain ⟨houtline, hhead⟩ :=
    Json.eraseChild_congr (hw.at? hp) hs (Json.outline_of_id? ha) rfl
  obtain ⟨around, hchild, -, herased⟩ := Json.census_child (featureNotes a) hs
  obtain ⟨-, rest, hbefore, hafter⟩ :=
    Json.census_put (Json.steady_features a) hp houtline.symm
  rw [hhead] at herased
  have hcontainer : census (featureNotes a) u ~
      census (featureNotes a) (u.eraseChild s) ++ census (featureNotes a) (.obj am) := by
    rw [← List.append_assoc] at hchild
    exact hchild.trans (herased.symm.append_right _)
  refine hbefore.trans ((hcontainer.append_left rest).trans ?_)
  rw [← List.append_assoc]
  exact hafter.symm.append_right _

/-- **No identifier is lost.** What is left and the element that was taken out bear the identifiers
of the document. -/
theorem ids_eraseChild {am : Entries Json} (hw : d.WellFormed) (hp : d.at? p = some u)
    (hs : u.child? s = some (.obj am)) (ha : Json.id? am = some a) :
    d.ids ~ ids (Json.put (u.eraseChild s) p d) ++ ids (.obj am) := by
  have hcensus := (census_eraseChild hw hp hs ha).map Prod.fst
  rw [List.map_append] at hcensus
  simpa only [Json.map_fst_census] using hcensus

/-! ## Where the others stand -/

/-- Removing the item of a list moves down what stands in the list behind it. -/
def Displaces (l m : Location) : Prop :=
  ∃ p i j r, l = p ++ [.item i] ∧ m = p ++ .item j :: r ∧ i < j

/-- **Frame.** A location apart from the child that is erased keeps its value, unless it is
displaced. -/
theorem at?_put_eraseChild_of_apart {m : Location} (hp : d.at? p = some u)
    (hm : Apart (p ++ [s]) m) (hdisplaces : ¬ Displaces (p ++ [s]) m) :
    (Json.put (u.eraseChild s) p d).at? m = d.at? m := by
  by_cases hbelow : p <+: m
  · -- The location stands below another child.
    obtain ⟨rest, rfl⟩ := hbelow
    cases rest with
    | nil => exact absurd (by simp) hm.2
    | cons t rest =>
      have hst : s ≠ t := by
        intro hst
        exact hm.1 ⟨rest, by simp [hst]⟩
      have hbehind : ∀ i j, s = .item i → t = .item j → ¬ i < j := by
        rintro i j rfl rfl hlt
        exact hdisplaces ⟨p, i, j, rest, rfl, rfl, hlt⟩
      rw [Json.at?_put_append _ _ hp, Json.at?_append, hp, Option.bind_some, Json.at?_cons,
        Json.at?_cons, Json.child?_eraseChild_of_ne u hst hbehind]
  · have habove : ¬ m <+: p := fun h => hm.2 (h.trans (List.prefix_append p [s]))
    exact Json.at?_put_of_apart _ d ⟨hbelow, habove⟩

/-- **What is displaced moves down.** -/
theorem at?_displaced {i j : Nat} (r : Location) (hp : d.at? p = some u) (h : i < j) :
    (Json.put (u.eraseChild (.item i)) p d).at? (p ++ .item (j - 1) :: r) =
      d.at? (p ++ .item j :: r) := by
  rw [Json.at?_put_append _ _ hp, Json.at?_append, hp, Option.bind_some, Json.at?_cons,
    Json.at?_cons, Json.child?_eraseChild_behind u h]

/-- **An element that is not displaced stays where it is**, and it gets no new features. -/
theorem at?_put_eraseChild (hd : d.WellFormed) (hp : d.at? p = some u)
    (hs : u.child? s = some x) (hx : x.string? = none) (hl : d.at? l = some (.obj bm))
    (hid : Json.id? bm = some id) (houtside : ¬ p ++ [s] <+: l)
    (hdisplaces : ¬ Displaces (p ++ [s]) l) :
    ∃ bm', (Json.put (u.eraseChild s) p d).at? l = some (.obj bm') ∧ Json.id? bm' = some id ∧
      ∀ name, Entries.get? bm name = none → Entries.get? bm' name = none := by
  by_cases habove : l <+: p
  · obtain ⟨q, rfl⟩ := habove
    rw [Json.at?_append, hl, Option.bind_some] at hp
    rw [Json.put_append _ q hl, Json.at?_put_self _ hl]
    cases q with
    | nil =>
      -- The element is the container itself.
      cases Option.some.inj hp
      cases s with
      | item _ => cases hs
      | member name =>
        have hdistinct := (hd.at? hl).1
        exact ⟨_, rfl, (Json.id?_erase hdistinct hs hx).trans hid, fun _ hget =>
          Entries.get?_erase_eq_none hdistinct hget⟩
    | cons t q =>
      -- The container stands inside the element.
      rw [Json.at?_cons, Option.bind_eq_some_iff] at hp
      obtain ⟨y, hy, hq⟩ := hp
      rw [Json.put_cons _ q hy]
      cases t with
      | item _ => cases hy
      | member name =>
        have hsame := (Json.census_put Json.steady_ids hq (sameText_eraseChild u s)).1
        refine ⟨_, rfl, (Json.id?_insert hy hsame).trans hid, fun other hget => ?_⟩
        have hne : other ≠ name := by
          rintro rfl
          exact absurd (hget.symm.trans hy) (by simp)
        rw [Entries.get?_insert_of_ne _ _ hne, hget]
  · have hinside : ¬ l <+: p ++ [s] := by
      intro h
      rcases List.prefix_concat_iff.1 h with heq | h
      · exact houtside (heq ▸ List.prefix_refl _)
      · exact habove h
    have hsame := at?_put_eraseChild_of_apart hp ⟨houtside, hinside⟩ hdisplaces
    exact ⟨bm, hsame.trans hl, hid, fun _ hget => hget⟩

end RemoteModel.Patch
