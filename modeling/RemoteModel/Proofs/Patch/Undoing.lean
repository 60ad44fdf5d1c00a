import Mathlib.Data.List.InsertIdx
import RemoteModel.Proofs.Json.Containers
import RemoteModel.Proofs.Patch.Copying

/-!
# Undoing an operation at a pointer

Adding and removing at the same pointer undo one another.

**Removing what was added.** Where a value is added to a list, or under a new name to an object,
removing at the same steps leaves the document as it was: an item is added before the position it
names and pushes the later ones up, and a new member goes last.

**Adding what was removed.** Removing succeeds only at the root, at an item and at a member. The
removed value comes back to the same place, except that a member is then the last one of its
object (`Relocated`).

Both changes are written to the place of the container, and the steps to it lead there before and
after (`place?_put`). So all of it is said of one entry of a container first
(`removeEntry_of_addEntry`, `addEntry_of_removeEntry`).

Main statement: `adding_removing_cancel`.
-/

namespace RemoteModel.Patch

open Json (Step Location)

variable {d r u v w x : Json} {path key : String} {front steps : List String} {l : Location}

/-- A container that has room for a name: a list, or an object without such a member. -/
def HasRoom (key : String) : Json → Prop
  | .arr _ => True
  | .obj ms => Entries.get? ms key = none
  | _ => False

/-- A document with the value of a location where it was, or, if it is a member, with that member
as the last one of its object. -/
inductive Relocated (d : Json) : Location → Json → Prop
  | same (l : Location) : Relocated d l d
  | last {p : Location} {before after : Entries Json} {name : String} {x : Json}
      (h : d.at? p = some (.obj (before ++ (name, x) :: after))) :
      Relocated d (p ++ [.member name]) (Json.put (.obj (before ++ after ++ [(name, x)])) p d)

/-! ## One entry of a container -/

/-- **Removing an entry that was added** gives the container back. -/
theorem removeEntry_of_addEntry (hkey : key ≠ "-") (hroom : HasRoom key u)
    (h : addEntry path false key v u = .ok w) : removeEntry path key w = .ok u := by
  cases u with
  | arr items =>
    simp only [addEntry, if_neg hkey] at h
    obtain ⟨i, hi, rfl⟩ := map_eq_ok.1 h
    have hle : i ≤ items.length := Nat.le_of_lt_succ (index_lt hi)
    have hlength := List.length_insertIdx_of_le_length hle v
    simp only [removeEntry, hlength, hi, Except.map, List.eraseIdx_insertIdx_self]
  | obj ms =>
    have hnew : Entries.get? ms key = none := hroom
    simp only [addEntry, Except.ok.injEq] at h
    rw [← h, Entries.insert_of_get?_eq_none hnew]
    have hthere : Entries.contains (ms ++ [(key, v)]) key = true := by
      simp [Entries.contains, Entries.get?_append, hnew, Entries.get?]
    simp only [removeEntry, if_pos hthere, Entries.erase_append_of_get?_eq_none hnew]
  | _ => cases hroom

/-- What is removed was there, and it can be added again. In an object it is the last member
then. -/
theorem addEntry_of_removeEntry (hu : u.WellFormed) (h : removeEntry path key u = .ok w) :
    ∃ s x u', stepIn? u key = some s ∧ u.child? s = some x ∧
      addEntry path false key x w = .ok u' ∧
      (u' = u ∨ ∃ before after, u = .obj (before ++ (key, x) :: after) ∧ s = .member key ∧
        u' = .obj (before ++ after ++ [(key, x)])) := by
  cases u with
  | arr items =>
    obtain ⟨i, hi, rfl⟩ := map_eq_ok.1 h
    have hlt := index_lt hi
    have hkey : key ≠ "-" := by
      intro hkey
      have hnone := index_end items.length
      rw [← hkey, hi] at hnone
      cases hnone
    have hstep : stepIn? (.arr items) key = some (.item i) := by
      simp [stepIn?, hi, Except.toOption]
    -- The list is one shorter now, and adding may go one behind its end.
    have hlength : (items.eraseIdx i).length + 1 = items.length := by
      rw [List.length_eraseIdx_of_lt hlt]
      omega
    refine ⟨.item i, items[i], .arr items, hstep, List.getElem?_eq_getElem hlt, ?_, .inl rfl⟩
    simp only [addEntry, if_neg hkey, hlength, hi, Except.map, List.insertIdx_eraseIdx_getElem hlt]
  | obj ms =>
    by_cases hthere : Entries.contains ms key = true
    · simp only [removeEntry, if_pos hthere, Except.ok.injEq] at h
      obtain ⟨x, hx⟩ := Option.isSome_iff_exists.1 hthere
      obtain ⟨before, after, hms, herase, -⟩ := Entries.split_of_get? hx
      have hgone := Entries.get?_erase_self hu.1 key
      rw [herase] at hgone
      refine ⟨.member key, x, _, rfl, hx, ?_, .inr ⟨before, after, by rw [hms], rfl, rfl⟩⟩
      rw [← h]
      simp only [addEntry, herase, Entries.insert_of_get?_eq_none hgone]
    · simp [removeEntry, hthere] at h
  | _ => simp [removeEntry] at h

/-! ## At the end of some steps -/

/-- Removing undoes what adding did at the same steps. -/
theorem remove_of_add (hkey : key ≠ "-") (hu : reached? front d = some u) (hroom : HasRoom key u)
    (h : add path false (front ++ [key]) v d = .ok r) : remove path (front ++ [key]) r = .ok d := by
  obtain ⟨l, u', w, hl, hthere, hw, rfl⟩ := edit_concat_eq_ok.1 h
  rw [reached?, hl, Option.bind_some, hthere] at hu
  cases hu
  refine edit_concat_eq_ok.2 ⟨l, w, u, place?_put w hl, Json.at?_put_self w hthere,
    removeEntry_of_addEntry hkey hroom hw, ?_⟩
  rw [Json.put_put, Json.put_at? hthere]

/-- Adding undoes what removing did at the same steps, up to the position of a member. -/
theorem add_of_remove (hw : d.WellFormed) (h : remove path steps d = .ok r) :
    ∃ l x d', place? steps d = some l ∧ d.at? l = some x ∧ add path false steps x r = .ok d' ∧
      Relocated d l d' := by
  by_cases hroot : steps = []
  · subst hroot
    exact ⟨[], d, d, rfl, rfl, rfl, .same []⟩
  · obtain ⟨front, key, rfl⟩ := (List.eq_nil_or_concat steps).resolve_left hroot
    rw [List.concat_eq_append] at h ⊢
    obtain ⟨p, u, w, hp, hu, hremoved, rfl⟩ := edit_concat_eq_ok.1 h
    obtain ⟨s, x, u', hs, hx, hadded, hback⟩ := addEntry_of_removeEntry (hw.at? hu) hremoved
    have hplace : place? (front ++ [key]) d = some (p ++ [s]) :=
      place?_concat.2 ⟨p, u, s, x, hp, hu, hs, hx, rfl⟩
    have hvalue : d.at? (p ++ [s]) = some x := by
      rw [Json.at?_append, hu, Option.bind_some, Json.at?_cons, hx]
      rfl
    refine ⟨p ++ [s], x, Json.put u' p d, hplace, hvalue, ?_, ?_⟩
    · refine edit_concat_eq_ok.2 ⟨p, w, u', place?_put w hp, Json.at?_put_self w hu, hadded, ?_⟩
      exact Json.put_put w u' d p
    · rcases hback with rfl | ⟨before, after, rfl, rfl, rfl⟩
      · rw [Json.put_at? hu]
        exact .same _
      · exact .last hu

/-! ## The operations -/

theorem resolvePath_of_pointer (document : Json) (h : Address.ofPath path = .ok (.pointer steps)) :
    resolvePath document path = .ok (steps, false) := by
  unfold resolvePath
  rw [h]
  rfl

theorem applyOperation_addTo_pointer (h : Address.ofPath path = .ok (.pointer steps))
    (v document : Json) :
    applyOperation document (addTo v path) = add path false steps v document := by
  rw [applyOperation_addTo, resolvePath_of_pointer document h]
  rfl

theorem apply_cons {o : Operation} (h : applyOperation d o = .ok r) (rest : List Operation) :
    apply d (o :: rest) = apply r rest := by
  simp only [apply, h]

/-- **Adding and removing at a pointer cancel.** A value that was added to a list, or to an object
under a new name, can be removed, and the document is as it was. A value that was removed can be
added, and the document is as it was but for the position of a member in its object. -/
theorem adding_removing_cancel (hw : d.WellFormed)
    (hpath : Address.ofPath path = .ok (.pointer steps)) :
    (∀ front key u, steps = front ++ [key] → key ≠ "-" → reached? front d = some u →
      HasRoom key u → ∀ v r, apply d [addTo v path] = .ok r →
        apply d [addTo v path, removeFrom path] = .ok d) ∧
    ∀ r, apply d [removeFrom path] = .ok r →
      ∃ l x d', place? steps d = some l ∧ d.at? l = some x ∧
        apply d [removeFrom path, addTo x path] = .ok d' ∧ Relocated d l d' := by
  refine ⟨?_, ?_⟩
  · intro front key u hsteps hkey hu hroom v r h
    have hadd := apply_singleton_iff.1 h
    rw [apply_cons hadd, apply_singleton_iff,
      applyOperation_removeFrom (resolvePath_of_pointer r hpath)]
    rw [applyOperation_addTo_pointer hpath] at hadd
    subst hsteps
    exact remove_of_add hkey hu hroom hadd
  · intro r h
    have hremove := apply_singleton_iff.1 h
    rw [applyOperation_removeFrom (resolvePath_of_pointer d hpath)] at hremove
    obtain ⟨l, x, d', hl, hx, hadd, hrelocated⟩ := add_of_remove hw hremove
    refine ⟨l, x, d', hl, hx, ?_, hrelocated⟩
    rw [apply_cons (apply_singleton_iff.1 h), apply_singleton_iff,
      applyOperation_addTo_pointer hpath]
    exact hadd

/-- A part is added between the two parts of a machine and removed; the second part is removed and
added. -/
theorem adding_removing_cancel_machine :
    machine.WellFormed ∧ Address.ofPath "/parts/1" = .ok (.pointer ["parts", "1"]) ∧
      apply machine [addTo .null "/parts/1", removeFrom "/parts/1"] = .ok machine ∧
      ∃ l x d', place? ["parts", "1"] machine = some l ∧ machine.at? l = some x ∧
        apply machine [removeFrom "/parts/1", addTo x "/parts/1"] = .ok d' ∧
        Relocated machine l d' := by
  have hpath : Address.ofPath "/parts/1" = .ok (.pointer ["parts", "1"]) := rfl
  have hcancel := adding_removing_cancel machine_isDocument.wellFormed hpath
  have hparts : reached? ["parts"] machine =
      some (.arr [.obj [("$id", .str "a")], .obj gear]) := rfl
  have hadded : ∃ r, apply machine [addTo .null "/parts/1"] = .ok r :=
    ⟨_, toOption_eq_some.1 (Option.get_mem (by decide))⟩
  have hremoved : ∃ r, apply machine [removeFrom "/parts/1"] = .ok r :=
    ⟨_, toOption_eq_some.1 (Option.get_mem (by decide))⟩
  obtain ⟨r, hr⟩ := hadded
  obtain ⟨r', hr'⟩ := hremoved
  exact ⟨machine_isDocument.wellFormed, hpath,
    hcancel.1 ["parts"] "1" _ rfl (by decide) hparts trivial .null r hr, hcancel.2 r' hr'⟩

end RemoteModel.Patch
