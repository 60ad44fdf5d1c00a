import RemoteModel.Patch.Apply
import RemoteModel.Proofs.Except
import RemoteModel.Proofs.Json.Location
import RemoteModel.Proofs.Text.Numeral

/-!
# Steps of a path and locations of a document

A path gives its steps as texts, and a step into a list becomes a number when it is taken.
`place?` is the location that steps lead to in a document, if they lead anywhere.

**One view.** Reading at steps is looking their place up, and changing the value at steps is
writing to their place (`toOption_get`, `toOption_update`, `replace_of_place?`); a path is only
reported.

**The way back.** Steps lead to a place whatever is written there (`place?_put`), and the texts of
a location lead to it (`place?_tokens`).
-/

namespace RemoteModel.Patch

open Json (Step Location)

/-! ## The place of some steps -/

/-- The step that a text names in a container. -/
def stepIn? : Json → String → Option Step
  | .obj _, token => some (.member token)
  | .arr items, token => (index items.length token).toOption.map .item
  | _, _ => none

/-- The location that some steps lead to. -/
def place? : List String → Json → Option Location
  | [], _ => some []
  | token :: rest, v => do
    let s ← stepIn? v token
    let u ← v.child? s
    let l ← place? rest u
    some (s :: l)

/-- The value that some steps lead to. -/
def reached? (steps : List String) (v : Json) : Option Json :=
  (place? steps v).bind fun l => v.at? l

theorem place?_cons (token : String) (rest : List String) (v : Json) :
    place? (token :: rest) v =
      (stepIn? v token).bind fun s =>
        (v.child? s).bind fun u => (place? rest u).map (s :: ·) := by
  rw [place?]
  cases stepIn? v token with
  | none => rfl
  | some s =>
    cases hu : v.child? s with
    | none => simp [hu]
    | some u => cases hl : place? rest u <;> simp [hu, hl]

/-- Steps lead on from where the first of them lead. -/
theorem place?_append (front rest : List String) (v : Json) :
    place? (front ++ rest) v =
      (place? front v).bind fun l =>
        (v.at? l).bind fun u => (place? rest u).map (l ++ ·) := by
  induction front generalizing v with
  | nil => simp [place?]
  | cons token front ih =>
    rw [List.cons_append, place?_cons, place?_cons]
    cases stepIn? v token with
    | none => rfl
    | some s =>
      cases hu : v.child? s with
      | none => simp [hu]
      | some u =>
        simp only [Option.bind_some, hu, ih u]
        cases place? front u with
        | none => rfl
        | some l =>
          simp only [Option.bind_some, Option.map_some, Json.at?_cons, hu]
          cases u.at? l with
          | none => rfl
          | some x => simp [Function.comp_def]

theorem place?_concat {front : List String} {token : String} {v : Json} {l : Location} :
    place? (front ++ [token]) v = some l ↔
      ∃ k u s w, place? front v = some k ∧ v.at? k = some u ∧ stepIn? u token = some s ∧
        u.child? s = some w ∧ l = k ++ [s] := by
  rw [place?_append]
  constructor
  · intro h
    obtain ⟨k, hk, h⟩ := Option.bind_eq_some_iff.1 h
    obtain ⟨u, hu, h⟩ := Option.bind_eq_some_iff.1 h
    obtain ⟨m, hm, rfl⟩ := Option.map_eq_some_iff.1 h
    rw [place?_cons] at hm
    obtain ⟨s, hs, hm⟩ := Option.bind_eq_some_iff.1 hm
    obtain ⟨w, hw, hm⟩ := Option.bind_eq_some_iff.1 hm
    cases hm
    exact ⟨k, u, s, w, hk, hu, hs, hw, rfl⟩
  · rintro ⟨k, u, s, w, hk, hu, hs, hw, rfl⟩
    rw [hk, Option.bind_some, hu, Option.bind_some, place?_cons, hs, Option.bind_some, hw]
    rfl

/-! ## Reading and changing -/

/-- The first step of a reading leads to a child, or nowhere. -/
theorem toOption_get_cons (path token : String) (rest : List String) (v : Json) :
    (get path (token :: rest) v).toOption =
      (stepIn? v token).bind fun s =>
        (v.child? s).bind fun u => (get path rest u).toOption := by
  cases v with
  | obj ms =>
    show _ = (Entries.get? ms token).bind _
    rw [get]
    cases Entries.get? ms token <;> rfl
  | arr items =>
    rw [get, stepIn?]
    cases index items.length token with
    | error fault => rfl
    | ok i =>
      show _ = (items[i]?).bind _
      simp only
      cases items[i]? <;> rfl
  | _ => rfl

/-- The first step of a change leads to a child, which is changed in its place. -/
theorem toOption_update_cons (path : String) (f : Json → Except Fault Json) (token : String)
    (rest : List String) (v : Json) :
    (update path f (token :: rest) v).toOption =
      (stepIn? v token).bind fun s =>
        (v.child? s).bind fun u =>
          (update path f rest u).toOption.map fun w => Json.setChild w v s := by
  cases v with
  | obj ms =>
    show _ = (Entries.get? ms token).bind _
    rw [update]
    cases Entries.get? ms token with
    | none => rfl
    | some u => exact toOption_map _ _
  | arr items =>
    rw [update, stepIn?]
    cases index items.length token with
    | error fault => rfl
    | ok i =>
      show _ = (items[i]?).bind _
      simp only
      cases items[i]? with
      | none => rfl
      | some u => exact toOption_map _ _
  | _ => rfl

theorem reached?_cons (token : String) (rest : List String) (v : Json) :
    reached? (token :: rest) v =
      (stepIn? v token).bind fun s => (v.child? s).bind fun u => reached? rest u := by
  rw [reached?, place?_cons]
  cases stepIn? v token with
  | none => rfl
  | some s =>
    cases hu : v.child? s with
    | none => simp [hu]
    | some u =>
      simp only [Option.bind_some, hu, reached?]
      cases place? rest u with
      | none => rfl
      | some l =>
        show v.at? (s :: l) = u.at? l
        rw [Json.at?_cons, hu, Option.bind_some]

/-- **Reading at steps is looking up their place.** -/
theorem toOption_get (path : String) (steps : List String) (v : Json) :
    (get path steps v).toOption = reached? steps v := by
  induction steps generalizing v with
  | nil => rfl
  | cons token rest ih =>
    rw [toOption_get_cons, reached?_cons]
    simp only [ih]

/-- **Changing at steps is writing to their place.** -/
theorem toOption_update (path : String) (f : Json → Except Fault Json) (steps : List String)
    (v : Json) :
    (update path f steps v).toOption =
      (place? steps v).bind fun l =>
        (v.at? l).bind fun u => (f u).toOption.map fun w => Json.put w l v := by
  induction steps generalizing v with
  | nil =>
    show (f v).toOption = ((f v).toOption).map fun w => w
    rw [Option.map_id']
  | cons token rest ih =>
    rw [toOption_update_cons, place?_cons]
    cases stepIn? v token with
    | none => rfl
    | some s =>
      cases hu : v.child? s with
      | none => simp [hu]
      | some u =>
        simp only [Option.bind_some, hu, ih u]
        cases place? rest u with
        | none => rfl
        | some l =>
          simp only [Option.bind_some, Option.map_some, Json.at?_cons, hu, Json.put_cons _ l hu]
          cases u.at? l with
          | none => rfl
          | some x => simp [Function.comp_def]

/-- Two changes that do the same to the value that some steps lead to do the same. -/
theorem toOption_update_congr {f g : Json → Except Fault Json} (p q : String)
    (steps : List String) (v : Json)
    (h : ∀ u, reached? steps v = some u → (f u).toOption = (g u).toOption) :
    (update p f steps v).toOption = (update q g steps v).toOption := by
  rw [toOption_update, toOption_update]
  cases hl : place? steps v with
  | none => rfl
  | some l =>
    simp only [Option.bind_some]
    cases hu : v.at? l with
    | none => rfl
    | some u => rw [Option.bind_some, Option.bind_some, h u (by rw [reached?, hl]; exact hu)]

theorem edit_concat (path : String) (root : Json) (entry : String → Json → Except Fault Json)
    (steps : List String) (key : String) (document : Json) :
    edit path root entry (steps ++ [key]) document = update path (entry key) steps document := by
  simp [edit]

/-- A change behind some steps is written to the place of the container that they lead to. -/
theorem edit_concat_eq_ok {path key : String} {front : List String} {document r root : Json}
    {entry : String → Json → Except Fault Json} :
    edit path root entry (front ++ [key]) document = .ok r ↔
      ∃ l u w, place? front document = some l ∧ document.at? l = some u ∧ entry key u = .ok w ∧
        Json.put w l document = r := by
  rw [edit_concat, ← toOption_eq_some, toOption_update]
  constructor
  · intro h
    obtain ⟨l, hl, h⟩ := Option.bind_eq_some_iff.1 h
    obtain ⟨u, hu, h⟩ := Option.bind_eq_some_iff.1 h
    obtain ⟨w, hw, h⟩ := Option.map_eq_some_iff.1 h
    exact ⟨l, u, w, hl, hu, toOption_eq_some.1 hw, h⟩
  · rintro ⟨l, u, w, hl, hu, hw, rfl⟩
    rw [hl, Option.bind_some, hu, Option.bind_some, hw]
    rfl

theorem replaceEntry_of_stepIn? {key : String} {u : Json} {s : Step} (path : String) (v : Json)
    (hs : stepIn? u key = some s) : replaceEntry path key v u = .ok (Json.setChild v u s) := by
  cases u with
  | obj members =>
    cases hs
    rfl
  | arr items =>
    obtain ⟨n, hn, rfl⟩ := Option.map_eq_some_iff.1 hs
    rw [toOption_eq_some] at hn
    simp only [replaceEntry, hn, Except.map, Json.setChild]
  | _ => cases hs

/-- **Replacing at steps is writing to their place.** -/
theorem replace_of_place? {steps : List String} {document : Json} {l : Location} (path : String)
    (v : Json) (h : place? steps document = some l) :
    replace path steps v document = .ok (Json.put v l document) := by
  rcases List.eq_nil_or_concat steps with rfl | ⟨front, key, rfl⟩
  · cases h
    rfl
  · rw [List.concat_eq_append] at h ⊢
    obtain ⟨k, u, s, x, hk, hu, hs, hx, rfl⟩ := place?_concat.1 h
    refine edit_concat_eq_ok.2 ⟨k, u, _, hk, hu, replaceEntry_of_stepIn? path v hs, ?_⟩
    rw [Json.put_append v [s] hu, Json.put_cons v [] hx]
    rfl

/-! ## Steps in a document that was written to -/

theorem stepIn?_setChild (w v : Json) (s : Step) (token : String) :
    stepIn? (Json.setChild w v s) token = stepIn? v token := by
  cases v <;> cases s <;> try rfl
  rw [Json.setChild, stepIn?, stepIn?, List.length_set]

/-- **Steps lead to a place whatever is written there.** -/
theorem place?_put {steps : List String} {v : Json} {l : Location} (w : Json)
    (h : place? steps v = some l) : place? steps (Json.put w l v) = some l := by
  induction steps generalizing v l with
  | nil =>
    cases h
    rfl
  | cons token rest ih =>
    rw [place?_cons] at h
    obtain ⟨s, hs, h⟩ := Option.bind_eq_some_iff.1 h
    obtain ⟨u, hu, h⟩ := Option.bind_eq_some_iff.1 h
    obtain ⟨m, hm, rfl⟩ := Option.map_eq_some_iff.1 h
    rw [Json.put_cons w m hu, place?_cons, stepIn?_setChild, hs, Option.bind_some,
      Json.child?_setChild_self _ hu, Option.bind_some, ih hm]
    rfl

/-! ## The texts of a location -/

theorem index_toString {upper n : Nat} (h : n < upper) (hupper : upper ≤ Text.numeralBound) :
    index upper (toString n) = .ok n := by
  have hinteger := Text.integer?_toString (Nat.lt_of_lt_of_le h hupper)
  simp only [index, hinteger]
  rw [if_pos ⟨Int.natCast_nonneg n, Int.ofNat_lt.2 h⟩, Int.toNat_natCast]

/-- Digits name no other position than their own. -/
theorem eq_of_index_toString {upper j k : Nat} (h : index upper (toString j) = .ok k) : k = j := by
  unfold index at h
  cases hi : Text.integer? (toString j) with
  | none =>
    rw [hi] at h
    cases h
  | some i =>
    have hij := Text.eq_of_integer?_toString hi
    rw [hi] at h
    simp only at h
    split at h
    · cases h
      omega
    · cases h

theorem index_lt {upper i : Nat} {token : String} (h : index upper token = .ok i) : i < upper := by
  unfold index at h
  cases hn : Text.integer? token with
  | none => simp [hn] at h
  | some n =>
    simp only [hn] at h
    split at h
    · rename_i hbounds
      cases h
      omega
    · cases h

theorem index_end (upper : Nat) : (index upper "-").toOption = none := by
  have hdash : Text.integer? "-" = none := rfl
  unfold index
  rw [hdash]
  rfl

theorem stepIn?_token {v u : Json} {s : Step} (hd : v.IsDocument) (h : v.child? s = some u) :
    stepIn? v s.token = some s := by
  cases v <;> cases s <;> simp only [Json.child?, reduceCtorEq] at h
  · have hn := (List.getElem?_eq_some_iff.1 h).1
    simp only [stepIn?, Step.token, index_toString hn hd.indexable.1]
    rfl
  · rfl

/-- **The texts of a location lead to it.** -/
theorem place?_tokens {v u : Json} {l : Location} (hd : v.IsDocument) (h : v.at? l = some u) :
    place? (l.map Step.token) v = some l := by
  induction l generalizing v with
  | nil => rfl
  | cons s l ih =>
    rw [Json.at?_cons, Option.bind_eq_some_iff] at h
    obtain ⟨x, hx, hl⟩ := h
    rw [List.map_cons, place?_cons, stepIn?_token hd hx, Option.bind_some, hx, Option.bind_some,
      ih (hd.child hx) hl]
    rfl

theorem get_tokens {v u : Json} {l : Location} (path : String) (hd : v.IsDocument)
    (h : v.at? l = some u) : get path (l.map Step.token) v = .ok u := by
  rw [← toOption_eq_some, toOption_get, reached?, place?_tokens hd h]
  exact h

theorem update_tokens {v u w : Json} {l : Location} {path : String}
    {f : Json → Except Fault Json} (hd : v.IsDocument) (h : v.at? l = some u) (hf : f u = .ok w) :
    update path f (l.map Step.token) v = .ok (Json.put w l v) := by
  rw [← toOption_eq_some, toOption_update, place?_tokens hd h, Option.bind_some, h,
    Option.bind_some, hf]
  rfl

end RemoteModel.Patch
