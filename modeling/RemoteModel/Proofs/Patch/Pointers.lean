import RemoteModel.Proofs.Patch.Replacement

/-!
# The pointer of a location

The pointer of a location is made of the steps to it: names of members with their escapes, and the
digits of positions.

**Where it leads.** If no step holds a number sign, the pointer leads to its location and to no
other place: the value that is found there passes a test for it, and a replacement changes this
location alone. A name may hold every other character, and it may be empty.

**Number signs.** The pointer of a location whose steps hold a number sign is taken for a model
path, so it leads to whatever its rest names in the model.

Main statement: `pointer_leads`.
-/

namespace RemoteModel

open Json (Step Location Apart)

/-! ## A value and itself -/

namespace Json

theorem same_self (x : Double) : x.same x = true ↔ x ≠ .nan := by
  cases x <;> simp [Double.same]

/-- What a container asks of an item, of which a `nan` is as good as any. -/
def Alike (v : Json) : Prop := (bothNan v v || equal v v) = true

theorem equalItems_self {items : List Json} (h : ∀ v ∈ items, Alike v) :
    equalItems items items = true := by
  induction items with
  | nil => rfl
  | cons v rest ih =>
    obtain ⟨hv, hrest⟩ := List.forall_mem_cons.1 h
    rw [equalItems, hv, ih hrest]
    rfl

theorem equalMembers_of_get? {as bs : Entries Json}
    (h : ∀ m ∈ as, Entries.get? bs m.1 = some m.2 ∧ Alike m.2) : equalMembers as bs = true := by
  induction as with
  | nil => rfl
  | cons m rest ih =>
    obtain ⟨⟨hget, halike⟩, hrest⟩ := List.forall_mem_cons.1 h
    obtain ⟨k, v⟩ := m
    simp only [equalMembers, hget, Bool.and_eq_true]
    exact ⟨halike, ih hrest⟩

/-- **Every value is equal to itself but `nan`.** -/
theorem equal_self {v : Json} (hw : v.WellFormed) : v.equal v = true ↔ v ≠ .float .nan := by
  -- Inside a container a `nan` is found, too.
  have halike : ∀ u : Json, (u.equal u = true ↔ u ≠ .float .nan) → Alike u := by
    intro u hu
    by_cases hnan : u = .float .nan
    · subst hnan
      rfl
    · exact Bool.or_eq_true_iff.2 (.inr (hu.2 hnan))
  induction v using induct with
  | null => simp [equal, isNull]
  | bool b => simp [equal, integral?]
  | int n => simp [equal, integral?]
  | str s => simp [equal, string?]
  | float x => simp [equal, same_self]
  | arr items ih =>
    have hitems := equalItems_self fun u hu => halike u (ih u hu (wellFormedItems_iff.1 hw u hu))
    simp [equal, hitems]
  | obj ms ih =>
    have hmembers : equalMembers ms ms = true := equalMembers_of_get? fun m hm =>
      ⟨Entries.get?_of_mem hw.1 hm, halike m.2 (ih m hm (wellFormedMembers_iff.1 hw.2 m hm))⟩
    simp [equal, hmembers]

end Json

namespace Patch

variable {d x : Json} {l : Location} {path : String}

/-- The pointer of a location. -/
def pointer (l : Location) : String := Address.pointerText (l.map Step.token)

/-- The operation that puts a value in the place of what stands at a path. -/
def replaceWith (v : Json) (path : String) : Operation :=
  { action := .replace, path := path, value := some v }

/-- The operation that tests what stands at a path. -/
def testFor (v : Json) (path : String) : Operation :=
  { action := .test, path := path, value := some v }

/-- A path of a location: it names the steps of the location, and if something stands there, the
steps lead to it. -/
structure IsPathTo (d : Json) (path : String) (l : Location) : Prop where
  resolves : ∃ isModelPath, resolvePath d path = .ok (l.map Step.token, isModelPath)
  leads : ∀ x, d.at? l = some x → place? (l.map Step.token) d = some l

theorem isPathTo_of_resolvePath {isModelPath : Bool} (hd : d.IsDocument)
    (h : resolvePath d path = .ok (l.map Step.token, isModelPath)) : IsPathTo d path l :=
  ⟨⟨isModelPath, h⟩, fun _ hl => place?_tokens hd hl⟩

/-! ## Operations at a path of a location -/

theorem apply_testFor_iff (hd : d.IsDocument) (hpath : IsPathTo d path l) (hl : d.at? l = some x) :
    apply d [testFor x path] = .ok d ↔ x ≠ .float .nan := by
  obtain ⟨isModelPath, hresolve⟩ := hpath.resolves
  have htest : applyOperation d (testFor x path) =
      if x.equal x then .ok d else .error (.testFailed path) := by
    unfold applyOperation testFor
    simp only [hresolve, bind, Except.bind, get_tokens _ hd hl]
    rfl
  rw [apply_singleton_iff, htest, ← Json.equal_self (hd.at? hl).wellFormed]
  by_cases hequal : x.equal x = true <;> simp [hequal]

theorem apply_replaceWith (hpath : IsPathTo d path l) (hl : d.at? l = some x) (v : Json) :
    apply d [replaceWith v path] = .ok (Json.put v l d) := by
  obtain ⟨isModelPath, hresolve⟩ := hpath.resolves
  refine apply_singleton ?_
  unfold applyOperation replaceWith
  simp only [hresolve, bind, Except.bind]
  exact replace_of_place? path v (hpath.leads x hl)

/-! ## Pointers -/

theorem isPathTo_pointer (hd : d.IsDocument) (h : ∀ s ∈ l, '#' ∉ s.token.toList) :
    IsPathTo d (pointer l) l :=
  isPathTo_of_resolvePath hd (resolvePath_pointerText d (List.forall_mem_map.2 h))

/-- **The pointer of a location leads to it**, unless a step to it holds a number sign: a test for
the value there passes, and a replacement changes this location and no other. If a step holds a
number sign, the rest of the pointer behind the first one is read as a place in a model. -/
theorem pointer_leads (hd : d.IsDocument) (hl : d.at? l = some x) :
    ((∀ s ∈ l, '#' ∉ s.token.toList) →
      IsPathTo d (pointer l) l ∧
      (apply d [testFor x (pointer l)] = .ok d ↔ x ≠ .float .nan) ∧
      ∀ v, ∃ r, apply d [replaceWith v (pointer l)] = .ok r ∧ r.at? l = some v ∧
        ∀ m, Apart l m → r.at? m = d.at? m) ∧
    ∀ before s after a b, l = before ++ s :: after → (∀ t ∈ before, '#' ∉ t.token.toList) →
      s.token.toList = a ++ '#' :: b → '#' ∉ a →
      Address.ofPath (pointer l) =
        .ok (Address.ofFragment (Address.escape b ++ (pointer after).toList)) := by
  refine ⟨?_, ?_⟩
  · intro hplain
    have hpath := isPathTo_pointer hd hplain
    refine ⟨hpath, apply_testFor_iff hd hpath hl, ?_⟩
    intro v
    exact ⟨Json.put v l d, apply_replaceWith hpath hl v, Json.at?_put_self v hl, fun m hm =>
      Json.at?_put_of_apart v d hm⟩
  · intro before s after a b hsplit hbefore hs ha
    have htokens : l.map Step.token =
        before.map Step.token ++ s.token :: after.map Step.token := by
      rw [hsplit, List.map_append, List.map_cons]
    rw [pointer, htokens]
    exact Address.ofPath_pointerText_sharp (List.forall_mem_map.2 hbefore) hs ha

/-- A document whose names hold the signs of pointers, of escapes and of model paths. -/
def signs : Json :=
  .obj [("a/b", .obj [("~1", .arr [.int 1, .str "x"]), ("", .null)]), ("@0", .bool true)]

theorem signs_isDocument : signs.IsDocument := by
  refine ⟨?_, ?_⟩
  · simp [signs, Json.WellFormed, Json.WellFormedItems, Json.WellFormedMembers,
      Entries.Distinct, Entries.names]
  · have htwo : 2 ≤ Text.numeralBound := Text.le_numeralBound (by decide)
    simp [signs, Json.Indexable, Json.IndexableItems, Json.IndexableMembers, htwo]

/-- An item of a list below two names with signs in them. -/
theorem pointer_leads_signs :
    signs.IsDocument ∧ signs.at? [.member "a/b", .member "~1", .item 1] = some (.str "x") ∧
      pointer [.member "a/b", .member "~1", .item 1] = "/a~1b/~01/1" ∧
      IsPathTo signs "/a~1b/~01/1" [.member "a/b", .member "~1", .item 1] ∧
      apply signs [testFor (.str "x") "/a~1b/~01/1"] = .ok signs ∧
      ∃ r, apply signs [replaceWith .null "/a~1b/~01/1"] = .ok r ∧
        r.at? [.member "a/b", .member "~1", .item 1] = some .null ∧
        ∀ m, Apart [.member "a/b", .member "~1", .item 1] m → r.at? m = signs.at? m := by
  have hl : signs.at? [.member "a/b", .member "~1", .item 1] = some (.str "x") := rfl
  have htext : pointer [.member "a/b", .member "~1", .item 1] = "/a~1b/~01/1" := rfl
  have hleads := (pointer_leads signs_isDocument hl).1 (by decide)
  rw [htext] at hleads
  obtain ⟨hpath, htest, hreplace⟩ := hleads
  exact ⟨signs_isDocument, hl, htext, hpath, htest.2 (by decide), hreplace .null⟩

/-- With a number sign in a name, a replacement changes the whole document, and a test for the
value that is there looks for an element. -/
theorem pointer_misses :
    let counted := Json.obj [("a#", .int 1), ("b", .int 2)]
    let tagged := Json.obj [("a#b", .int 1)]
    let test := testFor (.int 1) (pointer [.member "a#b"])
    counted.at? [.member "a#"] = some (.int 1) ∧
      apply counted [replaceWith (.int 3) (pointer [.member "a#"])] = .ok (.int 3) ∧
      tagged.at? [.member "a#b"] = some (.int 1) ∧
      apply tagged [test] = .error (.unpatchable (.noElement "b") test.toWire) := by
  exact ⟨rfl, rfl, rfl, rfl⟩

end Patch

end RemoteModel
