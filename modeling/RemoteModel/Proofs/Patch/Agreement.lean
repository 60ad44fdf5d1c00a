import RemoteModel.Proofs.Patch.Replacement

/-!
# Model paths and pointers agree

A place in a document has two names: the model path of an element with steps from there, and the
pointer of the steps that lead to the place from the root. An operation does the same at both.

**Outcomes.** The path of an operation shows only in what is reported when it does not apply, so
outcomes are compared up to the report (`SameOutcome`). What is read and changed depends on the
steps alone (`toOption_get`, `toOption_edit_congr`).

**The one difference.** Adding at a model path whose last step names a list of an object appends
to that list; adding at the pointer replaces it (`NamesList`).

Main statement: `modelPath_agrees`.
-/

namespace RemoteModel.Patch

open Json (Location)

variable {document : Json} {steps : List String} {o : Operation}

/-! ## Outcomes -/

/-- Two patches give the same document, or neither of them applies. -/
def SameOutcome (x y : Except Error Json) : Prop :=
  (∃ result, x = .ok result ∧ y = .ok result) ∨
    ((∃ fault operation, x = .error (.unpatchable fault operation)) ∧
      ∃ fault operation, y = .error (.unpatchable fault operation))

theorem apply_singleton_eq_error (h : (applyOperation document o).toOption = none) :
    ∃ fault operation, apply document [o] = .error (.unpatchable fault operation) := by
  cases ho : applyOperation document o with
  | ok next => simp [ho, Except.toOption] at h
  | error fault => exact ⟨fault, o.toWire, by simp only [apply, ho]⟩

/-- Operations that do the same to a document up to what they report have the same outcome. -/
theorem sameOutcome_of_toOption {p : Operation}
    (h : (applyOperation document o).toOption = (applyOperation document p).toOption) :
    SameOutcome (apply document [o]) (apply document [p]) := by
  cases hp : (applyOperation document p).toOption with
  | some result =>
    exact .inl ⟨result, apply_singleton (toOption_eq_some.1 (h.trans hp)),
      apply_singleton (toOption_eq_some.1 hp)⟩
  | none => exact .inr ⟨apply_singleton_eq_error (h.trans hp), apply_singleton_eq_error hp⟩

/-! ## Each operation at two paths -/

theorem toOption_edit_congr {root : Json} {f g : String → Json → Except Fault Json} (p q : String)
    (h : ∀ front key u, steps = front ++ [key] → reached? front document = some u →
      (f key u).toOption = (g key u).toOption) :
    (edit p root f steps document).toOption = (edit q root g steps document).toOption := by
  rcases List.eq_nil_or_concat steps with rfl | ⟨front, key, rfl⟩
  · rfl
  · rw [List.concat_eq_append] at h ⊢
    rw [edit_concat, edit_concat]
    exact toOption_update_congr p q front document fun u hu => h front key u rfl hu

theorem toOption_remove (p q : String) (steps : List String) (document : Json) :
    (remove p steps document).toOption = (remove q steps document).toOption := by
  refine toOption_edit_congr p q fun _ key u _ _ => ?_
  cases u with
  | obj members =>
    simp only [removeEntry]
    split <;> rfl
  | _ => rfl

theorem toOption_replace (p q : String) (steps : List String) (v document : Json) :
    (replace p steps v document).toOption = (replace q steps v document).toOption := by
  refine toOption_edit_congr p q fun _ _ u _ _ => ?_
  cases u <;> rfl

theorem toOption_test (p q : String) (steps : List String) (v document : Json) :
    ((get p steps document).bind fun u =>
        if u.equal v then .ok document else .error (Fault.testFailed p)).toOption =
      ((get q steps document).bind fun u =>
        if u.equal v then .ok document else .error (Fault.testFailed q)).toOption := by
  have hget := (toOption_get p steps document).trans (toOption_get q steps document).symm
  cases hp : get p steps document with
  | error fault =>
    cases hq : get q steps document with
    | error fault => rfl
    | ok u => simp [hp, hq, Except.toOption] at hget
  | ok u =>
    cases hq : get q steps document with
    | error fault => simp [hp, hq, Except.toOption] at hget
    | ok w =>
      simp only [hp, hq, Except.toOption, Option.some.injEq] at hget
      subst hget
      simp only [Except.bind]
      split <;> rfl

/-! ## Adding to a list -/

/-- Steps that lead to a list, which is a member of an object. -/
structure NamesList (document : Json) (steps : List String) (l : Location) (items : List Json) :
    Prop where
  leads : place? steps document = some l
  list : document.at? l = some (.arr items)
  member : ∃ front key, l = front ++ [.member key]

theorem stepIn?_eq_member {v : Json} {token name : String} :
    stepIn? v token = some (.member name) ↔ ∃ members, v = .obj members ∧ token = name := by
  cases v <;> simp [stepIn?]

/-- The container of the last step is an object that holds the list under that step. -/
theorem namesList_concat {front : List String} {key : String} {l : Location} {items : List Json} :
    NamesList document (front ++ [key]) l items ↔
      ∃ k members, l = k ++ [.member key] ∧ place? front document = some k ∧
        document.at? k = some (.obj members) ∧ Entries.get? members key = some (.arr items) := by
  constructor
  · intro h
    obtain ⟨back, name, hl⟩ := h.member
    obtain ⟨k, u, s, w, hk, hu, hs, hw, hks⟩ := place?_concat.1 h.leads
    obtain ⟨rfl, hsname⟩ := List.append_inj' (hl.symm.trans hks) rfl
    cases hsname
    obtain ⟨members, rfl, rfl⟩ := stepIn?_eq_member.1 hs
    have hlist := h.list
    rw [hl, Json.at?_append, hu, Option.bind_some, Json.at?_cons] at hlist
    refine ⟨back, members, hl, hk, hu, ?_⟩
    cases hget : Entries.get? members key with
    | none => simp [Json.child?, hget] at hlist
    | some x => simpa [Json.child?, hget] using hlist
  · rintro ⟨k, members, rfl, hk, hu, hget⟩
    refine ⟨place?_concat.2 ⟨k, _, _, _, hk, hu, rfl, hget, rfl⟩, ?_, k, key, rfl⟩
    rw [Json.at?_append, hu, Option.bind_some, Json.at?_cons, Json.child?, hget]
    rfl

/-- What an edit at a list of an object does, if it puts a value in the place of the list. -/
theorem edit_of_namesList {path : String} {root w : Json}
    {entry : String → Json → Except Fault Json} {l : Location} {items : List Json}
    (h : NamesList document steps l items)
    (hentry : ∀ key members, Entries.get? members key = some (.arr items) →
      entry key (.obj members) = .ok (.obj (Entries.insert members key w))) :
    edit path root entry steps document = .ok (Json.put w l document) := by
  rcases List.eq_nil_or_concat steps with rfl | ⟨front, key, rfl⟩
  · obtain ⟨front, key, hl⟩ := h.member
    exact absurd (Option.some.inj h.leads) (by simp [hl])
  · rw [List.concat_eq_append] at h ⊢
    obtain ⟨k, members, rfl, hk, hu, hget⟩ := namesList_concat.1 h
    rw [edit_concat, ← toOption_eq_some, toOption_update, hk, Option.bind_some, hu,
      Option.bind_some, hentry key members hget, Json.put_append w _ hu]
    simp [Except.toOption, Json.put, Json.child?, Json.setChild, hget]

theorem add_appended (path : String) {l : Location} {items : List Json} (v : Json)
    (h : NamesList document steps l items) :
    add path true steps v document = .ok (Json.put (.arr (items ++ [v])) l document) := by
  refine edit_of_namesList h fun key members hget => ?_
  simp only [addEntry, hget]

theorem add_replaced (path : String) {l : Location} {items : List Json} (v : Json)
    (h : NamesList document steps l items) :
    add path false steps v document = .ok (Json.put v l document) :=
  edit_of_namesList h fun _ _ _ => rfl

/-- Whether adding appends to lists matters only where the steps name one. -/
theorem toOption_add (p q : String) (v : Json)
    (h : ∀ l items, ¬ NamesList document steps l items) :
    (add p true steps v document).toOption = (add q false steps v document).toOption := by
  refine toOption_edit_congr p q fun front key u hsteps hu => ?_
  cases u with
  | obj members =>
    simp only [addEntry]
    cases hget : Entries.get? members key with
    | none => rfl
    | some w =>
      cases w with
      | arr items =>
        rw [reached?, Option.bind_eq_some_iff] at hu
        obtain ⟨k, hk, hu⟩ := hu
        refine absurd ?_ (h (k ++ [.member key]) items)
        rw [hsteps]
        exact namesList_concat.2 ⟨k, members, rfl, hk, hu, hget⟩
      | _ => rfl
  | _ => rfl

/-! ## The two names of a place -/

/-- An operation at another path. -/
def Operation.onPath (o : Operation) (path : String) : Operation := { o with path := path }

/-- Where two paths lead by the same steps, reading and changing do the same. -/
theorem toOption_onPath {p q : String} (hp : resolvePath document p = .ok (steps, true))
    (hq : resolvePath document q = .ok (steps, false))
    (h : o.action = .replace ∨ o.action = .remove ∨ o.action = .test) :
    (applyOperation document (o.onPath p)).toOption =
      (applyOperation document (o.onPath q)).toOption := by
  unfold applyOperation Operation.onPath
  rcases h with h | h | h
  · simp only [hp, hq, h, bind, Except.bind]
    exact toOption_replace p q steps o.operand document
  · simp only [hp, hq, h, bind, Except.bind]
    exact toOption_remove p q steps document
  · simp only [hp, hq, h, bind]
    exact toOption_test p q steps o.operand document

theorem applyOperation_add {p : String} {isModelPath : Bool}
    (hp : resolvePath document p = .ok (steps, isModelPath)) (h : o.action = .add) :
    applyOperation document (o.onPath p) = add p isModelPath steps o.operand document := by
  unfold applyOperation Operation.onPath
  simp only [hp, h, bind, Except.bind]
  rfl

/-- **Model paths and pointers agree.** An operation at the model path of an element and of steps
from there has the outcome that it has at the pointer of all steps from the root, except that
adding appends to a list at the one and replaces it at the other. -/
theorem modelPath_agrees {id : String} {found rest : List String} (modeluri : String)
    (o : Operation) (hid : id ≠ "") (hplain : ∀ s ∈ id :: rest, '/' ∉ s.toList)
    (hfound : locate id document = some found) (hsharp : ∀ s ∈ found ++ rest, '#' ∉ s.toList) :
    let named := o.onPath (Address.modelPath modeluri id rest)
    let pointed := o.onPath (Address.pointerText (found ++ rest))
    (o.action = .replace ∨ o.action = .remove ∨ o.action = .test →
      SameOutcome (apply document [named]) (apply document [pointed])) ∧
    (o.action = .add → ∀ l items, NamesList document (found ++ rest) l items →
      apply document [named] = .ok (Json.put (.arr (items ++ [o.operand])) l document) ∧
        apply document [pointed] = .ok (Json.put o.operand l document)) ∧
    (o.action = .add → (∀ l items, ¬ NamesList document (found ++ rest) l items) →
      SameOutcome (apply document [named]) (apply document [pointed])) := by
  have hp := resolvePath_modelPath modeluri hid hplain hfound
  have hq := resolvePath_pointerText document hsharp
  refine ⟨fun h => ?_, fun h l items hlist => ⟨?_, ?_⟩, fun h hlist => ?_⟩
  · exact sameOutcome_of_toOption (toOption_onPath hp hq h)
  · exact apply_singleton ((applyOperation_add hp h).trans (add_appended _ _ hlist))
  · exact apply_singleton ((applyOperation_add hq h).trans (add_replaced _ _ hlist))
  · refine sameOutcome_of_toOption ?_
    rw [applyOperation_add hp h, applyOperation_add hq h]
    exact toOption_add _ _ _ hlist

/-- A list of an element inside a list. -/
theorem modelPath_agrees_machine :
    locate "#~1" machine = some ["parts", "1"] ∧
      let o : Operation := { action := .add, path := "", value := some (.int 2) }
      let l : Location := [.member "parts", .item 1, .member "teeth"]
      apply machine [o.onPath (Address.modelPath "machine.ecore" "#~1" ["teeth"])] =
          .ok (Json.put (.arr [.int 1, .int 2]) l machine) ∧
        apply machine [o.onPath (Address.pointerText ["parts", "1", "teeth"])] =
          .ok (Json.put (.int 2) l machine) := by
  have hfound : locate "#~1" machine = some ["parts", "1"] := by decide +kernel
  have hlist : NamesList machine ["parts", "1", "teeth"]
      [.member "parts", .item 1, .member "teeth"] [.int 1] :=
    ⟨by decide +kernel, rfl, [.member "parts", .item 1], "teeth", rfl⟩
  refine ⟨hfound, ?_⟩
  exact (modelPath_agrees "machine.ecore" _ (by decide) (by decide) hfound (by decide)).2.1 rfl
    _ _ hlist

end RemoteModel.Patch
