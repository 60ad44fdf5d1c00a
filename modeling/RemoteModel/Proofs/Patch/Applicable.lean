import RemoteModel.Proofs.Patch.Steps

/-!
# Where a patch stops

`Applicable` says what an operation needs of a document, without saying what it does to it: a path
that names steps, a value at the end of the steps that lead to one, and a container that can do
with the last step what is asked of it.

**Main statement.** `apply_stops`: a patch gives a document exactly if each of its operations is
applicable to what the ones before it have left. Otherwise it is refused on account of the first
operation that is not, and the report names that operation.

The steps of a path may be any texts, so each way to go wrong has to be met on each of them: a
text that is no numeral, a numeral that leads out of a list, a name that an object does not have,
a value that has no parts. `get_eq_ok` and `exists_update_eq_ok` deal with the way to the last
container, `exists_addEntry_eq_ok` and its companions with the container itself.
-/

namespace RemoteModel.Patch

variable {document v w root : Json} {steps : List String} {path key : String} {o : Operation}

/-! ## What an operation needs -/

/-- Steps lead from a value to one of its parts: names through objects, numerals through lists. -/
inductive Leads : List String → Json → Json → Prop
  | here (v : Json) : Leads [] v v
  | member {ms : Entries Json} {token : String} {rest : List String} {u w : Json}
      (hu : ms.get? token = some u) (hrest : Leads rest u w) : Leads (token :: rest) (.obj ms) w
  | item {items : List Json} {token : String} {rest : List String} {i : Nat} {u w : Json}
      (hi : Text.integer? token = some ↑i) (hu : items[i]? = some u) (hrest : Leads rest u w) :
      Leads (token :: rest) (.arr items) w

/-- A container takes one more value under a key. -/
inductive Takes : String → Json → Prop
  | atEnd (items : List Json) : Takes "-" (.arr items)
  | position {items : List Json} {key : String} {i : Nat} (hi : Text.integer? key = some ↑i)
      (hle : i ≤ items.length) : Takes key (.arr items)
  | member (ms : Entries Json) (key : String) : Takes key (.obj ms)

/-- A container holds a value under a key. -/
inductive Holds : String → Json → Prop
  | item {items : List Json} {key : String} {i : Nat} (hi : Text.integer? key = some ↑i)
      (hlt : i < items.length) : Holds key (.arr items)
  | member {ms : Entries Json} {key : String} {u : Json} (hu : ms.get? key = some u) :
      Holds key (.obj ms)

/-- A container can be given another value under a key; an object need not have the key. -/
inductive Allows : String → Json → Prop
  | item {items : List Json} {key : String} {i : Nat} (hi : Text.integer? key = some ↑i)
      (hlt : i < items.length) : Allows key (.arr items)
  | member (ms : Entries Json) (key : String) : Allows key (.obj ms)

/-- Steps name the root, which can always be changed, or they lead to a container of which the last
one says what it has to. -/
inductive Ends (P : String → Json → Prop) (document : Json) : List String → Prop
  | root : Ends P document []
  | inside {front : List String} {key : String} {container : Json}
      (hfront : Leads front document container) (hkey : P key container) :
      Ends P document (front ++ [key])

/-- A path names steps in a document. -/
inductive Names (document : Json) (path : String) : List String → Prop
  | pointer {steps : List String} (h : Address.ofPath path = .ok (.pointer steps)) :
      Names document path steps
  | fromRoot {steps : List String} (h : Address.ofPath path = .ok (.fromRoot steps)) :
      Names document path steps
  | fromElement {id : String} {found steps : List String}
      (h : Address.ofPath path = .ok (.fromElement id steps))
      (hfound : locate id document = some found) : Names document path (found ++ steps)

/-- An operation is applicable to a document. -/
inductive Applicable (document : Json) (o : Operation) : Prop
  | add {steps : List String} (haction : o.action = .add) (hpath : Names document o.path steps)
      (htarget : Ends Takes document steps)
  | remove {steps : List String} (haction : o.action = .remove)
      (hpath : Names document o.path steps) (htarget : Ends Holds document steps)
  | replace {steps : List String} (haction : o.action = .replace)
      (hpath : Names document o.path steps) (htarget : Ends Allows document steps)
  | test {steps : List String} {v : Json} (haction : o.action = .test)
      (hpath : Names document o.path steps) (hvalue : Leads steps document v)
      (hequal : v.equal o.operand = true)
  | copy {steps source : List String} {origin : String} {v : Json} (haction : o.action = .copy)
      (hpath : Names document o.path steps) (horigin : o.source = some origin)
      (hsource : Names document origin source) (hvalue : Leads source document v)
      (htarget : Ends Takes document steps)
  /-- The target takes the value when the source has been removed. -/
  | move {steps source : List String} {origin : String} {v rest : Json}
      (haction : o.action = .move) (hpath : Names document o.path steps)
      (horigin : o.source = some origin) (hsource : Names document origin source)
      (hvalue : Leads source document v) (hrest : remove o.path source document = .ok rest)
      (htarget : Ends Takes rest steps)

/-- Operations apply one after the other, each to what the ones before it have left. -/
inductive Applies : Json → List Operation → Json → Prop
  | nil (document : Json) : Applies document [] document
  | cons {document next result : Json} {o : Operation} {rest : List Operation}
      (happlicable : Applicable document o) (hnext : applyOperation document o = .ok next)
      (hrest : Applies next rest result) : Applies document (o :: rest) result

/-! ## Following steps -/

theorem index_eq_ok {upper i : Nat} {token : String} :
    index upper token = .ok i ↔ Text.integer? token = some ↑i ∧ i < upper := by
  unfold index
  cases Text.integer? token with
  | none => simp
  | some n =>
    simp only [Option.some.injEq]
    by_cases hbounds : 0 ≤ n ∧ n < upper
    · rw [if_pos hbounds, Except.ok.injEq]
      omega
    · rw [if_neg hbounds]
      simp only [reduceCtorEq, false_iff]
      omega

/-- **Reading at steps succeeds where they lead to a value.** -/
theorem get_eq_ok : get path steps v = .ok w ↔ Leads steps v w := by
  constructor
  · intro h
    induction steps generalizing v with
    | nil =>
      cases h
      exact .here _
    | cons token rest ih =>
      cases v with
      | obj ms =>
        rw [get] at h
        cases hu : Entries.get? ms token with
        | none => simp [hu] at h
        | some u =>
          rw [hu] at h
          exact .member hu (ih h)
      | arr items =>
        rw [get] at h
        cases hi : index items.length token with
        | error fault => simp [hi] at h
        | ok i =>
          simp only [hi] at h
          obtain ⟨hinteger, hlt⟩ := index_eq_ok.1 hi
          have hu : items[i]? = some items[i] := List.getElem?_eq_getElem hlt
          rw [hu] at h
          exact .item hinteger hu (ih h)
      | _ => cases h
  · intro h
    induction h with
    | here v => rfl
    | member hu _ ih =>
      rw [get, hu]
      exact ih
    | @item items token rest i u w hi hu _ ih =>
      have hlt : i < items.length := (List.getElem?_eq_some_iff.1 hu).1
      rw [get, index_eq_ok.2 ⟨hi, hlt⟩]
      simp only [hu, ih]

/-- A change succeeds where the steps lead to a value that can be changed. -/
theorem exists_update_eq_ok {f : Json → Except Fault Json} :
    (∃ r, update path f steps v = .ok r) ↔ ∃ u, Leads steps v u ∧ ∃ r, f u = .ok r := by
  constructor
  · rintro ⟨r, hr⟩
    have hsome : (update path f steps v).toOption = some r := toOption_eq_some.2 hr
    rw [toOption_update] at hsome
    obtain ⟨l, hl, hsome⟩ := Option.bind_eq_some_iff.1 hsome
    obtain ⟨u, hu, hsome⟩ := Option.bind_eq_some_iff.1 hsome
    obtain ⟨x, hx, -⟩ := Option.map_eq_some_iff.1 hsome
    have hreached : (get path steps v).toOption = some u := by
      rw [toOption_get, reached?, hl]
      exact hu
    exact ⟨u, get_eq_ok.1 (toOption_eq_some.1 hreached), x, toOption_eq_some.1 hx⟩
  · rintro ⟨u, hu, x, hx⟩
    have hreached : reached? steps v = some u := by
      rw [← toOption_get path, get_eq_ok.2 hu]
      rfl
    obtain ⟨l, hl, hat⟩ := Option.bind_eq_some_iff.1 hreached
    refine ⟨Json.put x l v, toOption_eq_some.1 ?_⟩
    rw [toOption_update, hl, Option.bind_some, hat, Option.bind_some, hx]
    rfl

/-- An edit succeeds at the root, or in a container that can do what is asked of it. -/
theorem exists_edit_eq_ok {entry : String → Json → Except Fault Json} {P : String → Json → Prop}
    (hentry : ∀ key u, (∃ r, entry key u = .ok r) ↔ P key u) :
    (∃ r, edit path root entry steps document = .ok r) ↔ Ends P document steps := by
  constructor
  · intro h
    rcases List.eq_nil_or_concat steps with rfl | ⟨front, key, rfl⟩
    · exact .root
    · rw [List.concat_eq_append] at h ⊢
      rw [edit_concat] at h
      obtain ⟨u, hu, hr⟩ := exists_update_eq_ok.1 h
      exact .inside hu ((hentry key u).1 hr)
  · rintro (_ | ⟨hfront, hkey⟩)
    · exact ⟨root, rfl⟩
    · rw [edit_concat]
      exact exists_update_eq_ok.2 ⟨_, hfront, (hentry _ _).2 hkey⟩

/-! ## Containers -/

theorem exists_map_index_eq_ok {upper : Nat} {f : Nat → Json} :
    (∃ r, (index upper key).map f = .ok r) ↔ ∃ i : Nat, Text.integer? key = some ↑i ∧ i < upper := by
  constructor
  · rintro ⟨r, hr⟩
    obtain ⟨i, hi, -⟩ := map_eq_ok.1 hr
    exact ⟨i, index_eq_ok.1 hi⟩
  · rintro ⟨i, hi⟩
    exact ⟨f i, map_eq_ok.2 ⟨i, index_eq_ok.2 hi, rfl⟩⟩

theorem exists_addEntry_eq_ok {append : Bool} (key : String) (u : Json) :
    (∃ r, addEntry path append key v u = .ok r) ↔ Takes key u := by
  cases u with
  | arr items =>
    rw [addEntry]
    by_cases hkey : key = "-"
    · rw [if_pos hkey]
      exact ⟨fun _ => hkey ▸ .atEnd items, fun _ => ⟨_, rfl⟩⟩
    · rw [if_neg hkey, exists_map_index_eq_ok]
      constructor
      · rintro ⟨i, hi, hlt⟩
        exact .position hi (Nat.le_of_lt_succ hlt)
      · rintro (_ | ⟨hi, hle⟩)
        · exact absurd rfl hkey
        · exact ⟨_, hi, Nat.lt_succ_of_le hle⟩
  | obj ms =>
    refine ⟨fun _ => .member ms key, fun _ => ?_⟩
    simp only [addEntry]
    split <;> exact ⟨_, rfl⟩
  | _ => exact ⟨fun h => by simp [addEntry] at h, fun h => by cases h⟩

theorem exists_removeEntry_eq_ok (key : String) (u : Json) :
    (∃ r, removeEntry path key u = .ok r) ↔ Holds key u := by
  cases u with
  | arr items =>
    rw [removeEntry, exists_map_index_eq_ok]
    constructor
    · rintro ⟨i, hi, hlt⟩
      exact .item hi hlt
    · rintro ⟨hi, hlt⟩
      exact ⟨_, hi, hlt⟩
  | obj ms =>
    rw [removeEntry, Entries.contains]
    constructor
    · intro h
      cases hu : Entries.get? ms key with
      | none => simp [hu] at h
      | some u => exact .member hu
    · rintro (_ | ⟨hu⟩)
      simp [hu]
  | _ => exact ⟨fun h => by simp [removeEntry] at h, fun h => by cases h⟩

theorem exists_replaceEntry_eq_ok (key : String) (u : Json) :
    (∃ r, replaceEntry path key v u = .ok r) ↔ Allows key u := by
  cases u with
  | arr items =>
    rw [replaceEntry, exists_map_index_eq_ok]
    constructor
    · rintro ⟨i, hi, hlt⟩
      exact .item hi hlt
    · rintro ⟨hi, hlt⟩
      exact ⟨_, hi, hlt⟩
  | obj ms => exact ⟨fun _ => .member ms key, fun _ => ⟨_, rfl⟩⟩
  | _ => exact ⟨fun h => by simp [replaceEntry] at h, fun h => by cases h⟩

/-! ## Operations -/

theorem exists_add_eq_ok {append : Bool} :
    (∃ r, add path append steps v document = .ok r) ↔ Ends Takes document steps :=
  exists_edit_eq_ok exists_addEntry_eq_ok

theorem exists_remove_eq_ok :
    (∃ r, remove path steps document = .ok r) ↔ Ends Holds document steps :=
  exists_edit_eq_ok exists_removeEntry_eq_ok

theorem exists_replace_eq_ok :
    (∃ r, replace path steps v document = .ok r) ↔ Ends Allows document steps :=
  exists_edit_eq_ok exists_replaceEntry_eq_ok

theorem names_iff : Names document path steps ↔
    ∃ isModelPath, resolvePath document path = .ok (steps, isModelPath) := by
  unfold resolvePath
  constructor
  · rintro (h | h | ⟨h, hfound⟩)
    · exact ⟨_, by rw [h]; rfl⟩
    · exact ⟨_, by rw [h]; rfl⟩
    · exact ⟨true, by rw [h]; simp [Address.resolve, hfound, Address.isModelPath, bind, Except.bind]⟩
  · rintro ⟨isModelPath, h⟩
    obtain ⟨address, haddress, h⟩ := bind_eq_ok.1 h
    obtain ⟨found, hfound, h⟩ := bind_eq_ok.1 h
    cases h
    cases address with
    | pointer steps =>
      cases hfound
      exact .pointer haddress
    | fromRoot steps =>
      cases hfound
      exact .fromRoot haddress
    | fromElement id steps =>
      rw [Address.resolve] at hfound
      cases hlocate : locate id document with
      | none => simp [hlocate] at hfound
      | some front =>
        rw [hlocate] at hfound
        cases hfound
        exact .fromElement haddress hlocate

theorem sourceSteps_eq_ok : sourceSteps document o = .ok steps ↔
    ∃ origin, o.source = some origin ∧ Names document origin steps := by
  unfold sourceSteps
  cases o.source with
  | none => simp
  | some origin =>
    simp only [map_eq_ok, names_iff, Option.some.injEq, exists_eq_left', Prod.exists,
      exists_eq_right, exists_and_right]

theorem applicable_of_eq_ok {next : Json} (h : applyOperation document o = .ok next) :
    Applicable document o := by
  obtain ⟨⟨steps, isModelPath⟩, hresolve, h⟩ := bind_eq_ok.1 h
  have hpath : Names document o.path steps := names_iff.2 ⟨isModelPath, hresolve⟩
  cases haction : o.action with
  | add =>
    simp only [haction] at h
    exact .add haction hpath (exists_add_eq_ok.1 ⟨next, h⟩)
  | remove =>
    simp only [haction] at h
    exact .remove haction hpath (exists_remove_eq_ok.1 ⟨next, h⟩)
  | replace =>
    simp only [haction] at h
    exact .replace haction hpath (exists_replace_eq_ok.1 ⟨next, h⟩)
  | test =>
    simp only [haction] at h
    obtain ⟨v, hv, h⟩ := bind_eq_ok.1 h
    by_cases hequal : v.equal o.operand = true
    · exact .test haction hpath (get_eq_ok.1 hv) hequal
    · simp [hequal] at h
  | move =>
    simp only [haction] at h
    obtain ⟨source, hsource, h⟩ := bind_eq_ok.1 h
    obtain ⟨v, hv, h⟩ := bind_eq_ok.1 h
    obtain ⟨rest, hrest, h⟩ := bind_eq_ok.1 h
    obtain ⟨origin, horigin, hnames⟩ := sourceSteps_eq_ok.1 hsource
    exact .move haction hpath horigin hnames (get_eq_ok.1 hv) hrest (exists_add_eq_ok.1 ⟨next, h⟩)
  | copy =>
    simp only [haction] at h
    obtain ⟨source, hsource, h⟩ := bind_eq_ok.1 h
    obtain ⟨v, hv, h⟩ := bind_eq_ok.1 h
    obtain ⟨origin, horigin, hnames⟩ := sourceSteps_eq_ok.1 hsource
    exact .copy haction hpath horigin hnames (get_eq_ok.1 hv) (exists_add_eq_ok.1 ⟨next, h⟩)

theorem Applicable.exists_eq_ok (h : Applicable document o) :
    ∃ next, applyOperation document o = .ok next := by
  unfold applyOperation
  cases h with
  | add haction hpath htarget =>
    obtain ⟨isModelPath, hresolve⟩ := names_iff.1 hpath
    simp only [hresolve, haction, bind, Except.bind]
    exact exists_add_eq_ok.2 htarget
  | remove haction hpath htarget =>
    obtain ⟨isModelPath, hresolve⟩ := names_iff.1 hpath
    simp only [hresolve, haction, bind, Except.bind]
    exact exists_remove_eq_ok.2 htarget
  | replace haction hpath htarget =>
    obtain ⟨isModelPath, hresolve⟩ := names_iff.1 hpath
    simp only [hresolve, haction, bind, Except.bind]
    exact exists_replace_eq_ok.2 htarget
  | test haction hpath hvalue hequal =>
    obtain ⟨isModelPath, hresolve⟩ := names_iff.1 hpath
    simp only [hresolve, haction, bind, Except.bind, get_eq_ok.2 hvalue, hequal, if_true]
    exact ⟨document, rfl⟩
  | copy haction hpath horigin hsource hvalue htarget =>
    obtain ⟨isModelPath, hresolve⟩ := names_iff.1 hpath
    simp only [hresolve, haction, bind, Except.bind, sourceSteps_eq_ok.2 ⟨_, horigin, hsource⟩,
      get_eq_ok.2 hvalue]
    exact exists_add_eq_ok.2 htarget
  | move haction hpath horigin hsource hvalue hrest htarget =>
    obtain ⟨isModelPath, hresolve⟩ := names_iff.1 hpath
    simp only [hresolve, haction, bind, Except.bind, sourceSteps_eq_ok.2 ⟨_, horigin, hsource⟩,
      get_eq_ok.2 hvalue, hrest]
    exact exists_add_eq_ok.2 htarget

/-- **An operation applies exactly if it is applicable.** -/
theorem exists_applyOperation_eq_ok :
    (∃ next, applyOperation document o = .ok next) ↔ Applicable document o :=
  ⟨fun ⟨_, h⟩ => applicable_of_eq_ok h, Applicable.exists_eq_ok⟩

/-! ## Patches -/

theorem apply_eq_ok {ops : List Operation} {result : Json} :
    apply document ops = .ok result ↔ Applies document ops result := by
  constructor
  · intro h
    induction ops generalizing document with
    | nil =>
      cases h
      exact .nil _
    | cons o rest ih =>
      rw [apply] at h
      cases hnext : applyOperation document o with
      | error fault => simp [hnext] at h
      | ok next =>
        rw [hnext] at h
        exact .cons (exists_applyOperation_eq_ok.1 ⟨next, hnext⟩) hnext (ih h)
  · intro h
    induction h with
    | nil document => rfl
    | cons _ hnext _ ih =>
      rw [apply, hnext]
      exact ih

/-- A patch is refused on account of one operation; the ones before it apply. -/
theorem apply_eq_error {ops : List Operation} {e : Error} (h : apply document ops = .error e) :
    ∃ before o after middle fault, ops = before ++ o :: after ∧ apply document before = .ok middle ∧
      applyOperation middle o = .error fault ∧ e = .unpatchable fault o.toWire := by
  induction ops generalizing document with
  | nil => cases h
  | cons o rest ih =>
    rw [apply] at h
    cases hnext : applyOperation document o with
    | error fault =>
      rw [hnext] at h
      cases h
      exact ⟨[], o, rest, document, fault, rfl, rfl, hnext, rfl⟩
    | ok next =>
      rw [hnext] at h
      obtain ⟨before, p, after, middle, fault, rfl, hbefore, hp, he⟩ := ih h
      refine ⟨o :: before, p, after, middle, fault, rfl, ?_, hp, he⟩
      rw [apply, hnext]
      exact hbefore

/-- **A patch stops at the first operation that is not applicable.** Either all operations apply and
the patch gives what they leave, or it is refused: then the operations up to one of them apply, that
one is not applicable to what they have left, and the report of the patch shows its wire form. -/
theorem apply_stops (document : Json) (ops : List Operation) :
    (∃ result, Applies document ops result ∧ apply document ops = .ok result) ∨
    ∃ before o after middle e, ops = before ++ o :: after ∧ Applies document before middle ∧
      ¬ Applicable middle o ∧ apply document ops = .error e ∧
      (∃ fault, e = .unpatchable fault o.toWire) ∧ e.details = [("operation", o.toWire)] := by
  cases h : apply document ops with
  | ok result => exact .inl ⟨result, apply_eq_ok.1 h, rfl⟩
  | error e =>
    obtain ⟨before, o, after, middle, fault, hsplit, hbefore, ho, rfl⟩ := apply_eq_error h
    refine .inr ⟨before, o, after, middle, _, hsplit, apply_eq_ok.1 hbefore, fun happlicable => ?_,
      rfl, ⟨fault, rfl⟩, rfl⟩
    obtain ⟨next, hnext⟩ := exists_applyOperation_eq_ok.2 happlicable
    rw [ho] at hnext
    cases hnext

end RemoteModel.Patch
