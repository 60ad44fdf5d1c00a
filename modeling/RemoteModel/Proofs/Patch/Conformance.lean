import RemoteModel.Proofs.Patch.Replacement
import RemoteModel.Proofs.Patch.StandardChange

/-!
# How far patches follow the standard

A patch of the standard that the standard applies is applied with the same result. Beyond that,
some operations that the standard refuses are applied too (`Conforms` excludes them):

* a position in a list may be written in other ways, with a sign, with zeros in front or with
  the digits of another script,
* a member that is replaced need not be there,
* a move may lead into its own source, if an item behind the source takes its place, and
* a test takes a truth value for the number zero or one, and a `nan` among items for itself.

**Main statement.** `apply_standard`: the standard applies a patch exactly when it is applied here
and all operations on the way conform, and then the results are the same.

A test compares values (`equal_of_same`); with the changes this gives the two directions for an
operation (`applyOperation_of_standard`, `standard_of_applyOperation`), and induction on the
operations gives them for a patch.
-/

namespace RemoteModel.Patch

variable {document r : Json} {o : Operation} {ops : List Operation} {tokens : List String}

/-! ## Testing -/

mutual

/-- Values that are the same for the standard are equal. -/
theorem equal_of_same : (a b : Json) → Standard.same a b = true → a.equal b = true
  | .null, b, h => by cases b <;> simp_all [Standard.same, Json.equal, Json.isNull]
  | .bool a, b, h => by cases b <;> simp_all [Standard.same, Json.equal, Json.integral?]
  | .int a, b, h => by cases b <;> simp_all [Standard.same, Json.equal, Json.integral?]
  | .float x, b, h => by cases b <;> simp_all [Standard.same, Json.equal, Json.integral?]
  | .str a, b, h => by cases b <;> simp_all [Standard.same, Json.equal, Json.string?]
  | .arr as, b, h => by
    cases b with
    | arr bs => exact equalItems_of_same as bs h
    | _ => cases h
  | .obj as, b, h => by
    cases b with
    | obj bs =>
      simp only [Standard.same, Bool.and_eq_true] at h
      simp only [Json.equal, Bool.and_eq_true]
      exact ⟨h.1, equalMembers_of_same as bs h.2⟩
    | _ => cases h

theorem equalItems_of_same :
    (as bs : List Json) → Standard.sameItems as bs = true → Json.equalItems as bs = true
  | [], [], _ => rfl
  | [], _ :: _, h => by cases h
  | _ :: _, [], h => by cases h
  | a :: as, b :: bs, h => by
    simp only [Standard.sameItems, Bool.and_eq_true] at h
    simp only [Json.equalItems, Bool.and_eq_true, Bool.or_eq_true]
    exact ⟨.inr (equal_of_same a b h.1), equalItems_of_same as bs h.2⟩

theorem equalMembers_of_same :
    (as bs : List (String × Json)) → Standard.sameMembers as bs = true →
      Json.equalMembers as bs = true
  | [], _, _ => rfl
  | (k, a) :: rest, bs, h => by
    simp only [Standard.sameMembers, Bool.and_eq_true] at h
    simp only [Json.equalMembers, Bool.and_eq_true]
    refine ⟨?_, equalMembers_of_same rest bs h.2⟩
    cases hb : Entries.get? bs k with
    | none => simp [hb] at h
    | some b =>
      simp only [hb] at h
      simp only [Bool.or_eq_true]
      exact .inr (equal_of_same a b h.1)

end

/-! ## Operations -/

/-- An operation makes no use of what is allowed beyond the standard. -/
def Conforms (document : Json) (o : Operation) : Prop :=
  ∀ path, Standard.tokens? o.path = some path →
    match o.action with
    | .add => Spelled path document
    | .remove => Spelled path document
    | .replace => Spelled path document ∧ ¬ LacksMember path document
    | .test => Spelled path document ∧ ∀ u v, reached? path document = some u → o.value = some v →
        u.equal v = true → Standard.same u v = true
    | .move => ∀ source, Standard.source? o = some source → Spelled source document ∧
        (source <+: path → source = path) ∧
        ∀ rest, remove o.path source document = .ok rest → Spelled path rest
    | .copy => ∀ source, Standard.source? o = some source → Spelled source document ∧
        Spelled path document

theorem sourceSteps_of_source? {source : List String} (ho : Standard.IsStandard o)
    (h : Standard.source? o = some source) : sourceSteps document o = .ok source := by
  obtain ⟨s, hs, hsource⟩ := Option.bind_eq_some_iff.1 h
  simp only [sourceSteps, hs, resolvePath_of_tokens? document (ho.source s hs) hsource, Except.map]

/-- **What the standard applies is applied.** -/
theorem applyOperation_of_standard (ho : Standard.IsStandard o) (hd : document.Indexable)
    (hr : r.Indexable) (h : Standard.applyOperation? document o = some r) :
    applyOperation document o = .ok r ∧ Conforms document o := by
  obtain ⟨path, hpath, h⟩ := Option.bind_eq_some_iff.1 h
  have hresolve := resolvePath_of_tokens? document ho.path hpath
  unfold applyOperation Conforms
  simp only [hpath, hresolve, bind, Except.bind, Option.some.injEq, forall_eq']
  cases haction : o.action with
  | add =>
    rw [haction] at h
    obtain ⟨v, hv, h⟩ := Option.bind_eq_some_iff.1 h
    simp only [Operation.operand, hv, Json.ofOption]
    exact add_of_standard o.path hd hr h
  | remove =>
    rw [haction] at h
    exact remove_of_standard o.path hd h
  | replace =>
    rw [haction] at h
    obtain ⟨v, hv, h⟩ := Option.bind_eq_some_iff.1 h
    simp only [Operation.operand, hv, Json.ofOption]
    exact replace_of_standard o.path hd h
  | test =>
    rw [haction] at h
    obtain ⟨v, hv, h⟩ := Option.bind_eq_some_iff.1 h
    obtain ⟨u, hu, h⟩ := Option.bind_eq_some_iff.1 h
    obtain ⟨hget, hspelled⟩ := get_of_standard o.path hd hu
    split at h
    · rename_i hsame
      cases h
      simp only [Operation.operand, hv, Json.ofOption, hget, equal_of_same u v hsame, if_true,
        true_and]
      refine ⟨hspelled, fun u' v' hu' hv' _ => ?_⟩
      rw [(reached?_of_standard hd hu).1] at hu'
      cases hu'
      cases hv'
      exact hsame
    · cases h
  | move =>
    rw [haction] at h
    obtain ⟨source, hsource, h⟩ := Option.bind_eq_some_iff.1 h
    split at h
    · cases h
    · rename_i hinto
      obtain ⟨v, hv, h⟩ := Option.bind_eq_some_iff.1 h
      obtain ⟨rest, hrest, h⟩ := Option.bind_eq_some_iff.1 h
      obtain ⟨hget, hspelled⟩ := get_of_standard o.path hd hv
      obtain ⟨hremove, -⟩ := remove_of_standard o.path hd hrest
      obtain ⟨hadd, hspelledRest⟩ := add_of_standard o.path (indexable_remove? hd hrest) hr h
      simp only [sourceSteps_of_source? ho hsource, hget, hremove, hadd, hsource,
        Option.some.injEq, forall_eq', Except.ok.injEq, true_and]
      refine ⟨hspelled, fun hleads => ?_, hspelledRest⟩
      by_contra hne
      exact hinto ⟨hleads, hne⟩
  | copy =>
    rw [haction] at h
    obtain ⟨source, hsource, h⟩ := Option.bind_eq_some_iff.1 h
    obtain ⟨v, hv, h⟩ := Option.bind_eq_some_iff.1 h
    obtain ⟨hget, hspelled⟩ := get_of_standard o.path hd hv
    obtain ⟨hadd, hspelledPath⟩ := add_of_standard o.path hd hr h
    simp only [sourceSteps_of_source? ho hsource, hget, hadd, hsource, Option.some.injEq,
      forall_eq', true_and]
    exact ⟨hspelled, hspelledPath⟩

/-- **What is applied and conforms is applied by the standard.** -/
theorem standard_of_applyOperation (ho : Standard.IsStandard o)
    (h : applyOperation document o = .ok r) (hc : Conforms document o) :
    Standard.applyOperation? document o = some r := by
  obtain ⟨path, hpath⟩ := Option.isSome_iff_exists.1 ho.path.tokens
  have hresolve := resolvePath_of_tokens? document ho.path hpath
  replace hc := hc path hpath
  have hvalue : o.action ∈ [Action.add, .replace, .test] → o.value = some o.operand := by
    intro haction
    obtain ⟨v, hv⟩ := Option.isSome_iff_exists.1 (ho.hasValue haction)
    rw [Operation.operand, hv]
    rfl
  have hsource : o.action ∈ [Action.move, .copy] → ∃ source, Standard.source? o = some source := by
    intro haction
    obtain ⟨s, hs⟩ := Option.isSome_iff_exists.1 (ho.hasSource haction)
    obtain ⟨source, hsource⟩ := Option.isSome_iff_exists.1 (ho.source s hs).tokens
    exact ⟨source, by rw [Standard.source?, hs]; exact hsource⟩
  obtain ⟨found, hfound, h⟩ := bind_eq_ok.1 h
  cases hresolve.symm.trans hfound
  unfold Standard.applyOperation?
  simp only [hpath]
  cases haction : o.action with
  | add =>
    simp only [haction] at h hc
    simp [hvalue (by simp [haction]), standard_of_add h hc]
  | remove =>
    simp only [haction] at h hc
    simp [standard_of_remove h hc]
  | replace =>
    simp only [haction] at h hc
    simp [hvalue (by simp [haction]), standard_of_replace h hc.1 hc.2]
  | test =>
    simp only [haction] at h hc
    obtain ⟨u, hu, h⟩ := bind_eq_ok.1 h
    split at h
    · rename_i hequal
      cases h
      have hreached : reached? path document = some u := by
        rw [← toOption_get o.path, hu]
        rfl
      have hv := hvalue (by simp [haction])
      simp [hv, standard_of_get hu hc.1, hc.2 u _ hreached hv hequal]
    · cases h
  | move =>
    simp only [haction] at h hc
    obtain ⟨source, hsource⟩ := hsource (by simp [haction])
    obtain ⟨steps, hsteps, h⟩ := bind_eq_ok.1 h
    cases (sourceSteps_of_source? ho hsource).symm.trans hsteps
    obtain ⟨v, hv, h⟩ := bind_eq_ok.1 h
    obtain ⟨rest, hrest, h⟩ := bind_eq_ok.1 h
    obtain ⟨hspelled, houtward, hspelledRest⟩ := hc source hsource
    have hinto : ¬ (source <+: path ∧ source ≠ path) := fun hinto => hinto.2 (houtward hinto.1)
    simp [hsource, hinto, standard_of_get hv hspelled, standard_of_remove hrest hspelled,
      standard_of_add h (hspelledRest rest hrest)]
  | copy =>
    simp only [haction] at h hc
    obtain ⟨source, hsource⟩ := hsource (by simp [haction])
    obtain ⟨steps, hsteps, h⟩ := bind_eq_ok.1 h
    cases (sourceSteps_of_source? ho hsource).symm.trans hsteps
    obtain ⟨v, hv, h⟩ := bind_eq_ok.1 h
    obtain ⟨hspelled, hspelledPath⟩ := hc source hsource
    simp [hsource, standard_of_get hv hspelled, standard_of_add h hspelledPath]

/-! ## Patches -/

/-- The documents that the standard makes on the way hold no list that is too long for its
positions to be read. -/
def Roomy (document : Json) : List Operation → Prop
  | [] => document.Indexable
  | o :: rest =>
    document.Indexable ∧ ∀ next, Standard.applyOperation? document o = some next → Roomy next rest

/-- Each operation conforms at the document that it is applied to. -/
def Conforming (document : Json) : List Operation → Prop
  | [] => True
  | o :: rest =>
    Conforms document o ∧ ∀ next, applyOperation document o = .ok next → Conforming next rest

theorem Roomy.indexable (h : Roomy document ops) : document.Indexable := by
  cases ops with
  | nil => exact h
  | cons o rest => exact h.1

theorem apply_of_standard (hops : ∀ o ∈ ops, Standard.IsStandard o) (hroom : Roomy document ops)
    (h : Standard.applied? document ops = some r) :
    apply document ops = .ok r ∧ Conforming document ops := by
  induction ops generalizing document with
  | nil =>
    cases h
    exact ⟨rfl, trivial⟩
  | cons o rest ih =>
    obtain ⟨ho, hrest⟩ := List.forall_mem_cons.1 hops
    obtain ⟨next, hnext, h⟩ := Option.bind_eq_some_iff.1 h
    have hroomNext := hroom.2 next hnext
    obtain ⟨hok, hconforms⟩ :=
      applyOperation_of_standard ho hroom.1 hroomNext.indexable hnext
    obtain ⟨happly, hconforming⟩ := ih hrest hroomNext h
    refine ⟨by simp only [apply, hok, happly], hconforms, fun other hother => ?_⟩
    cases hok.symm.trans hother
    exact hconforming

theorem standard_of_apply (hops : ∀ o ∈ ops, Standard.IsStandard o)
    (h : apply document ops = .ok r) (hconforming : Conforming document ops) :
    Standard.applied? document ops = some r := by
  induction ops generalizing document with
  | nil =>
    cases h
    rfl
  | cons o rest ih =>
    obtain ⟨ho, hrest⟩ := List.forall_mem_cons.1 hops
    unfold apply at h
    split at h
    · rename_i next hok
      rw [Standard.applied?, standard_of_applyOperation ho hok hconforming.1, Option.bind_some]
      exact ih hrest h (hconforming.2 next hok)
    · cases h

theorem apply_total (document : Json) (ops : List Operation) :
    (∃ r, apply document ops = .ok r) ∨
      ∃ fault operation, apply document ops = .error (.unpatchable fault operation) := by
  induction ops generalizing document with
  | nil => exact .inl ⟨document, rfl⟩
  | cons o rest ih =>
    unfold apply
    split
    · exact ih _
    · exact .inr ⟨_, _, rfl⟩

/-- **A patch has the result that the standard gives it**, exactly where all operations on the way
conform to the standard, and a patch without a result is reported. -/
theorem apply_standard (hops : ∀ o ∈ ops, Standard.IsStandard o) (hroom : Roomy document ops) :
    (∀ r, Standard.applied? document ops = some r ↔
      apply document ops = .ok r ∧ Conforming document ops) ∧
    ((∃ r, apply document ops = .ok r) ∨
      ∃ fault operation, apply document ops = .error (.unpatchable fault operation)) :=
  ⟨fun _ => ⟨apply_of_standard hops hroom, fun h => standard_of_apply hops h.1 h.2⟩,
    apply_total document ops⟩

/-- The name of a part is moved to the machine, tested there, and the part is removed. -/
def nameMoved : List Operation :=
  [{ action := .move, path := "/name", source := some "/parts/1/name" },
    { action := .test, path := "/name", value := some (.str "x") },
    { action := .remove, path := "/parts/1" }]

/-- A machine whose name was the name of its part. -/
def renamed : Json :=
  .obj [("$type", .str "Machine"), ("$id", .str "m"), ("parts", .arr [.obj [("$id", .str "a")]]),
    ("name", .str "x")]

theorem apply_standard_machine :
    (∀ o ∈ nameMoved, Standard.IsStandard o) ∧ Roomy machine nameMoved ∧
      apply machine nameMoved = .ok renamed ∧ Conforming machine nameMoved := by
  let moved : Json := .obj [("$type", .str "Machine"), ("$id", .str "m"),
    ("parts", .arr [.obj [("$id", .str "a")], .obj [("$id", .str "#~1"), ("teeth", .arr [.int 1])]]),
    ("name", .str "x")]
  have hone : 1 ≤ Text.numeralBound := Text.le_numeralBound (by decide)
  have htwo : 2 ≤ Text.numeralBound := Text.le_numeralBound (by decide)
  have hmoved : moved.Indexable := by
    simp [moved, Json.Indexable, Json.IndexableItems, Json.IndexableMembers, hone, htwo]
  have hrenamed : renamed.Indexable := by
    simp [renamed, Json.Indexable, Json.IndexableItems, Json.IndexableMembers, hone]
  have hroom : Roomy machine nameMoved := by
    refine ⟨machine_isDocument.indexable, fun next hnext => ?_⟩
    obtain rfl : moved = next := Option.some.inj (Eq.trans (by decide +kernel) hnext)
    refine ⟨hmoved, fun next hnext => ?_⟩
    obtain rfl : moved = next := Option.some.inj (Eq.trans (by decide +kernel) hnext)
    refine ⟨hmoved, fun next hnext => ?_⟩
    obtain rfl : renamed = next := Option.some.inj (Eq.trans (by decide +kernel) hnext)
    exact hrenamed
  have happly : Standard.applied? machine nameMoved = some renamed := by decide +kernel
  have hstandard : ∀ o ∈ nameMoved, Standard.IsStandard o := by decide +kernel
  exact ⟨hstandard, hroom, ((apply_standard hstandard hroom).1 renamed).1 happly⟩

/-- An operation of the standard is applied, but not by the standard. -/
structure Exceeds (document : Json) (o : Operation) (r : Json) : Prop where
  standard : Standard.IsStandard o
  refused : Standard.applied? document [o] = none
  applied : apply document [o] = .ok r

/-- The four ways to exceed the standard: a position with a zero in front, a member that is not
there, a move into its own source, and a truth value for a number. -/
theorem exceeding_operations :
    Exceeds (.arr [.null, .null]) { action := .remove, path := "/01" } (.arr [.null]) ∧
    Exceeds (.obj []) { action := .replace, path := "/name", value := some (.int 1) }
      (.obj [("name", .int 1)]) ∧
    Exceeds (.arr [.null, .obj []]) { action := .move, path := "/0/a", source := some "/0" }
      (.arr [.obj [("a", .null)]]) ∧
    Exceeds (.bool true) { action := .test, path := "", value := some (.int 1) } (.bool true) := by
  refine ⟨⟨by decide +kernel, by decide +kernel, ?_⟩, ⟨by decide +kernel, by decide +kernel, ?_⟩,
    ⟨by decide +kernel, by decide +kernel, ?_⟩, ⟨by decide +kernel, by decide +kernel, ?_⟩⟩
  all_goals exact toOption_eq_some.1 (by decide +kernel)

end RemoteModel.Patch
