import RemoteModel.Command.Wire

/-!
# How reading a command ends

A value is read as a command, or it is refused: the error names the first part that is no command.
There is one exception. The children of a compound command are gone through whatever value they
are, and a value that holds nothing to go through stops the reading without such an error.

**Main statements.** `Stuck` says where this happens: at the first compound command, in the order
of reading, whose children are `null`, a truth value or a number. `settles_ofWire` says that
nothing else happens, and `ofWire_of_stuck` that this does.

The order of reading matters: children are read before the other fields of their command, and a
child that is refused ends the reading, so the children behind it are not looked at.
-/

namespace RemoteModel.Command

/-! ## Compound commands -/

/-- A value that is tagged as a compound command. -/
def IsCompound (v : Json) : Prop := isCommand v = true ∧ v.text? "type" = some compoundTag

instance (v : Json) : Decidable (IsCompound v) := inferInstanceAs (Decidable (_ ∧ _))

/-- Values that hold nothing to go through. -/
def hasElements : Json → Bool
  | .str _ => true
  | .arr _ => true
  | .obj _ => true
  | _ => false

/-- A command whose reading stops at children that cannot be gone through. -/
inductive Stuck : Json → Prop
  /-- The children of the command itself. -/
  | here {ms : Entries Json} {v : Json} (hcompound : IsCompound (.obj ms))
      (hget : ms.get? "commands" = some v) (hv : hasElements v = false) : Stuck (.obj ms)
  /-- Some children are read, and the next one is stuck. -/
  | child {ms : Entries Json} {before after : List Json} {v : Json} {cs : List Command}
      (hcompound : IsCompound (.obj ms))
      (hget : ms.get? "commands" = some (.arr (before ++ v :: after)))
      (hreads : ofWires before = .ok cs) (hv : Stuck v) : Stuck (.obj ms)

theorem ofWire_of_compound {ms : Entries Json} (h : IsCompound (.obj ms)) :
    ofWire (.obj ms) = (do
      let children ← childrenOf ms
      orNone (.obj ms) (checkCompound children (.obj ms))) := by
  obtain ⟨hcommand, htype⟩ := h
  simp [ofWire, hcommand, htype]

theorem ofWire_of_not_compound {ms : Entries Json} (hcommand : isCommand (.obj ms) = true)
    (h : ¬ IsCompound (.obj ms)) :
    ofWire (.obj ms) = orNone (.obj ms)
      (checkVariant (Variant.ofTag ((Json.text? (.obj ms) "type").getD "")) (.obj ms)) := by
  have htype : Json.text? (.obj ms) "type" ≠ some compoundTag := fun ht => h ⟨hcommand, ht⟩
  simp [ofWire, hcommand, htype]

theorem childrenOf_eq (ms : Entries Json) :
    childrenOf ms = match ms.get? "commands" with
      | some v => elementsOf v
      | none => .ok [] := by
  induction ms with
  | nil => rfl
  | cons m rest ih =>
    obtain ⟨k, v⟩ := m
    rw [childrenOf, Entries.get?]
    by_cases hk : k = "commands"
    · rw [if_pos hk, if_pos hk]
    · rw [if_neg hk, if_neg hk]
      exact ih

/-! ## Endings -/

/-- A reading gives something, it names a part that is no command, or it stops for a reason. -/
inductive Settles {α : Type} (reason : Prop) : Except Failure α → Prop
  | read (a : α) : Settles reason (.ok a)
  | refused (part : Json) : Settles reason (.error (.reported (.undecodable "Command" part)))
  | stopped (h : reason) : Settles reason (.error .wrongType)

namespace Settles

variable {α β : Type} {reason reason' : Prop} {x : Except Failure α}

theorem imp (h : Settles reason x) (hr : reason → reason') : Settles reason' x := by
  cases h with
  | read a => exact .read a
  | refused part => exact .refused part
  | stopped h => exact .stopped (hr h)

theorem bind {f : α → Except Failure β} (h : Settles reason x)
    (hf : ∀ a, x = .ok a → Settles reason (f a)) : Settles reason (x >>= f) := by
  cases h with
  | read a => exact hf a rfl
  | refused part => exact .refused part
  | stopped h => exact .stopped h

end Settles

theorem settles_orNone {reason : Prop} (v : Json) (c : Checked Command) :
    Settles reason (orNone v c) := by
  cases c with
  | ok c => exact .read c
  | bad _ => exact .refused v

/-! ## Nothing else happens -/

/-- The children that stand under their name are stuck. -/
def StuckElements (v : Json) : Prop :=
  hasElements v = false ∨
    ∃ before w after cs, v = .arr (before ++ w :: after) ∧ ofWires before = .ok cs ∧ Stuck w

theorem stuck_of_elements {ms : Entries Json} {v : Json} (hcompound : IsCompound (.obj ms))
    (hget : ms.get? "commands" = some v) (h : StuckElements v) : Stuck (.obj ms) := by
  rcases h with hv | ⟨before, w, after, cs, rfl, hreads, hw⟩
  · exact .here hcompound hget hv
  · exact .child hcompound hget hreads hw

/-- What holds no list of commands is refused at its first element. -/
theorem settles_elements (v : Json) (hv : v.isArray = false) :
    Settles (StuckElements v) (elementsOf v) := by
  have hfirst : ∀ items, Patch.elements v = .ok items →
      Settles (StuckElements v) (elementsOf v) := by
    intro items hitems
    cases v with
    | arr _ => cases hv
    | _ =>
      simp only [elementsOf, hitems]
      cases items with
      | nil => exact .read _
      | cons name rest => exact .refused name
  cases v with
  | arr _ => cases hv
  | str s => exact hfirst _ rfl
  | obj ms => exact hfirst _ rfl
  | _ => exact .stopped (.inl rfl)

mutual

/-- **Reading a command** gives a command or names a part that is none, unless the command is
stuck. -/
theorem settles_ofWire : (v : Json) → Settles (Stuck v) (ofWire v)
  | .obj ms => by
    by_cases hcommand : isCommand (.obj ms) = true
    · by_cases hcompound : IsCompound (.obj ms)
      · rw [ofWire_of_compound hcompound]
        have hchildren := settles_childrenOf ms
        refine Settles.bind (hchildren.imp ?_) fun children _ => settles_orNone _ _
        rintro ⟨v, hget, hv⟩
        exact stuck_of_elements hcompound hget hv
      · rw [ofWire_of_not_compound hcommand hcompound]
        exact settles_orNone _ _
    · have hrefused : ofWire (.obj ms) = .error (.reported (.undecodable "Command" (.obj ms))) := by
        simp [ofWire, hcommand]
      rw [hrefused]
      exact .refused _
  | .arr items => .refused (.arr items)
  | .str s => .refused (.str s)
  | .null => .refused .null
  | .bool b => .refused (.bool b)
  | .int n => .refused (.int n)
  | .float x => .refused (.float x)

theorem settles_childrenOf : (ms : List (String × Json)) →
    Settles (∃ v, Entries.get? ms "commands" = some v ∧ StuckElements v) (childrenOf ms)
  | [] => .read []
  | (k, v) :: rest => by
    by_cases hk : k = "commands"
    · rw [childrenOf, if_pos hk]
      exact (settles_elementsOf v).imp fun h => ⟨v, by simp [Entries.get?, hk], h⟩
    · rw [childrenOf, if_neg hk]
      refine (settles_childrenOf rest).imp ?_
      rintro ⟨w, hget, hw⟩
      exact ⟨w, by simpa [Entries.get?, hk] using hget, hw⟩

theorem settles_elementsOf : (v : Json) → Settles (StuckElements v) (elementsOf v)
  | .arr items => by
    rw [elementsOf]
    refine (settles_ofWires items).imp ?_
    rintro ⟨before, w, after, cs, rfl, hreads, hw⟩
    exact .inr ⟨before, w, after, cs, rfl, hreads, hw⟩
  | .obj ms => settles_elements (.obj ms) rfl
  | .str s => settles_elements (.str s) rfl
  | .null => settles_elements .null rfl
  | .bool b => settles_elements (.bool b) rfl
  | .int n => settles_elements (.int n) rfl
  | .float x => settles_elements (.float x) rfl

theorem settles_ofWires : (items : List Json) →
    Settles (∃ before w after cs, items = before ++ w :: after ∧ ofWires before = .ok cs ∧ Stuck w)
      (ofWires items)
  | [] => .read []
  | v :: rest => by
    rw [ofWires]
    refine Settles.bind ((settles_ofWire v).imp fun h => ⟨[], v, rest, [], rfl, rfl, h⟩) ?_
    intro c hc
    refine Settles.bind ((settles_ofWires rest).imp ?_) fun cs _ => .read _
    rintro ⟨before, w, after, cs, rfl, hreads, hw⟩
    exact ⟨v :: before, w, after, c :: cs, rfl, by rw [ofWires, hc, hreads]; rfl, hw⟩

end

/-! ## Stuck commands -/

/-- The children behind some that are read. -/
theorem ofWires_append {before : List Json} {cs : List Command} (h : ofWires before = .ok cs)
    (more : List Json) : ofWires (before ++ more) = (ofWires more).map (cs ++ ·) := by
  induction before generalizing cs with
  | nil =>
    cases h
    show ofWires more = _
    cases ofWires more <;> rfl
  | cons v rest ih =>
    rw [ofWires] at h
    cases hv : ofWire v with
    | error failure => simp [hv, bind, Except.bind] at h
    | ok c =>
      cases hr : ofWires rest with
      | error failure => simp [hv, hr, bind, Except.bind] at h
      | ok cs' =>
        simp only [hv, hr, bind, Except.bind, Except.ok.injEq] at h
        subst h
        rw [List.cons_append, ofWires, hv, ih hr]
        cases ofWires more <;> rfl

/-- **A stuck command** is not reported. -/
theorem ofWire_of_stuck {v : Json} (h : Stuck v) : ofWire v = .error .wrongType := by
  induction h with
  | here hcompound hget hv =>
    rename_i ms v
    have helements : elementsOf v = .error .wrongType := by
      cases v with
      | str _ => cases hv
      | arr _ => cases hv
      | obj _ => cases hv
      | _ => rfl
    rw [ofWire_of_compound hcompound, childrenOf_eq, hget]
    simp only [helements]
    rfl
  | child hcompound hget hreads _ ih =>
    rw [ofWire_of_compound hcompound, childrenOf_eq, hget]
    simp only [elementsOf, ofWires_append hreads, ofWires, ih]
    rfl

end RemoteModel.Command
