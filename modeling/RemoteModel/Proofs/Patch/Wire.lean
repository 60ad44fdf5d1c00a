import RemoteModel.Patch.Apply
import RemoteModel.Proofs.Check
import RemoteModel.Proofs.Except

/-!
# Lists of wire operations

Two tests decide whether a value is a patch: a look at two of its members (`isOperation`) and the
reading of all of them (`Operation.ofWire`). Whatever is read also passes the look
(`isOperation_of_ofWire`), so a list that is read is a patch.

**Applying.** Wire operations are read one by one, each when its turn comes. When all of them can
be read, this comes to the same as reading them first (`applyWire_eq_apply`).
-/

namespace RemoteModel.Patch

namespace Operation

theorem ofWire_eq_error {v : Json} {e : Error} (h : ofWire v = .error e) :
    e = .undecodable "Operation" v :=
  Checked.orUndecodable_eq_error h

/-- What is read as an operation also looks like one. -/
theorem isOperation_of_ofWire {v : Json} {o : Operation} (h : ofWire v = .ok o) :
    isOperation v = true := by
  obtain ⟨ms, rfl, hms⟩ := Check.fields_eq_ok.1 (Checked.orUndecodable_eq_ok.1 h)
  simp only [Checked.seq_eq_ok, Checked.map_eq_ok] at hms
  obtain ⟨_, _, ⟨_, _, ⟨_, _, ⟨action, haction, -⟩, hpath, -⟩, -, -⟩, -, -⟩ := hms
  obtain ⟨op, hop, hname⟩ := Check.required_eq_ok.1 haction
  obtain ⟨name, rfl, hnamed⟩ := Check.word_eq_ok.1 hname
  obtain ⟨path, hget, htext⟩ := Check.required_eq_ok.1 hpath
  rw [Check.text_eq_ok] at htext
  subst htext
  simp [isOperation, Json.text?, Json.hasString, Json.get?, Json.string?, Json.isString, hop, hget,
    hnamed]

end Operation

/-- The items of a list are read as the given operations, one by one. -/
abbrev Reads (items : List Json) (os : List Operation) : Prop :=
  List.Forall₂ (fun v o => Operation.ofWire v = .ok o) items os

theorem operations_arr (items : List Json) :
    operations (.arr items) = (items.mapM Operation.ofWire).mapError Failure.reported := by
  simp only [operations, bind, Except.bind, elements]
  cases items.mapM Operation.ofWire <;> rfl

theorem isPatch_of_reads {items : List Json} {os : List Operation} (h : Reads items os) :
    Operation.isPatch (.arr items) = true := by
  simp only [Operation.isPatch, List.all_eq_true]
  induction h with
  | nil => simp
  | cons hv _ ih =>
    intro w hw
    rcases List.mem_cons.1 hw with rfl | hw
    · exact Operation.isOperation_of_ofWire hv
    · exact ih w hw

/-- Reading operations when their turn comes changes nothing. -/
theorem applyWire_eq_apply {items : List Json} {os : List Operation} (h : Reads items os)
    (document : Json) : applyWire document items = apply document os := by
  induction h generalizing document with
  | nil => rfl
  | cons hv _ ih =>
    simp only [applyWire, apply, hv]
    cases applyOperation document _ with
    | error fault => rfl
    | ok next => exact ih next

end RemoteModel.Patch
