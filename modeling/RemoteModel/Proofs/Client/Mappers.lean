import RemoteModel.Client.Calls
import RemoteModel.Proofs.Notification.Frames

/-!
# What calls make of envelopes

The calls of the client differ in their mappers, of which there are six. `Mapper.Maps` says what
the type and the data of an envelope are mapped to. A mapper returns this and nothing else
(`decode_eq_ok`), and what it does not map it reports as undecodable (`code_of_decode`).
-/

namespace RemoteModel

/-- What a call makes of an envelope. -/
inductive Mapper : Type → Type
  /-- A model in the selected shape. -/
  | selected (s : Selector) : Mapper Json
  /-- Models, each in the selected shape. -/
  | listing (s : Selector) : Mapper (List ModelRecord)
  | texts : Mapper (List String)
  | success : Mapper Bool
  | diagnostic : Mapper Diagnostic
  | text : Mapper String

/-! ## What is mapped -/

/-- A content has the selected shape, or is given it. -/
inductive Selected : Selector → Json → Json → Prop
  | object (members : Entries Json) : Selected .object (.obj members) (.obj members)
  | format (name : String) (v : Json) : Selected (.format name) v (.str (Narrow.text v))
  | guarded {g : Guard} {v : Json} (expected : Option String) (h : g.holds v) :
      Selected (.guarded g expected) v v

/-- What the type and the data of an envelope are mapped to. -/
inductive Mapper.Maps : {α : Type} → Mapper α → String → Json → α → Prop
  | selected {s type data v} (h : Selected s data v) : Maps (.selected s) type data v
  | listing {s type members records}
      (h : List.Forall₂ (fun (k, v) (record : ModelRecord) =>
        record.modeluri = k ∧ Selected s v record.content) members records) :
      Maps (.listing s) type (.obj members) records
  | texts (type : String) (items : List Json) :
      Maps .texts type (.arr items) (items.map Narrow.text)
  | success (type : String) (data : Json) : Maps .success type data (type = "success")
  | diagnostic {type data d} (hguard : Diagnostic.isDiagnostic data)
      (h : Diagnostic.check data = .ok d) : Maps .diagnostic type data d
  | text (type : String) (data : Json) : Maps .text type data (Narrow.text data)

/-! ## Narrowing -/

variable {α : Type} {m : Envelope} {type : String} {data v w : Json} {s : Selector} {e : Error}

theorem Selector.narrow_eq_ok : s.narrow v = .ok w ↔ Selected s v w := by
  constructor
  · intro h
    cases s with
    | object =>
      cases v <;> cases h
      exact .object _
    | format name =>
      cases h
      exact .format name v
    | guarded g expected =>
      simp only [narrow, Narrow.guarded] at h
      split at h
      · rename_i hholds
        cases h
        exact .guarded expected hholds
      · cases h
  · rintro (members | ⟨name, v⟩ | ⟨expected, hholds⟩)
    · rfl
    · rfl
    · simp only [narrow, Narrow.guarded, hholds, if_true]

theorem Selector.code_of_narrow (h : s.narrow v = .error e) : e.code = .decode := by
  cases s with
  | object => cases v <;> cases h <;> rfl
  | format name => cases h
  | guarded g expected =>
    simp only [narrow, Narrow.guarded] at h
    split at h
    · cases h
    · cases h
      rfl

theorem narrow_content_eq_ok {record record' : ModelRecord} :
    ((s.narrow record.content).map fun v => { record with content := v }) = .ok record' ↔
      record'.modeluri = record.modeluri ∧ Selected s record.content record'.content := by
  rw [map_eq_ok]
  constructor
  · rintro ⟨v, hv, rfl⟩
    exact ⟨rfl, Selector.narrow_eq_ok.1 hv⟩
  · rintro ⟨huri, hselected⟩
    refine ⟨record'.content, Selector.narrow_eq_ok.2 hselected, ?_⟩
    rw [← huri]

/-- A listing is made of the members of an object, each narrowed by itself. -/
theorem listing_eq_ok {members : Entries Json} {records : List ModelRecord} :
    ((members.map fun m => (⟨m.1, m.2⟩ : ModelRecord)).mapM fun r =>
        (s.narrow r.content).map fun v => { r with content := v }) = .ok records ↔
      List.Forall₂ (fun (k, v) (record : ModelRecord) =>
        record.modeluri = k ∧ Selected s v record.content) members records := by
  rw [mapM_eq_ok, List.forall₂_map_left_iff]
  constructor
  · intro h
    exact h.imp fun m record => narrow_content_eq_ok.1
  · intro h
    exact h.imp fun m record => narrow_content_eq_ok.2

/-! ## Mappers -/

namespace Mapper

/-- The function that maps envelopes. -/
def decode : {α : Type} → Mapper α → Envelope → Except Error α
  | _, selected s => Client.ofData s.narrow
  | _, listing s => fun m => do
    let records ← m.models
    records.mapM fun r => (s.narrow r.content).map fun v => { r with content := v }
  | _, texts => Client.ofData Narrow.texts
  | _, success => Client.success
  | _, diagnostic => Client.ofData Diagnostic.ofWire
  | _, text => Client.dataText

theorem decode_eq_ok {μ : Mapper α} {value : α} :
    μ.decode ⟨type, data⟩ = .ok value ↔ μ.Maps type data value := by
  constructor
  · intro h
    cases μ with
    | selected s => exact .selected (Selector.narrow_eq_ok.1 h)
    | listing s =>
      cases data with
      | obj members => exact .listing (listing_eq_ok.1 h)
      | _ => cases h
    | texts => cases data <;> cases h; exact .texts _ _
    | success =>
      cases h
      exact .success _ _
    | diagnostic =>
      simp only [decode, Client.ofData, Diagnostic.ofWire, Narrow.checked] at h
      split at h
      · rename_i hguard
        exact .diagnostic hguard (Checked.orUndecodable_eq_ok.1 h)
      · cases h
    | text =>
      cases h
      exact .text _ _
  · rintro (hselected | hlisting | _ | _ | ⟨hguard, hcheck⟩ | _)
    · exact Selector.narrow_eq_ok.2 hselected
    · exact listing_eq_ok.2 hlisting
    · rfl
    · rfl
    · have hholds : Diagnostic.guard.holds data = true := hguard
      simp only [decode, Client.ofData, Diagnostic.ofWire, Narrow.checked, hholds, if_true]
      exact Checked.orUndecodable_eq_ok.2 hcheck
    · rfl

theorem code_of_decode {μ : Mapper α} (h : μ.decode m = .error e) : e.code = .decode := by
  obtain ⟨type, data⟩ := m
  cases μ with
  | selected s => exact Selector.code_of_narrow h
  | listing s =>
    cases data with
    | obj members =>
      obtain ⟨before, record, after, records, -, -, hrecord⟩ := mapM_eq_error h
      exact Selector.code_of_narrow (map_eq_error.1 hrecord)
    | _ => cases h; rfl
  | texts => cases data <;> cases h <;> rfl
  | success => cases h
  | diagnostic =>
    rw [Diagnostic.ofWire_eq_error h]
    rfl
  | text => cases h

end Mapper

end RemoteModel
