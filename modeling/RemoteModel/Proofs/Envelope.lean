import RemoteModel.Proofs.Json.WrittenBytes
import RemoteModel.Proofs.Notification.Frames

/-!
# Envelopes on the wire

An envelope is sent as a text of JSON, and arrives as a text or as its bytes. Data that are `null`
are not sent, and data that are missing are read as `null`.

**Main statement.** `ofFrame_toText`: an envelope arrives as it was sent, with the order of the
members of its data, if the data can be written (`Json.Portable`).
-/

namespace RemoteModel.Envelope

variable {m : Envelope}

/-- What is sent has one member for the type, and one for data that are not `null`. -/
theorem toWire_cases (m : Envelope) :
    (m.data = .null ∧ m.toWire = .obj [("type", .str m.type)]) ∨
      (m.data ≠ .null ∧ m.toWire = .obj [("type", .str m.type), ("data", m.data)]) := by
  by_cases hdata : m.data = .null
  · exact .inl ⟨hdata, by rw [toWire, if_pos hdata]⟩
  · exact .inr ⟨hdata, by rw [toWire, if_neg hdata]⟩

theorem wellFormed_toWire (h : m.data.WellFormed) : m.toWire.WellFormed := by
  rcases toWire_cases m with ⟨-, hwire⟩ | ⟨-, hwire⟩ <;> rw [hwire]
  · exact ⟨by simp [Entries.Distinct, Entries.names], trivial, trivial⟩
  · exact ⟨by simp [Entries.Distinct, Entries.names], trivial, h, trivial⟩

theorem portable_toWire (h : m.data.Portable) : m.toWire.Portable := by
  rcases toWire_cases m with ⟨-, hwire⟩ | ⟨-, hwire⟩ <;> rw [hwire]
  · exact ⟨trivial, trivial⟩
  · exact ⟨trivial, h, trivial⟩

theorem faithful_toWire (h : m.data.Faithful) : m.toWire.Faithful := by
  rcases toWire_cases m with ⟨-, hwire⟩ | ⟨-, hwire⟩ <;> rw [hwire]
  · exact ⟨trivial, trivial⟩
  · exact ⟨trivial, h, trivial⟩

theorem ofJson_toWire (m : Envelope) : ofJson m.toWire = .ok m := by
  rcases toWire_cases m with ⟨hdata, hwire⟩ | ⟨-, hwire⟩ <;> rw [hwire]
  · exact ofJson_of_type rfl hdata.symm
  · exact ofJson_of_type rfl rfl

/-- **An envelope arrives as it was sent**, as a text and as bytes. -/
theorem ofFrame_toText (hw : m.data.WellFormed) (hp : m.data.Portable) :
    ofFrame (.text m.toText) = .ok m ∧
      ofFrame (.bytes (Text.Utf8.encode m.toText.toList)) = .ok m := by
  have hwire := wellFormed_toWire hw
  have hportable := portable_toWire hp
  constructor
  · simp only [ofFrame, toText, Json.text,
      Json.read_render Json.Layout.spaced_isPlain hwire hportable, ofJson_toWire]
  · simp only [ofFrame, toText, Json.text,
      Json.readBytes_render Json.Layout.spaced_isPlain rfl hwire hportable, ofJson_toWire]

/-- Nested data with escapes, a character beyond the first plane and a long integer. -/
def letter : Envelope :=
  { type := "fullUpdate"
    data := .obj
      [("a \"quoted\" key", .arr [.null, .bool true, .int (-98765432109876543210), .arr []]),
        ("", .obj [("text", .str "tab\t, bell\x07, clef 𝄞, \\ and é")]), ("$id", .str "//@a.0")] }

theorem ofFrame_toText_letter :
    letter.data.WellFormed ∧ letter.data.Portable ∧ ofFrame (.text letter.toText) = .ok letter ∧
      ofFrame (.bytes (Text.Utf8.encode letter.toText.toList)) = .ok letter := by
  have hwell : letter.data.WellFormed := by
    simp [letter, Json.WellFormed, Json.WellFormedItems, Json.WellFormedMembers, Entries.Distinct,
      Entries.names]
  have hlong : 98765432109876543210 < Text.numeralBound :=
    Nat.lt_of_lt_of_le (by decide) (Text.pow_le_numeralBound (k := 20) (by decide))
  have hportable : letter.data.Portable := by
    simp [letter, Json.Portable, Json.PortableItems, Json.PortableMembers, hlong]
  exact ⟨hwell, hportable, ofFrame_toText hwell hportable⟩

end RemoteModel.Envelope
