/-!
# Named entries in order

Objects, environments, query strings and registries are all lists of named entries whose order
can be seen from outside. `Entries α` is such a list.

**Rules.** Looking up a name finds its first entry. Writing under a name that is present keeps
the entry where it is; writing under a new name puts it last. Erasing closes the gap.

Main statements: `get?_insert_self`, `get?_insert_of_ne` and `names_insert`.
-/

namespace RemoteModel

/-- A list of values under names. -/
abbrev Entries (α : Type) := List (String × α)

namespace Entries

variable {α β : Type}

/-- The value under a name, if there is one. -/
def get? : Entries α → String → Option α
  | [], _ => none
  | (k, v) :: rest, name => if k = name then some v else get? rest name

def contains (es : Entries α) (name : String) : Bool := (get? es name).isSome

/-- Writes a value under a name: in place if the name is present, at the end otherwise. -/
def insert : Entries α → String → α → Entries α
  | [], name, v => [(name, v)]
  | (k, w) :: rest, name, v => if k = name then (k, v) :: rest else (k, w) :: insert rest name v

/-- Removes the entry of a name. -/
def erase : Entries α → String → Entries α
  | [], _ => []
  | (k, v) :: rest, name => if k = name then rest else (k, v) :: erase rest name

def names (es : Entries α) : List String := es.map (·.1)

def values (es : Entries α) : List α := es.map (·.2)

/-- Writes all entries of the second list into the first, in order. -/
def merge (es news : Entries α) : Entries α := news.foldl (fun acc e => insert acc e.1 e.2) es

/-- The same entries with every name kept once, the last value winning at the first place. -/
def ofList (es : List (String × α)) : Entries α := merge [] es

/-- Every name occurs once. -/
def Distinct (es : Entries α) : Prop := es.names.Nodup

/-! ## Laws -/

theorem get?_insert_self (es : Entries α) (name : String) (v : α) :
    get? (insert es name v) name = some v := by
  induction es with
  | nil => simp [insert, get?]
  | cons e rest ih =>
    obtain ⟨k, w⟩ := e
    by_cases h : k = name <;> simp [insert, get?, h, ih]

theorem get?_insert_of_ne (es : Entries α) {name other : String} (v : α) (h : other ≠ name) :
    get? (insert es name v) other = get? es other := by
  induction es with
  | nil => simp [insert, get?, Ne.symm h]
  | cons e rest ih =>
    obtain ⟨k, w⟩ := e
    by_cases hk : k = name
    · subst hk; simp [insert, get?, Ne.symm h]
    · by_cases ho : k = other
      · subst ho; simp [insert, get?, hk]
      · simp [insert, get?, hk, ho, ih]

/-- A name that is present keeps its place, and a new one goes last. -/
theorem names_insert (es : Entries α) (name : String) (v : α) :
    names (insert es name v) =
      if name ∈ names es then names es else names es ++ [name] := by
  induction es with
  | nil => simp [insert, names]
  | cons e rest ih =>
    obtain ⟨k, w⟩ := e
    by_cases hk : k = name
    · simp [insert, names, hk]
    · have hk' : ¬ name = k := fun h => hk h.symm
      simp only [names] at ih
      by_cases hm : name ∈ List.map (fun x => x.1) rest <;>
        simp [insert, names, hk, hk', ih, hm]

end Entries

end RemoteModel
