import RemoteModel.Entries
import RemoteModel.Number.Double

/-!
# JSON values

The values that models, commands and messages are made of. An object is a list of members in
order; integers are kept apart from numbers with a fraction.

**Well-formed values.** The members of an object have distinct names. The reader builds only
such values (`Json.WellFormed`).
-/

namespace RemoteModel

/-- A JSON value. -/
inductive Json where
  | null
  | bool (value : Bool)
  | int (value : Int)
  | float (value : Double)
  | str (text : String)
  | arr (items : List Json)
  | obj (members : List (String × Json))
deriving Inhabited, Repr

namespace Json

/-- What holds of a container when it holds of all that it holds, and of every other value, holds
of all values. -/
theorem induct {P : Json → Prop} (null : P .null) (bool : ∀ b, P (.bool b)) (int : ∀ n, P (.int n))
    (float : ∀ x, P (.float x)) (str : ∀ s, P (.str s))
    (arr : ∀ items, (∀ v ∈ items, P v) → P (.arr items))
    (obj : ∀ members, (∀ m ∈ members, P m.2) → P (.obj members)) (v : Json) : P v :=
  @Json.rec P (fun items => ∀ v ∈ items, P v) (fun members => ∀ m ∈ members, P m.2)
    (fun m => P m.2)
    null bool int float str arr obj
    (fun _ h => nomatch h)
    (fun _ _ hv hrest => List.forall_mem_cons.2 ⟨hv, hrest⟩)
    (fun _ h => nomatch h)
    (fun _ _ hm hrest => List.forall_mem_cons.2 ⟨hm, hrest⟩)
    (fun _ _ hv => hv) v

/-! ## Structural equality -/

mutual

/-- Two values are written alike. -/
def beq : Json → Json → Bool
  | .null, .null => true
  | .bool a, .bool b => a == b
  | .int a, .int b => a == b
  | .float a, .float b => a == b
  | .str a, .str b => a == b
  | .arr as, .arr bs => beqItems as bs
  | .obj as, .obj bs => beqMembers as bs
  | _, _ => false

def beqItems : List Json → List Json → Bool
  | [], [] => true
  | a :: as, b :: bs => beq a b && beqItems as bs
  | _, _ => false

def beqMembers : List (String × Json) → List (String × Json) → Bool
  | [], [] => true
  | (k, a) :: as, (l, b) :: bs => k == l && beq a b && beqMembers as bs
  | _, _ => false

end

mutual

theorem beq_iff : (a b : Json) → (beq a b = true ↔ a = b)
  | .null, b => by cases b <;> simp [beq]
  | .bool _, b => by cases b <;> simp [beq]
  | .int _, b => by cases b <;> simp [beq]
  | .float _, b => by cases b <;> simp [beq]
  | .str _, b => by cases b <;> simp [beq]
  | .arr as, b => by cases b <;> simp [beq, beqItems_iff as]
  | .obj as, b => by cases b <;> simp [beq, beqMembers_iff as]

theorem beqItems_iff : (as bs : List Json) → (beqItems as bs = true ↔ as = bs)
  | [], bs => by cases bs <;> simp [beqItems]
  | a :: as, bs => by cases bs <;> simp [beqItems, beq_iff a, beqItems_iff as]

theorem beqMembers_iff : (as bs : List (String × Json)) → (beqMembers as bs = true ↔ as = bs)
  | [], bs => by cases bs <;> simp [beqMembers]
  | (k, a) :: as, bs => by
    rcases bs with _ | ⟨⟨l, b⟩, bs⟩
    · simp [beqMembers]
    · simp [beqMembers, beq_iff a, beqMembers_iff as, and_assoc]

end

instance : DecidableEq Json := fun a b => decidable_of_iff (beq a b = true) (beq_iff a b)

/-! ## Looking into a value -/

/-- The member of an object under a name. -/
def get? : Json → String → Option Json
  | .obj members, name => Entries.get? members name
  | _, _ => none

def isNull : Json → Bool
  | .null => true
  | _ => false

def isObject : Json → Bool
  | .obj _ => true
  | _ => false

def isArray : Json → Bool
  | .arr _ => true
  | _ => false

def isString : Json → Bool
  | .str _ => true
  | _ => false

def isBool : Json → Bool
  | .bool _ => true
  | _ => false

/-- An integer or a number with a fraction; a truth value is none. -/
def isNumber : Json → Bool
  | .int _ => true
  | .float _ => true
  | _ => false

/-- The text of a string value. -/
def string? : Json → Option String
  | .str s => some s
  | _ => none

/-- The members of an object. -/
def members? : Json → Option (Entries Json)
  | .obj ms => some ms
  | _ => none

/-- A value, with `null` for a missing one. -/
def ofOption : Option Json → Json
  | some v => v
  | none => .null

/-- A text, with `null` for a missing one. -/
def ofText? : Option String → Json
  | some s => .str s
  | none => .null

mutual

/-- All objects inside a value have distinct member names. -/
def WellFormed : Json → Prop
  | .arr items => WellFormedItems items
  | .obj members => Entries.Distinct members ∧ WellFormedMembers members
  | _ => True

def WellFormedItems : List Json → Prop
  | [] => True
  | v :: rest => WellFormed v ∧ WellFormedItems rest

def WellFormedMembers : List (String × Json) → Prop
  | [] => True
  | (_, v) :: rest => WellFormed v ∧ WellFormedMembers rest

end

mutual

/-- Every number with a fraction inside a value is finite. -/
def isFinite : Json → Bool
  | .float x => x.isFinite
  | .arr items => finiteItems items
  | .obj members => finiteMembers members
  | _ => true

def finiteItems : List Json → Bool
  | [] => true
  | v :: rest => isFinite v && finiteItems rest

def finiteMembers : List (String × Json) → Bool
  | [] => true
  | (_, v) :: rest => isFinite v && finiteMembers rest

end

mutual

/-- The value with `null` for every number that is not finite. -/
def finiteOrNull : Json → Json
  | .float x => if x.isFinite then .float x else .null
  | .arr items => .arr (finiteOrNullItems items)
  | .obj members => .obj (finiteOrNullMembers members)
  | v => v

def finiteOrNullItems : List Json → List Json
  | [] => []
  | v :: rest => finiteOrNull v :: finiteOrNullItems rest

def finiteOrNullMembers : List (String × Json) → List (String × Json)
  | [] => []
  | (k, v) :: rest => (k, finiteOrNull v) :: finiteOrNullMembers rest

end

theorem finiteItems_iff {items : List Json} :
    finiteItems items = true ↔ ∀ v ∈ items, v.isFinite = true := by
  induction items with
  | nil => simp [finiteItems]
  | cons v rest ih => simp [finiteItems, ih]

theorem finiteMembers_iff {ms : List (String × Json)} :
    finiteMembers ms = true ↔ ∀ m ∈ ms, m.2.isFinite = true := by
  induction ms with
  | nil => simp [finiteMembers]
  | cons m rest ih => rw [finiteMembers, Bool.and_eq_true, ih, List.forall_mem_cons]

theorem finiteOrNullItems_eq (items : List Json) :
    finiteOrNullItems items = items.map finiteOrNull := by
  induction items with
  | nil => rfl
  | cons v rest ih => rw [finiteOrNullItems, ih, List.map_cons]

theorem finiteOrNullMembers_eq (ms : List (String × Json)) :
    finiteOrNullMembers ms = ms.map fun m => (m.1, m.2.finiteOrNull) := by
  induction ms with
  | nil => rfl
  | cons m rest ih => rw [finiteOrNullMembers, ih, List.map_cons]

theorem finiteOrNull_eq_self {v : Json} (h : v.isFinite = true) : v.finiteOrNull = v := by
  induction v using induct with
  | float x => exact if_pos h
  | arr items ih =>
    rw [finiteOrNull, finiteOrNullItems_eq]
    refine congrArg arr ((List.map_congr_left fun v hv => ?_).trans (List.map_id items))
    exact ih v hv (finiteItems_iff.1 h v hv)
  | obj ms ih =>
    rw [finiteOrNull, finiteOrNullMembers_eq]
    refine congrArg obj ((List.map_congr_left fun m hm => ?_).trans (List.map_id ms))
    exact Prod.ext rfl (ih m hm (finiteMembers_iff.1 h m hm))
  | _ => rfl

end Json

end RemoteModel
