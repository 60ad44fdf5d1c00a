import RemoteModel.Json.Basic

/-!
# Equality of values

Values are compared by what they stand for. Numbers are equal when they are the same number,
whether written with a fraction or not, and a truth value counts as zero or one. The order of
members does not matter, that of items does.

**Not a number.** A `nan` by itself is equal to nothing, and so not to another `nan`. Inside lists
and objects there is but one `nan`, and a list or an object that holds it is equal to its copies.
-/

namespace RemoteModel.Json

/-- The number a truth value counts as. -/
def bit (b : Bool) : Int := if b then 1 else 0

/-- The integer that a value stands for, if it stands for one. -/
def integral? : Json → Option Int
  | .bool b => some (bit b)
  | .int n => some n
  | .float x => x.toInt?
  | _ => none

/-- Both values are `nan`. -/
def bothNan : Json → Json → Bool
  | .float .nan, .float .nan => true
  | _, _ => false

mutual

/-- Two values stand for the same. -/
def equal : Json → Json → Bool
  | .null, b => b.isNull
  | .str a, b => b.string? == some a
  | .float x, .float y => x.same y
  | .float x, b => x.toInt?.isSome && b.integral? == x.toInt?
  | .bool a, b => b.integral? == some (bit a)
  | .int a, b => b.integral? == some a
  | .arr as, .arr bs => equalItems as bs
  | .obj as, .obj bs => as.length == bs.length && equalMembers as bs
  | .arr _, _ => false
  | .obj _, _ => false

def equalItems : List Json → List Json → Bool
  | [], [] => true
  | a :: as, b :: bs => (bothNan a b || equal a b) && equalItems as bs
  | _, _ => false

/-- Each member has an equal one of the same name on the other side. -/
def equalMembers : List (String × Json) → List (String × Json) → Bool
  | [], _ => true
  | (k, a) :: rest, bs =>
    (match Entries.get? bs k with
      | some b => bothNan a b || equal a b
      | none => false) && equalMembers rest bs

end

/-- The position of the first item that is equal to a value; a `nan` is found among items. -/
def indexOf? (v : Json) : List Json → Option Nat
  | [] => none
  | x :: rest => if bothNan x v || equal x v then some 0 else (indexOf? v rest).map (· + 1)

end RemoteModel.Json
