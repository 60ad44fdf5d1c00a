import RemoteModel.Json.Basic
import RemoteModel.Text.Numeral

/-!
# Checked fields

Objects that arrive from outside are checked field by field against the type they should have.
A check gives the typed value, or every place at which the value does not fit.

**Leniency.** An integer may come as a truth value, as a number without fraction or as a numeral;
a real number as an integer, a truth value or a numeral; a truth value as zero or one or as one
of a few words. A text must be a text.

**Names.** A field may have several names; the first one that the object has is taken.
-/

namespace RemoteModel

/-- A place where a value does not fit and, if the rule has words for it, why. -/
structure Issue where
  place : List String
  reason : Option String := none
deriving DecidableEq, Repr

/-- The outcome of a check: the typed value, or all issues. -/
inductive Checked (α : Type) where
  | ok (value : α)
  | bad (issues : List Issue)
deriving Repr

namespace Checked

variable {α β : Type}

def map (f : α → β) : Checked α → Checked β
  | ok a => ok (f a)
  | bad is => bad is

/-- Two checks side by side: the issues of both count. -/
def both (f : Checked (α → β)) (x : Checked α) : Checked β :=
  match f, x with
  | ok f, ok a => ok (f a)
  | ok _, bad js => bad js
  | bad is, ok _ => bad is
  | bad is, bad js => bad (is ++ js)

instance : Functor Checked := { map := map }

instance : Applicative Checked := { pure := ok, seq := fun f x => both f (x ()) }

/-- A check whose rule follows another one. -/
def andThen (x : Checked α) (f : α → Checked β) : Checked β :=
  match x with
  | ok a => f a
  | bad is => bad is

/-- The outcome as part of a larger value, in which it stands under a name. -/
def under (name : String) : Checked α → Checked α
  | ok a => ok a
  | bad is => bad (is.map fun i => { i with place := name :: i.place })

def toOption : Checked α → Option α
  | ok a => some a
  | bad _ => none

end Checked

/-- The check of a value against a type. -/
abbrev Check (α : Type) := Json → Checked α

namespace Check

variable {α : Type}

/-- The value as a whole does not fit. -/
def misfit : Checked α := .bad [⟨[], none⟩]

/-- The value as a whole breaks a rule that has words for it. -/
def broken (reason : String) : Checked α := .bad [⟨[], some reason⟩]

def ofOption : Option α → Checked α
  | some a => .ok a
  | none => misfit

/-! ## Single values -/

def anything : Check Json := .ok

def text : Check String
  | .str s => .ok s
  | _ => misfit

/-- Underscores stand singly and not at the end. -/
def wellGrouped : List Char → Bool
  | [] => true
  | ['_'] => false
  | '_' :: '_' :: _ => false
  | _ :: rest => wellGrouped rest

/-- A numeral without its underscores, which stand singly and not at the ends. -/
def ungrouped? (cs : List Char) : Option (List Char) :=
  if cs.head? != some '_' && wellGrouped cs then some (cs.filter (· ≠ '_')) else none

/-- A numeral without its leading zeros and the underscores among them. Behind them a sign may
stand, and one zero is kept if no digit is left in front of a point. -/
def unpadded? (cs : List Char) : Option (List Char) :=
  let padding := cs.takeWhile fun c => c == '0' || c == '_'
  match padding.getLast?, cs.drop padding.length with
  | none, c :: rest => if c.isDigit then some (c :: rest) else none
  | none, [] => none
  | some last, rest =>
    if cs.head? == some '_' then none
    else
      match rest with
      | [] => some [last]
      | c :: _ =>
        if c == '.' then some (last :: rest)
        else if c == '-' || c.isDigit then some rest
        else none

/-- A numeral without a fraction of zeros. -/
def unfractioned (cs : List Char) : List Char :=
  match Text.cut? '.' cs with
  | some (whole, fraction) => if !fraction.isEmpty && fraction.all (· == '0') then whole else cs
  | none => cs

/-- The integer of plain digits behind a sign, with no zero in front of others. The sign counts
among the digits that there may be. -/
def plainInteger? (cs : List Char) : Option Int :=
  let (negative, ds) := match cs with
    | '-' :: ds => (true, ds)
    | ds => (false, ds)
  if cs.length > Text.maxDigits || ds.isEmpty || (ds.head? == some '0' && ds.length > 1) then none
  else (ds.mapM Text.asciiDigit?).map fun ds => Double.signed negative (Text.valueOf ds)

/-- The integer written by a numeral. -/
def integerText? (s : String) : Option Int := do
  let (negative, body) := Text.signed (Text.trimBy Text.isWhiteSpace s.toList)
  let ds ← ungrouped? (unfractioned (← unpadded? body))
  plainInteger? (if negative then '-' :: ds else ds)

/-- Reads a run of digits. -/
def run? (cs : List Char) : Option (List Nat) :=
  if cs.isEmpty then none else cs.mapM Text.asciiDigit?

/-- The real number written by a numeral. White space may surround one without underscores. -/
def realText? (s : String) : Option Double :=
  (Text.doubleBy? run? (Text.trimBy Text.isWhiteSpace s.toList)).or
    ((ungrouped? s.toList).bind (Text.doubleBy? run?))

/-- The integer a number stands for, if it is small enough to be exact. -/
def integerOf? (x : Double) : Option Int :=
  x.toInt?.bind fun n => if n.natAbs < Nat.pow 2 63 then some n else none

def integer : Check Int
  | .bool b => .ok (if b then 1 else 0)
  | .int n => .ok n
  | .float x => ofOption (integerOf? x)
  | .str s => ofOption (integerText? s)
  | _ => misfit

def real : Check Double
  | .bool b => .ok (if b then Double.ofQuotient false 1 1 else Double.zero)
  | .int n => ofOption (Double.ofInt? n)
  | .float x => .ok x
  | .str s => ofOption (realText? s)
  | _ => misfit

/-- The words for truth values, in any case. -/
def truthText? (s : String) : Option Bool :=
  match String.ofList (s.toList.map Char.toLower) with
  | "0" | "f" | "n" | "no" | "off" | "false" => some false
  | "1" | "t" | "y" | "yes" | "on" | "true" => some true
  | _ => none

/-- Zero and one as truth values. -/
def truthNumber? : Int → Option Bool
  | 0 => some false
  | 1 => some true
  | _ => none

def truth : Check Bool
  | .bool b => .ok b
  | .int n => ofOption (truthNumber? n)
  | .float x => ofOption (x.toInt?.bind truthNumber?)
  | .str s => ofOption (truthText? s)
  | _ => misfit

/-- One of some words, as the thing it names. -/
def word (named? : String → Option α) : Check α
  | .str s => ofOption (named? s)
  | _ => misfit

/-! ## Compound values -/

/-- `null`, or a value that passes a check. -/
def nullable (c : Check α) : Check (Option α)
  | .null => .ok none
  | v => (c v).map some

/-- Checks items, which stand under their positions. -/
def items (c : Check α) : Nat → List Json → Checked (List α)
  | _, [] => .ok []
  | n, v :: rest => ((·  :: ·) <$> (c v).under (toString n)).both (items c (n + 1) rest)

def list (c : Check α) : Check (List α)
  | .arr vs => items c 0 vs
  | _ => misfit

/-- Checks members, which stand under their names. -/
def members (c : Check α) : List (String × Json) → Checked (Entries α)
  | [] => .ok []
  | (k, v) :: rest => ((fun a as => (k, a) :: as) <$> (c v).under k).both (members c rest)

def table (c : Check α) : Check (Entries α)
  | .obj ms => members c ms
  | _ => misfit

/-- The members of an object, kept as they are. -/
def object : Check (Entries Json)
  | .obj ms => .ok ms
  | _ => misfit

/-! ## Fields -/

/-- The first of a field's names that the object has, and the value under it. -/
def find? (fields : Entries Json) : List String → Option (String × Json)
  | [] => none
  | name :: rest =>
    match fields.get? name with
    | some v => some (name, v)
    | none => find? fields rest

/-- A field that must be there. -/
def required (fields : Entries Json) (names : List String) (c : Check α) : Checked α :=
  match find? fields names with
  | some (name, v) => (c v).under name
  | none => .bad [⟨names.take 1, none⟩]

/-- A field with a default. -/
def defaulted (fields : Entries Json) (names : List String) (default : α) (c : Check α) :
    Checked α :=
  match find? fields names with
  | some (name, v) => (c v).under name
  | none => .ok default

/-- A field that may be missing or `null`. -/
def optional (fields : Entries Json) (names : List String) (c : Check α) : Checked (Option α) :=
  defaulted fields names none (nullable c)

/-- The members that are no value of a field. -/
def extras (fields : Entries Json) (names : List (List String)) : Entries Json :=
  let used := names.filterMap fun ns => (find? fields ns).map (·.1)
  fields.filter fun m => !used.contains m.1

/-- The check of an object by its members. -/
def fields (f : Entries Json → Checked α) : Check α
  | .obj ms => f ms
  | _ => misfit

end Check

end RemoteModel
