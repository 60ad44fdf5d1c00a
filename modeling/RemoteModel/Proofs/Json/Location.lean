import RemoteModel.Json.Basic
import RemoteModel.Proofs.Entries
import RemoteModel.Proofs.Text.Numeral
import Mathlib.Data.List.Infix

/-!
# Locations in a value

A location is a list of steps from the root of a value: into a member of an object by its name,
into an item of a list by its position. `at?` looks a location up and `put` writes to one.

**Writing.** What is written is found again (`at?_put_append`), and a location that neither leads
to the place that was written to nor lies below it holds what it held before
(`at?_put_of_apart`, `at?_put_setChild`). The second of two writes wins (`put_put`), and writing
what is there changes nothing (`put_at?`).

**Documents.** The values that a program holds have distinct member names, and no list is longer
than an index can be written (`IsDocument`); the latter is no limit that a memory can reach.
-/

namespace RemoteModel.Json

/-- A step from a container to a value in it. -/
inductive Step where
  | member (name : String)
  | item (n : Nat)
deriving DecidableEq, Repr

/-- The step as it stands in a path: the name of a member, or the digits of a position. -/
def Step.token : Step → String
  | member name => name
  | item n => toString n

/-- Steps from the root of a value. -/
abbrev Location := List Step

/-- Neither location leads to the other one. -/
def Apart (l m : Location) : Prop := ¬ l <+: m ∧ ¬ m <+: l

/-- The value under a step. -/
def child? : Json → Step → Option Json
  | .obj ms, .member name => Entries.get? ms name
  | .arr items, .item n => items[n]?
  | _, _ => none

/-- The value at a location. -/
def at? : Location → Json → Option Json
  | [], v => some v
  | s :: rest, v => (child? v s).bind (at? rest)

/-- The container with a value under a step. A member need not be there before. -/
def setChild (w : Json) : Json → Step → Json
  | .obj ms, .member name => .obj (Entries.insert ms name w)
  | .arr items, .item n => .arr (items.set n w)
  | v, _ => v

/-- The value with another value at one of its locations. -/
def put (w : Json) : Location → Json → Json
  | [], _ => w
  | s :: rest, v =>
    match child? v s with
    | some u => setChild (put w rest u) v s
    | none => v

/-! ## Looking up -/

@[simp] theorem at?_nil (v : Json) : at? [] v = some v := rfl

theorem at?_cons (s : Step) (rest : Location) (v : Json) :
    at? (s :: rest) v = (child? v s).bind (at? rest) := rfl

theorem at?_append (l m : Location) (v : Json) : at? (l ++ m) v = (at? l v).bind (at? m) := by
  induction l generalizing v with
  | nil => rfl
  | cons s l ih =>
    rw [List.cons_append, at?_cons, at?_cons]
    cases child? v s with
    | none => rfl
    | some u => exact ih u

/-- What a container passes on to the values in it holds at every location. -/
theorem at?_inherits {P : Json → Prop} (hchild : ∀ v u s, P v → child? v s = some u → P u)
    {l : Location} {v u : Json} (hv : P v) (h : at? l v = some u) : P u := by
  induction l generalizing v with
  | nil => exact Option.some.inj h ▸ hv
  | cons s l ih =>
    rw [at?_cons, Option.bind_eq_some_iff] at h
    obtain ⟨x, hx, hl⟩ := h
    exact ih (hchild v x s hv hx) hl

/-! ## Writing -/

theorem child?_setChild_self {v u : Json} {s : Step} (w : Json) (h : child? v s = some u) :
    child? (setChild w v s) s = some w := by
  cases v <;> cases s <;> simp only [child?, reduceCtorEq] at h
  · obtain ⟨hn, -⟩ := List.getElem?_eq_some_iff.1 h
    exact List.getElem?_set_self hn
  · exact Entries.get?_insert_self _ _ _

theorem child?_setChild_of_ne (w v : Json) {s t : Step} (h : s ≠ t) :
    child? (setChild w v s) t = child? v t := by
  cases v with
  | arr items =>
    cases s with
    | member _ => rfl
    | item n =>
      cases t with
      | member _ => rfl
      | item m => exact List.getElem?_set_ne fun hnm => h (congrArg Step.item hnm)
  | obj ms =>
    cases s with
    | item _ => rfl
    | member name =>
      cases t with
      | item _ => rfl
      | member other => exact Entries.get?_insert_of_ne _ _ fun hno => h (congrArg Step.member hno.symm)
  | _ => rfl

theorem setChild_setChild (w x v : Json) (s : Step) :
    setChild x (setChild w v s) s = setChild x v s := by
  cases v <;> cases s <;> try rfl
  · exact congrArg arr (List.set_set ..)
  · exact congrArg obj (Entries.insert_insert ..)

theorem setChild_child {v u : Json} {s : Step} (h : child? v s = some u) : setChild u v s = v := by
  cases v <;> cases s <;> simp only [child?, reduceCtorEq] at h
  · obtain ⟨hn, rfl⟩ := List.getElem?_eq_some_iff.1 h
    exact congrArg arr (List.set_getElem_self hn)
  · exact congrArg obj (Entries.insert_of_get? h)

theorem put_cons {v u : Json} {s : Step} (w : Json) (rest : Location)
    (h : child? v s = some u) : put w (s :: rest) v = setChild (put w rest u) v s := by
  simp only [put, h]

theorem put_put (w x v : Json) (l : Location) : put x l (put w l v) = put x l v := by
  induction l generalizing v with
  | nil => rfl
  | cons s l ih =>
    cases hs : child? v s with
    | none => simp only [put, hs]
    | some u =>
      rw [put_cons w l hs, put_cons x l hs, put_cons x l (child?_setChild_self _ hs), ih,
        setChild_setChild]

theorem put_at? {l : Location} {v u : Json} (h : at? l v = some u) : put u l v = v := by
  induction l generalizing v with
  | nil => exact (Option.some.inj h).symm
  | cons s l ih =>
    rw [at?_cons, Option.bind_eq_some_iff] at h
    obtain ⟨x, hx, hl⟩ := h
    rw [put_cons u l hx, ih hl, setChild_child hx]

theorem put_append {l : Location} {v u : Json} (w : Json) (m : Location) (h : at? l v = some u) :
    put w (l ++ m) v = put (put w m u) l v := by
  induction l generalizing v with
  | nil =>
    cases Option.some.inj h
    rfl
  | cons s l ih =>
    rw [at?_cons, Option.bind_eq_some_iff] at h
    obtain ⟨x, hx, hl⟩ := h
    rw [List.cons_append, put_cons w _ hx, put_cons _ l hx, ih hl]

theorem at?_put_append {l : Location} {v u : Json} (w : Json) (m : Location)
    (h : at? l v = some u) : at? (l ++ m) (put w l v) = at? m w := by
  induction l generalizing v with
  | nil => rfl
  | cons s l ih =>
    rw [at?_cons, Option.bind_eq_some_iff] at h
    obtain ⟨x, hx, hl⟩ := h
    rw [put_cons w l hx, List.cons_append, at?_cons, child?_setChild_self _ hx, Option.bind_some]
    exact ih hl

theorem at?_put_self {l : Location} {v u : Json} (w : Json) (h : at? l v = some u) :
    at? l (put w l v) = some w := by
  simpa using at?_put_append w [] h

/-- **Frame.** A location apart from the place that was written to holds what it held. -/
theorem at?_put_of_apart {l m : Location} (w v : Json) (h : Apart l m) :
    at? m (put w l v) = at? m v := by
  induction l generalizing v m with
  | nil => exact absurd List.nil_prefix h.1
  | cons s l ih =>
    cases m with
    | nil => exact absurd List.nil_prefix h.2
    | cons t m =>
      cases hs : child? v s with
      | none => simp only [put, hs]
      | some u =>
        rw [put_cons w l hs, at?_cons, at?_cons]
        by_cases hst : s = t
        · subst hst
          have hlm : Apart l m :=
            ⟨fun hp => h.1 (List.cons_prefix_cons.2 ⟨rfl, hp⟩),
              fun hp => h.2 (List.cons_prefix_cons.2 ⟨rfl, hp⟩)⟩
          rw [child?_setChild_self _ hs, hs]
          exact ih u hlm
        · rw [child?_setChild_of_ne _ _ hst]

/-- **Frame.** When a container gets another value under a step, every location apart from that
step holds what it held. -/
theorem at?_put_setChild {l m : Location} {v u : Json} {s : Step} (w : Json)
    (h : at? l v = some u) (hm : Apart (l ++ [s]) m) :
    at? m (put (setChild w u s) l v) = at? m v := by
  by_cases hl : l <+: m
  · -- Below the container, the first step decides.
    obtain ⟨rest, rfl⟩ := hl
    rw [at?_put_append _ _ h, at?_append, h, Option.bind_some]
    cases rest with
    | nil => exact absurd (by simp) hm.2
    | cons t rest =>
      have hst : s ≠ t := fun hst => hm.1 (by simp [hst])
      rw [at?_cons, at?_cons, child?_setChild_of_ne _ _ hst]
  · have hml : ¬ m <+: l := fun hp => hm.2 (hp.trans (List.prefix_append l [s]))
    exact at?_put_of_apart _ _ ⟨hl, hml⟩

/-! ## Documents -/

mutual

/-- No list is longer than an index can be written. -/
def Indexable : Json → Prop
  | .arr items => items.length ≤ Text.numeralBound ∧ IndexableItems items
  | .obj members => IndexableMembers members
  | _ => True

def IndexableItems : List Json → Prop
  | [] => True
  | v :: rest => Indexable v ∧ IndexableItems rest

def IndexableMembers : List (String × Json) → Prop
  | [] => True
  | (_, v) :: rest => Indexable v ∧ IndexableMembers rest

end

/-- What holds of every value in a memory: members of an object have distinct names, and the
items of a list have positions that can be written. -/
structure IsDocument (v : Json) : Prop where
  wellFormed : v.WellFormed
  indexable : v.Indexable

theorem wellFormedItems_iff {items : List Json} :
    WellFormedItems items ↔ ∀ v ∈ items, v.WellFormed := by
  induction items with
  | nil => simp [WellFormedItems]
  | cons w rest ih => simp [WellFormedItems, ih]

theorem wellFormedMembers_iff {ms : List (String × Json)} :
    WellFormedMembers ms ↔ ∀ m ∈ ms, m.2.WellFormed := by
  induction ms with
  | nil => simp [WellFormedMembers]
  | cons m rest ih => rw [WellFormedMembers, ih, List.forall_mem_cons]

theorem indexableItems_iff {items : List Json} :
    IndexableItems items ↔ ∀ v ∈ items, v.Indexable := by
  induction items with
  | nil => simp [IndexableItems]
  | cons w rest ih => simp [IndexableItems, ih]

theorem indexableMembers_iff {ms : List (String × Json)} :
    IndexableMembers ms ↔ ∀ m ∈ ms, m.2.Indexable := by
  induction ms with
  | nil => simp [IndexableMembers]
  | cons m rest ih => rw [IndexableMembers, ih, List.forall_mem_cons]

theorem WellFormed.child {v u : Json} {s : Step} (h : v.WellFormed) (hs : child? v s = some u) :
    u.WellFormed := by
  cases v <;> cases s <;> simp only [child?, reduceCtorEq] at hs
  · exact wellFormedItems_iff.1 h u (List.mem_of_getElem? hs)
  · exact wellFormedMembers_iff.1 h.2 _ (Entries.mem_of_get? hs)

theorem WellFormed.at? {l : Location} {v u : Json} (h : v.WellFormed)
    (hl : Json.at? l v = some u) : u.WellFormed :=
  at?_inherits (fun _ _ _ => WellFormed.child) h hl

theorem Indexable.child {v u : Json} {s : Step} (h : v.Indexable) (hs : child? v s = some u) :
    u.Indexable := by
  cases v <;> cases s <;> simp only [child?, reduceCtorEq] at hs
  · exact indexableItems_iff.1 h.2 u (List.mem_of_getElem? hs)
  · exact indexableMembers_iff.1 h _ (Entries.mem_of_get? hs)

theorem Indexable.at? {l : Location} {v u : Json} (h : v.Indexable)
    (hl : Json.at? l v = some u) : u.Indexable :=
  at?_inherits (fun _ _ _ => Indexable.child) h hl

theorem IsDocument.child {v u : Json} {s : Step} (h : v.IsDocument) (hs : child? v s = some u) :
    u.IsDocument :=
  ⟨h.wellFormed.child hs, h.indexable.child hs⟩

theorem IsDocument.at? {l : Location} {v u : Json} (h : v.IsDocument)
    (hl : Json.at? l v = some u) : u.IsDocument :=
  ⟨h.wellFormed.at? hl, h.indexable.at? hl⟩

end RemoteModel.Json
