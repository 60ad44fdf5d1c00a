import RemoteModel.Proofs.Patch.Steps
import RemoteModel.Proofs.Patch.Standard
import RemoteModel.Proofs.Text.Pieces

/-!
# How positions are spelled

The standard writes the position of an item in one way. Here more ways are read: a sign, zeros in
front, underscores between digits, blanks around them and the digits of other scripts. Where all
steps into lists are spelled as the standard spells them (`Spelled`), tokens lead to the same place
(`place?_of_standard`, `standard_of_place?`).

**Pointers.** A pointer of the standard is read as its tokens (`resolvePath_of_tokens?`).
-/

namespace RemoteModel.Patch

open Json (Step Location)

variable {document v u w r : Json} {o : Operation} {tokens front : List String}
  {path token key : String} {s : Step} {l : Location}

/-! ## Reading pointers -/

theorem unescape_of_unescape? {cs ds : List Char} (h : Standard.unescape? cs = some ds) :
    Address.unescape cs = ds := by
  fun_induction Standard.unescape? cs generalizing ds with
  | case1 => exact Option.some.inj h
  | case2 rest ih =>
    obtain ⟨es, hes, rfl⟩ := Option.map_eq_some_iff.1 h
    rw [Address.unescape, ih hes]
  | case3 rest ih =>
    obtain ⟨es, hes, rfl⟩ := Option.map_eq_some_iff.1 h
    rw [Address.unescape, ih hes]
  | case4 => cases h
  | case5 c rest hone hzero htilde ih =>
    obtain ⟨es, hes, rfl⟩ := Option.map_eq_some_iff.1 h
    rw [Address.unescape, ih hes]
    · intro rest' hc hrest
      exact htilde hc
    · intro rest' hc hrest
      exact htilde hc

theorem map_unescape_of_mapM {pieces : List (List Char)} {tokens : List String}
    (h : (pieces.mapM fun piece => (Standard.unescape? piece).map String.ofList) = some tokens) :
    (pieces.map fun piece => String.ofList (Address.unescape piece)) = tokens := by
  induction pieces generalizing tokens with
  | nil => simpa using h
  | cons piece pieces ih =>
    rw [List.mapM_cons] at h
    obtain ⟨token, htoken, h⟩ := Option.bind_eq_some_iff.1 h
    obtain ⟨rest, hrest, h⟩ := Option.bind_eq_some_iff.1 h
    obtain ⟨cs, hcs, rfl⟩ := Option.map_eq_some_iff.1 htoken
    cases h
    rw [List.map_cons, unescape_of_unescape? hcs, ih hrest]

theorem resolvePath_of_tokens? (document : Json) (hpath : Standard.IsPointer path)
    (h : Standard.tokens? path = some tokens) : resolvePath document path = .ok (tokens, false) := by
  have hcut := Text.cut?_eq_none hpath.plain
  have haddress : Address.ofPath path = .ok (.pointer tokens) := by
    unfold Standard.tokens? at h
    unfold Address.ofPath
    simp only [hcut]
    cases hlist : path.toList with
    | nil =>
      rw [hlist] at h
      cases h
      rfl
    | cons c rest =>
      rw [hlist] at h
      by_cases hc : c = '/'
      · subst hc
        exact congrArg (fun steps => Except.ok (Address.pointer steps)) (map_unescape_of_mapM h)
      · simp [hc] at h
  unfold resolvePath
  rw [haddress]
  rfl

/-! ## Positions -/

theorem position?_eq_some {n : Nat} : Standard.position? token = some n ↔ token = toString n := by
  unfold Standard.position?
  constructor
  · intro h
    simp only at h
    split at h
    · rename_i heq
      cases h
      exact heq.symm
    · cases h
  · rintro rfl
    have hdigits : Nat.ofDigitChars 10 (toString n).toList 0 = n := by
      rw [Text.toList_toString, Nat.ofDigitChars_ten_toDigits]
    simp only [hdigits, if_true]

/-- A step into a list is a position as the standard writes it, or the end of the list. -/
def WellSpelled (v : Json) (token : String) : Prop :=
  v.isArray → token = "-" ∨ (Standard.position? token).isSome

/-- A position that is read is the one that the standard reads, if it is spelled well. -/
theorem position?_of_index {upper n : Nat} (hspelled : token = "-" ∨ (Standard.position? token).isSome)
    (h : index upper token = .ok n) : Standard.position? token = some n := by
  rcases hspelled with rfl | hsome
  · rw [← toOption_eq_some, index_end] at h
    cases h
  · obtain ⟨k, hk⟩ := Option.isSome_iff_exists.1 hsome
    rw [position?_eq_some.1 hk] at h
    rw [eq_of_index_toString h]
    exact hk

theorem index_of_position? {upper n : Nat} (h : Standard.position? token = some n)
    (hn : n < upper) (hupper : upper ≤ Text.numeralBound) : index upper token = .ok n := by
  rw [position?_eq_some.1 h]
  exact index_toString hn hupper

/-! ## Steps -/

theorem stepIn?_of_standard (hv : v.Indexable) (hs : Standard.step? v token = some s)
    (hu : v.child? s = some u) : stepIn? v token = some s ∧ WellSpelled v token := by
  cases v with
  | arr items =>
    obtain ⟨n, hn, rfl⟩ := Option.map_eq_some_iff.1 hs
    have hlt := (List.getElem?_eq_some_iff.1 hu).1
    refine ⟨?_, fun _ => .inr (Option.isSome_iff_exists.2 ⟨n, hn⟩)⟩
    rw [stepIn?, index_of_position? hn hlt hv.1]
    rfl
  | obj members => exact ⟨hs, fun harray => by cases harray⟩
  | _ => cases hs

theorem standard_of_stepIn? (hs : stepIn? v token = some s) (hspelled : WellSpelled v token) :
    Standard.step? v token = some s := by
  cases v with
  | arr items =>
    obtain ⟨n, hn, rfl⟩ := Option.map_eq_some_iff.1 hs
    rw [Standard.step?, position?_of_index (hspelled rfl) (toOption_eq_some.1 hn)]
    rfl
  | obj members => exact hs
  | _ => cases hs

/-! ## Places -/

/-- All steps that tokens take into lists are spelled well. -/
def Spelled : List String → Json → Prop
  | [], _ => True
  | token :: rest, v =>
    WellSpelled v token ∧ ∀ s u, stepIn? v token = some s → v.child? s = some u → Spelled rest u

theorem spelled_concat : Spelled (front ++ [key]) v ↔
    Spelled front v ∧ ∀ u, reached? front v = some u → WellSpelled u key := by
  induction front generalizing v with
  | nil =>
    constructor
    · rintro ⟨hkey, -⟩
      refine ⟨trivial, fun u hu => ?_⟩
      cases hu
      exact hkey
    · rintro ⟨-, hkey⟩
      exact ⟨hkey v rfl, fun _ _ _ _ => trivial⟩
  | cons token rest ih =>
    constructor
    · rintro ⟨htoken, hrest⟩
      refine ⟨⟨htoken, fun s x hs hx => (ih.1 (hrest s x hs hx)).1⟩, fun u hu => ?_⟩
      rw [reached?_cons] at hu
      obtain ⟨s, hs, hu⟩ := Option.bind_eq_some_iff.1 hu
      obtain ⟨x, hx, hu⟩ := Option.bind_eq_some_iff.1 hu
      exact (ih.1 (hrest s x hs hx)).2 u hu
    · rintro ⟨⟨htoken, hrest⟩, hkey⟩
      refine ⟨htoken, fun s x hs hx => ih.2 ⟨hrest s x hs hx, fun u hu => hkey u ?_⟩⟩
      rw [reached?_cons, hs, Option.bind_some, hx, Option.bind_some]
      exact hu

theorem place?_of_standard (hv : v.Indexable) (h : Standard.place? tokens v = some l) :
    place? tokens v = some l ∧ Spelled tokens v := by
  induction tokens generalizing v l with
  | nil => exact ⟨h, trivial⟩
  | cons token rest ih =>
    obtain ⟨s, hs, h⟩ := Option.bind_eq_some_iff.1 h
    obtain ⟨u, hu, h⟩ := Option.bind_eq_some_iff.1 h
    obtain ⟨m, hm, h⟩ := Option.bind_eq_some_iff.1 h
    cases h
    obtain ⟨hstep, hspelled⟩ := stepIn?_of_standard hv hs hu
    obtain ⟨hplace, hrest⟩ := ih (hv.child hu) hm
    refine ⟨?_, hspelled, fun s' u' hs' hu' => ?_⟩
    · rw [place?_cons, hstep, Option.bind_some, hu, Option.bind_some, hplace]
      rfl
    · cases hstep.symm.trans hs'
      cases hu.symm.trans hu'
      exact hrest

theorem standard_of_place? (h : place? tokens v = some l) (hspelled : Spelled tokens v) :
    Standard.place? tokens v = some l := by
  induction tokens generalizing v l with
  | nil => exact h
  | cons token rest ih =>
    rw [place?_cons] at h
    obtain ⟨s, hs, h⟩ := Option.bind_eq_some_iff.1 h
    obtain ⟨u, hu, h⟩ := Option.bind_eq_some_iff.1 h
    obtain ⟨m, hm, rfl⟩ := Option.map_eq_some_iff.1 h
    have hrest := ih hm (hspelled.2 s u hs hu)
    simp [Standard.place?, standard_of_stepIn? hs hspelled.1, hu, hrest]

theorem reached?_of_standard (hv : v.Indexable) (h : Standard.value? tokens v = some u) :
    reached? tokens v = some u ∧ Spelled tokens v := by
  obtain ⟨l, hl, hu⟩ := Option.bind_eq_some_iff.1 h
  obtain ⟨hplace, hspelled⟩ := place?_of_standard hv hl
  exact ⟨by rw [reached?, hplace]; exact hu, hspelled⟩

theorem standard_of_reached? (h : reached? tokens v = some u) (hspelled : Spelled tokens v) :
    Standard.value? tokens v = some u := by
  obtain ⟨l, hl, hu⟩ := Option.bind_eq_some_iff.1 h
  rw [Standard.value?, standard_of_place? hl hspelled]
  exact hu

end RemoteModel.Patch
