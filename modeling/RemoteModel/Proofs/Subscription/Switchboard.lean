import Mathlib.Logic.Relation
import RemoteModel.Proofs.Subscription.Registry
import RemoteModel.Subscription.Switchboard

/-!
# What a move changes

A move makes a channel, or it edits the registry: channels report and are given up, asked to
close or handed a text, and subscriptions are withdrawn. `Turn` says so once for all moves
(`turn_next`); every invariant of a switchboard is proved from it.

**Parties.** Each channel belongs to a model and a listener. Edits leave these as they are
(`parties_of_edits`), and so does every move but the one that makes a channel.
-/

namespace RemoteModel.Subscription

namespace Registry

variable {r r' : Registry} {n : Nat} {modeluri : String}

/-! ## Edits -/

/-- A change of a registry that makes no channel. -/
inductive Edit (r : Registry) : Registry → Prop
  | noted (n : Nat) (e : Event) : Edit r (r.notify n e).1
  | abandoned (n : Nat) : Edit r (r.abandon n)
  | withdrawn {modeluri : String} {n : Nat} {r' : Registry}
      (h : r.withdraw modeluri = some (r', n)) : Edit r r'
  | asked (n : Nat) : Edit r (r.askToClose n)
  | handed (n : Nat) (text : String) : Edit r (r.handOver n text)

/-- Some edits in a row. -/
abbrev Edits : Registry → Registry → Prop := Relation.ReflTransGen Edit

theorem Edit.touches (hd : r.registered.Distinct) (h : Edit r r') : ∃ n, Touches n r r' := by
  cases h with
  | noted n e => exact ⟨n, touches_notify hd e⟩
  | abandoned n => exact ⟨n, touches_abandon hd⟩
  | withdrawn hw => exact ⟨_, touches_withdraw hd hw⟩
  | asked n => exact ⟨n, touches_modify hd fun _ => rfl⟩
  | handed n text => exact ⟨n, touches_modify hd fun _ => rfl⟩

/-- The model and the listener of each channel. -/
def parties (r : Registry) : List (String × Listener) :=
  r.channels.map fun c => (c.modeluri, c.listener)

theorem length_parties (r : Registry) : r.parties.length = r.channels.length :=
  List.length_map ..

theorem parties_modify {f : Channel → Channel}
    (hf : ∀ c, ((f c).modeluri, (f c).listener) = (c.modeluri, c.listener)) :
    (r.modify n f).parties = r.parties := by
  refine List.ext_getElem? fun m => ?_
  simp only [parties, modify, List.getElem?_map, List.getElem?_modify]
  cases r.channels[m]? with
  | none => rfl
  | some c => by_cases hm : n = m <;> simp [hm, hf]

theorem parties_drop : (r.drop n).parties = r.parties := by
  unfold drop
  cases r.channels[n]? with
  | none => rfl
  | some c => simp only; split <;> rfl

theorem parties_abandon : (r.abandon n).parties = r.parties :=
  parties_drop.trans (parties_modify fun _ => rfl)

theorem parties_notify (e : Event) : (r.notify n e).1.parties = r.parties := by
  rcases notify_fst r n e with h | ⟨-, h⟩
  · rw [h]
    exact parties_modify fun _ => rfl
  · rw [h, parties_drop]
    exact parties_modify fun _ => rfl

theorem parties_of_edits (h : Edits r r') : r'.parties = r.parties := by
  induction h with
  | refl => rfl
  | tail _ hedit ih =>
    rw [← ih]
    cases hedit with
    | noted n e => exact parties_notify e
    | abandoned n => exact parties_abandon
    | withdrawn hw =>
      obtain ⟨-, rfl⟩ := withdraw_eq_some hw
      rfl
    | asked n => exact parties_modify fun _ => rfl
    | handed n text => exact parties_modify fun _ => rfl

theorem parties_register {listener : Listener} {o : Options}
    (h : r.register modeluri listener o = some r') :
    r'.parties = r.parties ++ [(modeluri, listener)] := by
  obtain ⟨address, -, rfl⟩ := Option.map_eq_some_iff.1 h
  simp [parties]

end Registry

namespace Switchboard

open Registry (Edit Edits)

variable {t t' : Switchboard} {n k : Nat} {modeluri : String} {o : Options}
  {making : Option Failure}

/-! ## Turns -/

/-- A call that subscribes makes a channel. -/
def Makes (t : Switchboard) (modeluri : String) (o : Options) (making : Option Failure) : Prop :=
  t.registry.isSubscribed modeluri = false ∧
    address? t.registry.baseUrl t.registry.defaultFormat modeluri o ≠ none ∧ making = none

instance : Decidable (t.Makes modeluri o making) := inferInstanceAs (Decidable (_ ∧ _))

/-- What a move can do. -/
inductive Turn (t : Switchboard) : Move → Switchboard → Prop
  | made {modeluri : String} {listener : Listener} {o : Options} {making : Option Failure}
      {r : Registry} (hmakes : t.Makes modeluri o making)
      (hr : t.registry.register modeluri listener o = some r) :
      Turn t (.subscribe modeluri listener o making)
        { t.enter r (.opening t.registry.channels.length) with
          makers := t.makers ++ [t.stages.length] }
  | edited {m : Move} {t' : Switchboard} (hedits : Edits t.registry t'.registry)
      (hmakers : t'.makers = t.makers) (hstages : t.stages.length ≤ t'.stages.length) :
      Turn t m t'

theorem subscribe_of_makes (listener : Listener) (h : t.Makes modeluri o making) :
    ∃ r, t.registry.register modeluri listener o = some r ∧
      t.subscribe modeluri listener o making =
        { t.enter r (.opening t.registry.channels.length) with
          makers := t.makers ++ [t.stages.length] } := by
  obtain ⟨hfree, haddress, rfl⟩ := h
  obtain ⟨address, haddress⟩ := Option.ne_none_iff_exists'.1 haddress
  refine ⟨_, Option.map_eq_some_iff.2 ⟨address, haddress, rfl⟩, ?_⟩
  simp [subscribe, hfree, Registry.register, haddress]

theorem subscribe_of_not_makes (listener : Listener) (h : ¬ t.Makes modeluri o making) :
    ∃ answer, t.subscribe modeluri listener o making = t.enter t.registry (.returned answer) := by
  unfold subscribe
  by_cases hsub : t.registry.isSubscribed modeluri = true
  · rw [if_pos hsub]
    exact ⟨_, rfl⟩
  · rw [if_neg hsub]
    split
    · exact ⟨_, rfl⟩
    · exact ⟨_, rfl⟩
    · rename_i r _ hr
      obtain ⟨address, haddress, -⟩ := Option.map_eq_some_iff.1 hr
      exact absurd ⟨by simpa using hsub, by simp [haddress], rfl⟩ h

theorem turn_enter {m : Move} {r : Registry} {s : Stage} (h : Edits t.registry r) :
    Turn t m (t.enter r s) :=
  .edited h rfl (by simp [enter])

theorem turn_proceed {m : Move} {r : Registry} {s : Stage} (h : Edits t.registry r) :
    Turn t m (t.proceed k r s) :=
  .edited h rfl (by simp [proceed])

theorem turn_self {m : Move} : Turn t m t := .edited .refl rfl Nat.le.refl

theorem turn_subscribe (t : Switchboard) (modeluri : String) (listener : Listener) (o : Options)
    (making : Option Failure) :
    Turn t (.subscribe modeluri listener o making)
      (t.subscribe modeluri listener o making) := by
  by_cases h : t.Makes modeluri o making
  · obtain ⟨r, hr, heq⟩ := subscribe_of_makes listener h
    rw [heq]
    exact .made h hr
  · obtain ⟨answer, heq⟩ := subscribe_of_not_makes listener h
    rw [heq]
    exact turn_enter .refl

theorem edits_withdraw {r r' : Registry} (h : r.withdraw modeluri = some (r', n)) :
    Edits r (r'.askToClose n) :=
  .tail (.single (.withdrawn h)) (.asked n)

theorem edits_endNext (uris : List String) (r : Registry) : Edits r (endNext uris r).1 := by
  induction uris with
  | nil => exact .refl
  | cons modeluri rest ih =>
    rw [endNext]
    cases h : r.withdraw modeluri with
    | none => exact ih
    | some after => exact edits_withdraw h

theorem turn_resume (t : Switchboard) (k : Nat) (failure : Option Failure) :
    Turn t (.resume k failure) (t.resume k failure) := by
  unfold resume
  split
  · exact turn_proceed .refl
  · exact turn_proceed (.tail (.single (.abandoned _)) (.asked _))
  · exact turn_proceed .refl
  · exact turn_proceed .refl
  · exact turn_proceed .refl
  · exact turn_proceed (edits_endNext _ _)
  · exact turn_proceed .refl
  · exact turn_self
  · exact turn_self

/-- **What a move can do.** -/
theorem turn_next (t : Switchboard) (m : Move) : Turn t m (t.next m) := by
  cases m with
  | subscribe modeluri listener o making => exact turn_subscribe t modeluri listener o making
  | unsubscribe modeluri =>
    show Turn t _ (t.unsubscribe modeluri)
    unfold unsubscribe
    cases h : t.registry.withdraw modeluri with
    | none => exact turn_enter .refl
    | some after => exact turn_enter (edits_withdraw h)
  | send modeluri message =>
    show Turn t _ (t.send modeluri message)
    unfold send
    split
    · split
      · exact turn_enter .refl
      · exact turn_enter (.single (.handed _ _))
    · exact turn_enter .refl
  | closeAll => exact turn_enter (edits_endNext _ _)
  | event n e => exact .edited (.single (.noted n e)) rfl Nat.le.refl
  | resume k failure => exact turn_resume t k failure

end Switchboard

end RemoteModel.Subscription
