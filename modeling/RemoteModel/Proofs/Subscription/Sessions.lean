import RemoteModel.Proofs.Subscription.Traffic
import RemoteModel.Subscription.Handlers

/-!
# Sessions

A session is what the network does to a channel from the attempt to connect to the end of the
connection.

* *Handlers* are called for what the line tells, whatever they do (`calls_run`), so only lines have
  to be looked at.
* *Lines* tell a close last, and once (`exists_tells_eq`); what they tell of a session is
  `tells_session`.
* *Status*: how far a connection has got depends on the signals alone (`status_respond`), and after
  a session it is over.
-/

namespace RemoteModel.Subscription

/-! ## Handlers -/

namespace Handlers

variable {σ : Type}

theorem events_dispatch (h : Handlers σ) (es : List Event) (memory : σ) :
    (h.dispatch es memory).2.map Handled.event = es := by
  induction es generalizing memory with
  | nil => rfl
  | cons e rest ih => exact congrArg (e :: ·) (ih (h.handle memory e).1)

/-- A registry notes what a shielded channel reports as one of its handlers. -/
theorem dispatch_ofRegistry (n : Nat) (es : List Event) (r : Registry) (told : List Delivery) :
    ((ofRegistry n).dispatch es (r, told)).1 =
      ((r.report true n es).1, told ++ (r.report true n es).2.1) := by
  induction es generalizing r told with
  | nil => simp [dispatch, Registry.report]
  | cons e rest ih =>
    have hnext := ih (r.notify n e).1 (told ++ (r.notify n e).2.1)
    have hdispatch : ((ofRegistry n).dispatch (e :: rest) (r, told)).1 =
        ((ofRegistry n).dispatch rest ((r.notify n e).1, told ++ (r.notify n e).2.1)).1 := rfl
    rw [hdispatch, hnext, Registry.report]
    rcases r.notify n e with ⟨next, deliveries, failure⟩
    cases failure <;> simp [List.append_assoc]

end Handlers

/-! ## What a line tells -/

namespace Line

/-- What a channel reports while the network does some things to it. -/
def tells (address : String) : Line → List Signal → List Event
  | _, [] => []
  | l, s :: rest => (l.respond address s).2.events ++ tells address (l.respond address s).1 rest

theorem tells_of_over {l : Line} (h : l.isBusy = false) (address : String)
    (signals : List Signal) : l.tells address signals = [] := by
  induction signals with
  | nil => rfl
  | cons s rest ih =>
    rw [tells, respond_of_over h]
    exact ih

/-- What a connection tells last when it is over. -/
theorem respond_of_ending {l : Line} {address : String} {s : Signal} (h : l.isBusy = true)
    (hover : (l.respond address s).1.isBusy = false) :
    (l.respond address s).2.failure ≠ none ∧ (l.respond address s).2.events = [] ∨
      ∃ es code reason, (l.respond address s).2.events = es ++ [.closed code reason] ∧
        ∀ e ∈ es, ∀ code reason, e ≠ .closed code reason := by
  cases l with
  | connecting =>
    cases s with
    | connected attempt =>
      rcases attempt with _ | failure
      · simp [respond, Socket.open, isBusy] at hover
      · cases failure with
        | disconnected kind text =>
          refine .inr ⟨[.failed (.failure (.disconnected kind text))], abnormalClosure, text, rfl,
            ?_⟩
          simp
        | _ => exact .inl ⟨by simp [respond, Socket.open], rfl⟩
    | arrived frame => cases hover
    | ended e => cases hover
  | settled socket =>
    have hopen : socket.isOpen = true := h
    cases s with
    | connected attempt => simp [respond, isBusy, hopen] at hover
    | arrived frame => simp [respond, isBusy, hopen] at hover
    | ended e =>
      refine .inr ⟨_, _, _, by simp only [respond, Socket.finish, hopen, if_true]; rfl, ?_⟩
      simp

theorem failure_respond {l : Line} (h : l.isConnecting = false) (address : String) (s : Signal) :
    (l.respond address s).2.failure = none := by
  cases l with
  | connecting => cases h
  | settled socket =>
    cases s <;> cases hopen : socket.isOpen <;>
      simp [respond, Socket.receive, Socket.finish, hopen]

/-- **A close is told last, and once**, whatever the network does. -/
theorem exists_tells_eq (address : String) (l : Line) (signals : List Signal) :
    ∃ body last, l.tells address signals = body ++ last ∧
      (∀ e ∈ body, ∀ code reason, e ≠ .closed code reason) ∧
      (last = [] ∨ ∃ code reason, last = [.closed code reason]) := by
  induction signals generalizing l with
  | nil => exact ⟨[], [], rfl, by simp, .inl rfl⟩
  | cons s rest ih =>
    rw [tells]
    cases hbusy : (l.respond address s).1.isBusy with
    | true =>
      obtain ⟨body, last, htells, hbody, hlast⟩ := ih (l.respond address s).1
      refine ⟨(l.respond address s).2.events ++ body, last, ?_, ?_, hlast⟩
      · rw [htells, List.append_assoc]
      · intro e he
        rcases List.mem_append.1 he with he | he
        · exact (respond_of_busy hbusy).2 e he
        · exact hbody e he
    | false =>
      rw [tells_of_over hbusy, List.append_nil]
      cases hl : l.isBusy with
      | false =>
        rw [respond_of_over hl]
        exact ⟨[], [], rfl, by simp, .inl rfl⟩
      | true =>
        rcases respond_of_ending hl hbusy with ⟨-, hnone⟩ | ⟨es, code, reason, heq, hes⟩
        · rw [hnone]
          exact ⟨[], [], rfl, by simp, .inl rfl⟩
        · exact ⟨es, _, heq, hes, .inr ⟨code, reason, rfl⟩⟩

end Line

namespace Attended

variable {σ : Type} {address : String}

theorem calls_run (h : Handlers σ) (a : Attended σ) (signals : List Signal) :
    (a.run address h signals).calls.map Handled.event =
      a.calls.map Handled.event ++ a.line.tells address signals := by
  induction signals generalizing a with
  | nil => exact (List.append_nil _).symm
  | cons s rest ih =>
    have hrest : a.run address h (s :: rest) = (a.next address h s).run address h rest := rfl
    rw [hrest, ih]
    simp [next, Handlers.events_dispatch, Line.tells]

/-- Once an attempt has ended, nothing fails but handlers. -/
theorem failure_run (h : Handlers σ) (a : Attended σ) (ha : a.line.isConnecting = false)
    (signals : List Signal) : (a.run address h signals).failure = a.failure := by
  induction signals generalizing a with
  | nil => rfl
  | cons s rest ih =>
    have hnext : (a.next address h s).line.isConnecting = false := by
      cases hconnecting : (a.next address h s).line.isConnecting with
      | false => rfl
      | true => exact (Line.isConnecting_of_respond hconnecting).symm.trans ha
    have hrest : a.run address h (s :: rest) = (a.next address h s).run address h rest := rfl
    rw [hrest, ih _ hnext]
    simp [next, Line.failure_respond ha]

end Attended

/-! ## Sessions -/

/-- What the network does to a channel from the attempt to connect to the end of the connection. -/
def session (attempt : Option Failure) (frames : List Frame) (e : Ending) : List Signal :=
  .connected attempt :: (frames.map Signal.arrived ++ [.ended e])

namespace Line

variable {address : String}

theorem tells_frames (socket : Socket) (h : socket.isOpen = true) (frames : List Frame)
    (e : Ending) (after : List Signal) :
    (settled socket).tells address (frames.map Signal.arrived ++ .ended e :: after) =
      frames.map Event.arrived ++ e.events := by
  induction frames with
  | nil =>
    have hover : (settled (socket.finish e).1).isBusy = false := by simp [isBusy, Socket.finish, h]
    show (socket.finish e).2.events ++ (settled (socket.finish e).1).tells address after = e.events
    rw [tells_of_over hover, List.append_nil]
    simp [Socket.finish, h]
  | cons frame rest ih =>
    show (socket.receive frame).events ++
      (settled socket).tells address (rest.map Signal.arrived ++ .ended e :: after) = _
    rw [ih]
    simp [Socket.receive, h]

theorem tells_session (frames : List Frame) (e : Ending) (after : List Signal) :
    connecting.tells address (session none frames e ++ after) =
      .opened :: (frames.map Event.arrived ++ e.events) := by
  simp only [session, List.cons_append, List.append_assoc, List.nil_append]
  exact congrArg (Event.opened :: ·)
    (tells_frames { address := address, sent := some [], isOpen := true } rfl frames e after)

theorem tells_session_disconnected (kind text : String) (frames : List Frame) (e : Ending)
    (after : List Signal) :
    connecting.tells address (session (some (.disconnected kind text)) frames e ++ after) =
      [.failed (.failure (.disconnected kind text)), .closed abnormalClosure text] := by
  have htells := tells_of_over (l := settled { address := address }) rfl address
    (frames.map Signal.arrived ++ [.ended e] ++ after)
  exact congrArg ([Event.failed (.failure (.disconnected kind text)),
    .closed abnormalClosure text] ++ ·) htells

end Line

/-! ## Where a line stands -/

/-- How far a connection has got. -/
inductive Status where
  | connecting
  | live
  | finished
deriving DecidableEq, Repr

def Line.status : Line → Status
  | connecting => .connecting
  | settled s => if s.isOpen then .live else .finished

def Status.after : Status → Signal → Status
  | connecting, .connected none => live
  | connecting, .connected (some _) => finished
  | live, .ended _ => finished
  | s, _ => s

theorem Line.status_respond (l : Line) (address : String) (s : Signal) :
    (l.respond address s).1.status = l.status.after s := by
  cases l with
  | connecting =>
    cases s with
    | connected attempt =>
      rcases attempt with _ | failure
      · rfl
      · cases failure <;> rfl
    | _ => rfl
  | settled socket =>
    cases hopen : socket.isOpen <;> cases s <;>
      simp [respond, status, Status.after, Socket.finish, hopen]

theorem Line.isBusy_iff (l : Line) : l.isBusy = true ↔ l.status ≠ .finished := by
  cases l with
  | connecting => simp [isBusy, status]
  | settled socket => cases hopen : socket.isOpen <;> simp [isBusy, status, hopen]

/-- After a session the connection is over. -/
theorem Status.after_session (attempt : Option Failure) (frames : List Frame) (e : Ending)
    (rest : List Signal) :
    (session attempt frames e ++ rest).foldl Status.after .connecting = .finished := by
  have hover : ∀ signals : List Signal, signals.foldl Status.after .finished = .finished := by
    intro signals
    induction signals with
    | nil => rfl
    | cons s rest ih => exact ih
  have hlive : ∀ frames : List Frame,
      (frames.map Signal.arrived ++ [Signal.ended e] ++ rest).foldl Status.after .live =
        .finished := by
    intro frames
    induction frames with
    | nil => exact hover rest
    | cons frame rest ih => exact ih
  cases attempt with
  | none => exact hlive frames
  | some failure => exact hover _

end RemoteModel.Subscription
