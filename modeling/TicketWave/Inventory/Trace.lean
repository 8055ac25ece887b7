import TicketWave.Inventory.SeatSales

/-! # What a seat call leaves behind -/

namespace TicketWave.Inventory

open Library

variable {uuid : UuidText}

/-- A seat call as it was sent, with the number it is served under. -/
structure Sent where
  task : Nat
  method : Method
  req : SeatRequest
  deriving DecidableEq, Repr

/-- The requests that reach the service with a step. -/
def Label.sends (state : State uuid) : Label → List Sent
  | .beginCall method req => [⟨state.tasks.next, method, req⟩]
  | _ => []

def Label.begins : Label → Bool
  | .beginCall _ _ => true
  | _ => false

theorem Label.sends_eq_nil {state : State uuid} {label : Label}
    (internal : label.begins = false) : label.sends state = [] := by
  cases label with
  | beginCall => cases internal
  | _ => rfl

def Task.sent (id : Nat) : Task uuid → Option Sent
  | .opened method request _ => some ⟨id, method, request.req⟩
  | .mirroring method request _ => some ⟨id, method, request.req⟩
  | .checking _ _ => none
  | .sweeping _ _ => none

def Task.committed : Task uuid → Bool
  | .mirroring _ _ _ => true
  | _ => false

/-- The call has committed its transaction. -/
def HasCommitted (history : List Commit) (id : Nat) : Prop :=
  ∃ method order seats time, .call id method order seats time ∈ history

structure Traced
    (uuid : UuidText) (sent : List Sent) (tasks : Registry (Task uuid))
    (answers : List (Nat × Option Status)) (history : List Commit) :
    Prop where
  numbered : Numbered Sent.task sent tasks.next
  running :
    ∀ {id task}, tasks.get id = some task →
      (∀ call ∈ task.sent id, call ∈ sent) ∧
        (task.committed = true → HasCommitted history id)
  commits :
    ∀ {id method order seats time},
      .call id method order seats time ∈ history →
        ∃ req, ⟨id, method, req⟩ ∈ sent ∧
          uuid.column req.orderId = some order ∧
          uuid.columns req.seatIds = some seats
  granted : ∀ {id}, (id, none) ∈ answers → HasCommitted history id

def State.Traced (sent : List Sent) (state : State uuid) : Prop :=
  Inventory.Traced uuid sent state.tasks state.answers state.history

theorem traced_empty : (State.empty uuid).Traced [] where
  numbered := .nil
  running := nofun
  commits := nofun
  granted := nofun

namespace Traced

variable {sent wider : List Sent} {tasks : Registry (Task uuid)}
  {answers : List (Nat × Option Status)} {history : List Commit}
  {id : Nat} {task old : Task uuid}

theorem commit_of_granted
    {call : Sent} (traced : Traced uuid sent tasks answers history)
    (member : call ∈ sent) (granted : (call.task, none) ∈ answers) :
    ∃ order seats time,
      uuid.column call.req.orderId = some order ∧
        uuid.columns call.req.seatIds = some seats ∧
        .call call.task call.method order seats time ∈ history := by
  obtain ⟨method, order, seats, time, commit⟩ := traced.granted granted
  obtain ⟨req, sentReq, readOrder, readSeats⟩ := traced.commits commit
  have same : call = ⟨call.task, method, req⟩ :=
    traced.numbered.distinct _ member _ sentReq rfl
  rw [same]
  exact ⟨order, seats, time, readOrder, readSeats, commit⟩

theorem put (traced : Traced uuid sent tasks answers history)
    (stored : tasks.get id = some old) (calls : task.sent id = old.sent id)
    (committed : task.committed = true → HasCommitted history id) :
    Traced uuid sent (tasks.put id task) answers history where
  numbered := traced.numbered
  running := by
    intro other value found
    rcases Registry.cases_of_get_put found with ⟨rfl, rfl⟩ | ⟨_, kept⟩
    · rw [calls]
      exact ⟨(traced.running stored).1, committed⟩
    · exact traced.running kept
  commits := traced.commits
  granted := traced.granted

theorem finish (traced : Traced uuid sent tasks answers history) (id : Nat) :
    Traced uuid sent (tasks.finish id) answers history where
  numbered := traced.numbered
  running := fun found => traced.running (Registry.get_of_get_finish found).2
  commits := traced.commits
  granted := traced.granted

theorem answer
    {reply : Option Status} (traced : Traced uuid sent tasks answers history)
    (grants : reply = none → HasCommitted history id) :
    Traced uuid sent tasks ((id, reply) :: answers) history where
  numbered := traced.numbered
  running := traced.running
  commits := traced.commits
  granted := by
    intro other member
    rcases List.mem_cons.mp member with equal | earlier
    · cases equal
      exact grants rfl
    · exact traced.granted earlier

theorem commit {new : Commit} (traced : Traced uuid sent tasks answers history)
    (belongs :
      ∀ {id method order seats time},
        new = .call id method order seats time →
          ∃ req, ⟨id, method, req⟩ ∈ sent ∧
            uuid.column req.orderId = some order ∧
            uuid.columns req.seatIds = some seats) :
    Traced uuid sent tasks answers (new :: history) := by
  have grows :
      ∀ {id : Nat}, HasCommitted history id →
        HasCommitted (new :: history) id := by
    rintro id ⟨method, order, seats, time, member⟩
    exact ⟨method, order, seats, time, List.mem_cons_of_mem _ member⟩
  refine ⟨traced.numbered, ?_, ?_, fun member => grows (traced.granted member)⟩
  · intro id task found
    obtain ⟨known, committed⟩ := traced.running found
    exact ⟨known, fun isCommitted => grows (committed isCommitted)⟩
  · intro id method order seats time member
    rcases List.mem_cons.mp member with equal | earlier
    · exact belongs equal.symm
    · exact traced.commits earlier

theorem skip (traced : Traced uuid sent tasks answers history)
    (numbered : Numbered Sent.task wider (tasks.next + 1))
    (keeps : ∀ call ∈ sent, call ∈ wider) :
    Traced uuid wider tasks.skip answers history where
  numbered := numbered
  running := by
    intro id task found
    obtain ⟨known, committed⟩ := traced.running found
    exact ⟨fun call member => keeps call (known call member), committed⟩
  commits := by
    intro id method order seats time member
    obtain ⟨req, isSent, facts⟩ := traced.commits member
    exact ⟨req, keeps _ isSent, facts⟩
  granted := traced.granted

theorem launch (traced : Traced uuid sent tasks answers history)
    (numbered : Numbered Sent.task wider (tasks.next + 1))
    (keeps : ∀ call ∈ sent, call ∈ wider)
    (known : ∀ call ∈ task.sent tasks.next, call ∈ wider)
    (fresh : task.committed = false) :
    Traced uuid wider (tasks.launch task) answers history := by
  have skipped := traced.skip numbered keeps
  refine ⟨numbered, ?_, skipped.commits, skipped.granted⟩
  intro id value found
  rcases Registry.cases_of_get_launch found with ⟨rfl, rfl⟩ | stored
  · refine ⟨known, fun committed => ?_⟩
    rw [fresh] at committed
    cases committed
  · exact skipped.running stored

end Traced

theorem traced_of_transition
    {sent : List Sent} {state next : State uuid} {label : Label}
    (traced : state.Traced sent) (wellFormed : WellFormed state.db)
    (transition : Transition state label next) :
    next.Traced (label.sends state ++ sent) := by
  have all : ∀ call ∈ sent, call ∈ label.sends state ++ sent :=
    fun _ member => List.mem_append_right _ member
  cases transition with
  | tick => exact traced
  | eventCreated => exact traced
  | eventRefused => exact traced
  | callRefused refused =>
      have skipped := Traced.skip traced (traced.numbered.cons rfl) all
      exact skipped.answer fun granted => nomatch granted
  | callBegun method request =>
      refine Traced.launch traced (traced.numbered.cons rfl) all ?_ rfl
      intro call member
      cases member
      exact List.mem_cons_self
  | @callCommitted id rowId method request start done running committed =>
      have moved := (transact_ok wellFormed request.valid committed).1
      have known := (traced.running running).1 _ rfl
      have logged :
          Traced uuid sent state.tasks state.answers
            (.call id method done.order done.seats state.clock ::
              state.history) := by
        apply Traced.commit traced
        intro _ _ _ _ _ equal
        cases equal
        exact ⟨request.req, known, moved.order, moved.seats⟩
      exact logged.put running rfl fun _ => ⟨_, _, _, _, List.mem_cons_self⟩
  | callFailed running =>
      exact (Traced.finish traced _).answer fun granted => nomatch granted
  | redis running =>
      exact
        Traced.put traced running rfl fun _ => (traced.running running).2 rfl
  | replied running =>
      have committed := (traced.running running).2 rfl
      exact (Traced.finish traced _).answer fun _ => committed
  | dropped => exact Traced.finish traced _
  | sweepListed =>
      refine Traced.launch traced traced.numbered.skip all ?_ rfl
      intro call member
      cases member
  | seatExpired running =>
      exact Traced.put traced running rfl fun committed => nomatch committed
  | seatKept running =>
      exact Traced.put traced running rfl fun committed => nomatch committed
  | sweepSkipped => exact Traced.finish traced _
  | sweepOpened running =>
      exact Traced.put traced running rfl fun committed => nomatch committed
  | @sweepCommitted id newId expired =>
      have logged :
          Traced uuid sent state.tasks state.answers
            (.sweep id (freedIds state.db expired) state.clock ::
              state.history) := by
        apply Traced.commit traced
        intro _ _ _ _ _ equal
        cases equal
      exact logged.finish id
  | sweepFailed => exact Traced.finish traced _

theorem answers_of_transition {state next : State uuid} {label : Label}
    {answer : Nat × Option Status} (transition : Transition state label next)
    (member : answer ∈ state.answers) : answer ∈ next.answers := by
  cases transition with
  | callRefused => exact List.mem_cons_of_mem _ member
  | callFailed => exact List.mem_cons_of_mem _ member
  | replied => exact List.mem_cons_of_mem _ member
  | _ => exact member

/-- The confirmations of a seat are the commits of `ConfirmSeats` calls that
name it. -/
theorem mem_confirmations_iff
    {history : List Commit} {seat : UUID} {task : Nat} {order : UUID} :
    (task, order) ∈ confirmations history seat ↔
      ∃ seats time,
        .call task .confirmSeats order seats time ∈ history ∧ seat ∈ seats := by
  induction history with
  | nil => simp [confirmations]
  | cons commit older ih =>
      cases commit with
      | sweep => simpa [confirmations] using ih
      | call number method holder seats time =>
          cases method with
          | confirmSeats =>
              by_cases named : seat ∈ seats
              · rw [confirmations, if_pos named, List.mem_cons, ih]
                grind
              · rw [confirmations, if_neg named, ih]
                grind
          | _ => simpa [confirmations] using ih

end TicketWave.Inventory
