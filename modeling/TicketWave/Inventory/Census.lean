import TicketWave.Inventory.AllOrNothing
import TicketWave.Inventory.Queries
import TicketWave.Library.Text

/-!
# Seats are neither lost nor invented

`created` lists the events of a run with the requests that created them.
-/

namespace TicketWave.Inventory

open Library

variable {uuid : UuidText} {db : Db}

/-- The event a step creates, with the request that asked for it. -/
def founds (state : State uuid) :
    Label → Option (UUID × CreateEventRequest)
  | .createEvent req eventId seatIds =>
      match createEvent state.db req eventId seatIds state.clock with
      | .error _ => none
      | .ok _ => some (eventId, req)
  | _ => none

/-- The events that the steps create one after the other. -/
def created (state : State uuid) :
    List Label → List (UUID × CreateEventRequest)
  | [] => []
  | label :: rest =>
      match step state label with
      | none => []
      | some next => (founds state label).toList ++ created next rest

def Db.seatsOf (db : Db) (event : UUID) : List SeatRow :=
  db.seats.filter fun row => decide (row.eventId = event)

/-- `fmt.Sprintf("Seat %d", i)` -/
def seatLabel (number : Nat) : String :=
  "Seat " ++ toString number

theorem seatLabel_injective : Function.Injective seatLabel := by
  intro left right same
  exact toString_injective ((String.append_right_inj _).mp same)

/-- The labels for `i` from 1 to `count`. -/
def seatLabels (count : Nat) : List String :=
  (List.range' 1 count).map seatLabel

theorem seatLabels_nodup (count : Nat) : (seatLabels count).Nodup :=
  (List.nodup_range' 1).map seatLabel_injective

theorem newSeats_labels (eventId : UUID) (number : Nat) (ids : List UUID) :
    (newSeats eventId number ids).map SeatRow.label =
      (List.range' number ids.length).map seatLabel := by
  induction ids generalizing number with
  | nil => rfl
  | cons id rest ih =>
      rw [newSeats, List.map_cons, ih, List.length_cons,
        List.range'_succ, List.map_cons]
      rfl

/-- What no statement of the service changes in a seat row. -/
def SeatRow.place (row : SeatRow) : UUID × String :=
  (row.eventId, row.label)

theorem labels_of_places (db : Db) (event : UUID) :
    (db.seatsOf event).map SeatRow.label =
      ((db.seats.map SeatRow.place).filter fun place =>
        decide (place.1 = event)).map Prod.snd := by
  rw [List.filter_map, List.map_map]
  rfl

/-- The number of seats of the event with the status. -/
def Db.tally (db : Db) (event : UUID) (status : SeatStatus) : Nat :=
  (db.seatsOf event).countP fun row => decide (row.status = status)

theorem length_seatsOf (db : Db) (event : UUID) :
    (db.seatsOf event).length =
      db.tally event .available + db.tally event .held +
        db.tally event .sold := by
  unfold Db.tally
  induction db.seatsOf event with
  | nil => rfl
  | cons row rest ih =>
      rw [List.length_cons, ih]
      cases status : row.status with
      | available =>
          simp [status]
          omega
      | held =>
          simp [status]
          omega
      | sold =>
          simp [status]
          omega

variable {state : State uuid} {calls : List (UUID × CreateEventRequest)}

theorem founded_of_step {next : State uuid} {label : Label}
    (wellFormed : WellFormed state.db)
    (stepped : step state label = some next) :
    founds state label = none ∧ next.db.events = state.db.events ∧
        next.db.seats.map SeatRow.place = state.db.seats.map SeatRow.place ∨
      ∃ req eventId seatIds,
        founds state label = some (eventId, req) ∧
          (seatIds.length : Int) = req.seatCount ∧
          createEvent state.db req eventId seatIds state.clock =
            .ok next.db := by
  cases transition_of_step stepped with
  | @eventCreated req eventId seatIds db counted committed =>
      right
      exact ⟨req, eventId, seatIds, by simp only [founds, committed], counted,
        committed⟩
  | @eventRefused req eventId seatIds =>
      cases outcome : createEvent state.db req eventId seatIds state.clock with
      | error err => exact Or.inl ⟨by simp only [founds, outcome], rfl, rfl⟩
      | ok db =>
          right
          simp only [step, outcome] at stepped
          split at stepped
          · cases stepped
          · rename_i counted
            have same : db = state.db :=
              congrArg State.db (Option.some.inj stepped)
            exact ⟨req, eventId, seatIds, by simp only [founds, outcome],
              Decidable.not_not.mp counted, by rw [outcome, same]⟩
  | @callCommitted _ _ method request _ done _ committed =>
      left
      have moved := (transact_ok wellFormed request.valid committed).1
      refine ⟨rfl, moved.events, ?_⟩
      show done.db.seats.map SeatRow.place = _
      rw [moved.rows]
      apply map_key_updateWhere
      intro row
      simp only [SeatRow.place, Method.change_eventId, Method.change_label]
  | sweepCommitted _ committed =>
      left
      have swept := sweepHolds_ok wellFormed committed
      refine ⟨rfl, swept.events, ?_⟩
      show List.map SeatRow.place _ = _
      rw [swept.rows]
      apply map_key_updateWhere
      intro row
      rfl
  | _ => exact Or.inl ⟨rfl, rfl, rfl⟩

/-- The events are the created ones, and the seats of each are as its request
asks. -/
structure Census
    (calls : List (UUID × CreateEventRequest)) (db : Db) : Prop where
  events : db.events.map EventRow.id = calls.map Prod.fst
  distinct : (calls.map Prod.fst).Nodup
  accepted : ∀ call ∈ calls, validateCreateEvent call.2 = none
  labels :
    ∀ call ∈ calls,
      (db.seatsOf call.1).map SeatRow.label = seatLabels call.2.seatCount.toNat

theorem census_empty : Census [] Db.empty where
  events := rfl
  distinct := List.nodup_nil
  accepted := nofun
  labels := nofun

theorem census_of_createEvent {req : CreateEventRequest} {eventId : UUID}
    {seatIds : List UUID} {start : Nat} {next : Db}
    (constrained : Constrained db) (census : Census calls db)
    (counted : (seatIds.length : Int) = req.seatCount)
    (committed : createEvent db req eventId seatIds start = .ok next) :
    Census (calls ++ [(eventId, req)]) next := by
  obtain ⟨accepted, fresh, _, rfl⟩ := createEvent_eq_ok_iff.mp committed
  have unused : eventId ∉ calls.map Prod.fst := by
    rw [← census.events]
    exact fresh
  have seatsOf :
      ∀ event,
        Db.seatsOf
            { db with
              events := db.events ++ [⟨eventId, trimSpace req.name, start⟩]
              seats := db.seats ++ newSeats eventId 1 seatIds } event =
          db.seatsOf event ++
            (newSeats eventId 1 seatIds).filter fun row =>
              decide (row.eventId = event) :=
    fun event => List.filter_append ..
  refine ⟨?_, ?_, ?_, ?_⟩
  · rw [List.map_append, List.map_append, census.events]
    rfl
  · exact nodup_keys_append census.distinct unused
  · intro call member
    rcases List.mem_append.mp member with old | new
    · exact census.accepted call old
    · rw [List.mem_singleton.mp new]
      exact accepted
  · intro call member
    rw [seatsOf, List.map_append]
    rcases List.mem_append.mp member with old | new
    · have none :
          (newSeats eventId 1 seatIds).filter
              (fun row => decide (row.eventId = call.1)) = [] := by
        apply List.filter_eq_nil_iff.mpr
        intro row isNew matching
        rw [← newSeats_eventId isNew, of_decide_eq_true matching] at unused
        exact unused (List.mem_map_of_mem old)
      rw [none, census.labels call old, List.map_nil, List.append_nil]
    · rw [List.mem_singleton.mp new]
      have none : db.seatsOf eventId = [] := by
        apply List.filter_eq_nil_iff.mpr
        intro row stored matching
        have known := constrained.references row stored
        rw [of_decide_eq_true matching] at known
        exact fresh known
      have all :
          (newSeats eventId 1 seatIds).filter
              (fun row => decide (row.eventId = eventId)) =
            newSeats eventId 1 seatIds := by
        apply List.filter_eq_self.mpr
        intro row isNew
        exact decide_eq_true (newSeats_eventId isNew)
      rw [none, all, List.map_nil, List.nil_append, newSeats_labels,
        ← counted, Int.toNat_natCast]
      rfl

theorem census_of_step {next : State uuid} {label : Label}
    (wellFormed : WellFormed state.db) (constrained : Constrained state.db)
    (census : Census calls state.db) (stepped : step state label = some next) :
    Census (calls ++ (founds state label).toList) next.db := by
  rcases founded_of_step wellFormed stepped with
    ⟨nothing, events, places⟩ |
    ⟨req, eventId, seatIds, founded, counted, committed⟩
  · rw [nothing, Option.toList_none, List.append_nil]
    refine ⟨events ▸ census.events, census.distinct, census.accepted, ?_⟩
    intro call member
    rw [labels_of_places, places, ← labels_of_places]
    exact census.labels call member
  · rw [founded]
    exact census_of_createEvent constrained census counted committed

theorem census_of_run {labels : List Label} {final : State uuid}
    (wellFormed : WellFormed state.db) (constrained : Constrained state.db)
    (census : Census calls state.db)
    (ran : run step state labels = some final) :
    Census (calls ++ created state labels) final.db := by
  induction labels generalizing state calls with
  | nil =>
      cases ran
      rw [created, List.append_nil]
      exact census
  | cons label rest ih =>
      obtain ⟨next, stepped, ranRest⟩ := run_cons_eq_some_iff.mp ran
      have effect := (transition_of_step stepped).effect
      simp only [created, stepped]
      rw [← List.append_assoc]
      exact ih (wellFormed_of_effect wellFormed effect)
        (constrained_of_effect wellFormed constrained effect)
        (census_of_step wellFormed constrained census stepped) ranRest

/-- The reply counts `total` seats of the event, and as available what is
neither held nor sold of them. -/
structure Counts (db : Db) (event : UUID) (total : Nat) (reply : Event) :
    Prop where
  all : reply.totalSeats = total
  free :
    reply.availableSeats = total - db.tally event .held - db.tally event .sold

theorem int32_of_le {count : Nat} (small : count ≤ 500) :
    int32 count = count := by
  unfold int32
  apply Int.bmod_eq_of_le <;> omega

theorem counts_scanEvent {row : EventRow} {total : Nat} (small : total ≤ 500)
    (counted : (db.seatsOf row.id).length = total) :
    Counts db row.id total (scanEvent uuid db row) := by
  have parts := length_seatsOf db row.id
  have available :
      ((db.seatsOf row.id).filter fun seat =>
        decide (seat.status = .available)).length =
          db.tally row.id .available :=
    List.countP_eq_length_filter.symm
  constructor
  · dsimp only [scanEvent]
    rw [← Db.seatsOf, counted, int32_of_le small]
  · dsimp only [scanEvent]
    rw [← Db.seatsOf, available, int32_of_le (by omega)]
    omega

theorem seatCount_of_accepted
    {req : CreateEventRequest} (accepted : validateCreateEvent req = none) :
    1 ≤ req.seatCount ∧ req.seatCount ≤ 500 := by
  unfold validateCreateEvent maxSeatsPerEvent at accepted
  grind

/-- The seats of every event are the ones its creation asked for, each held
by an order exactly while it is `HELD`, and the read methods count them. -/
theorem seats_are_neither_lost_nor_invented
    {labels : List Label} {state : State uuid}
    (ran : run step (State.empty uuid) labels = some state) :
    (∀ seat ∈ state.db.seats,
      seat.eventId ∈ state.db.events.map EventRow.id ∧
        (seat.heldBy.isSome ↔ seat.status = .held)) ∧
    state.db.events.map EventRow.id =
      (created (State.empty uuid) labels).map Prod.fst ∧
    (state.db.events.map EventRow.id).Nodup ∧
    ∀ event req, (event, req) ∈ created (State.empty uuid) labels →
      ∃ total : Nat, req.seatCount = total ∧
        (state.db.seatsOf event).map SeatRow.label = seatLabels total ∧
        (seatLabels total).Nodup ∧
        (∀ text, uuid.parse text = some event →
          ∃ reply, getEvent uuid state.db text = .ok reply ∧
            Counts state.db event total reply) ∧
        ∀ limit, ∀ reply ∈ listEvents uuid state.db limit,
          reply.id = uuid.string event → Counts state.db event total reply := by
  obtain ⟨wellFormed, constrained⟩ := constrained_of_run ran
  have census : Census (created (State.empty uuid) labels) state.db :=
    census_of_run wellFormed_empty constrained_empty census_empty ran
  refine ⟨?_, census.events, census.events ▸ census.distinct, ?_⟩
  · intro seat stored
    exact ⟨constrained.references seat stored, wellFormed.holder seat stored⟩
  · intro event req member
    have accepted : validateCreateEvent req = none :=
      census.accepted (event, req) member
    obtain ⟨positive, small⟩ := seatCount_of_accepted accepted
    have labelled := census.labels (event, req) member
    have counted :
        (state.db.seatsOf event).length = req.seatCount.toNat := by
      have lengths := congrArg List.length labelled
      simpa [seatLabels] using lengths
    have counts :
        ∀ row : EventRow, row.id = event →
          Counts state.db event req.seatCount.toNat
            (scanEvent uuid state.db row) := by
      intro row isRow
      subst isRow
      exact counts_scanEvent (by omega) counted
    refine ⟨req.seatCount.toNat, by omega, labelled, seatLabels_nodup _, ?_, ?_⟩
    · intro text parsed
      have known : event ∈ state.db.events.map EventRow.id := by
        rw [census.events]
        exact List.mem_map_of_mem member
      obtain ⟨row, isRow, found⟩ := getEvent_of_mem parsed known
      exact ⟨_, found, counts row isRow⟩
    · intro limit reply listed isEvent
      obtain ⟨row, _, rfl⟩ := mem_listEvents listed
      exact counts row (uuid.string_injective isEvent)

-- A concert with three seats, of which order 9 holds one and has bought
-- another.
private def concertLabels : List Label :=
  [.createEvent ⟨"Concert", 3⟩ 1 [2, 3, 4],
    .createEvent ⟨"Concert", 2⟩ 1 [5, 6],
    .beginCall .reserveSeats (seatRequest 9 [2, 3]), .commitCall 0 10,
    .beginCall .confirmSeats (seatRequest 9 [2]), .commitCall 1 11]

theorem seats_are_neither_lost_nor_invented_in_a_concert :
    ∃ state : State standardText,
      run step (State.empty standardText) concertLabels = some state ∧
        created (State.empty standardText) concertLabels =
          [(1, ⟨"Concert", 3⟩)] ∧
        state.db.tally 1 .held = 1 ∧ state.db.tally 1 .sold = 1 ∧
        (state.db.seatsOf 1).map SeatRow.label =
          ["Seat 1", "Seat 2", "Seat 3"] ∧
        ∃ reply, getEvent standardText state.db (standardString 1) =
            .ok reply ∧
          reply.totalSeats = 3 ∧ reply.availableSeats = 1 := by
  have ends :
      (run step (State.empty standardText) concertLabels).any
          (fun state =>
            decide
              (created (State.empty standardText) concertLabels =
                  [(1, ⟨"Concert", 3⟩)] ∧
                state.db.tally 1 .held = 1 ∧
                state.db.tally 1 .sold = 1)) = true := by
    decide +kernel
  obtain ⟨state, ran, checked⟩ := (Option.any_eq_true _ _).mp ends
  obtain ⟨events, held, sold⟩ := of_decide_eq_true checked
  have member :
      (1, (⟨"Concert", 3⟩ : CreateEventRequest)) ∈
        created (State.empty standardText) concertLabels := by
    rw [events]
    exact List.mem_singleton_self _
  obtain ⟨total, isTotal, labelled, _, reported, _⟩ :=
    (seats_are_neither_lost_nor_invented ran).2.2.2 _ _ member
  have three : total = 3 := by
    have cast : (3 : Int) = total := isTotal
    omega
  subst three
  obtain ⟨reply, found, counts⟩ :=
    reported (standardString 1) (standardText.parse_string 1)
  refine ⟨state, ran, events, held, sold, labelled, reply, found, ?_, ?_⟩
  · exact counts.all
  · rw [counts.free, held, sold]
    rfl

end TicketWave.Inventory
