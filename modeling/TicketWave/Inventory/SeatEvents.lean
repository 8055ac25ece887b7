import TicketWave.Inventory.SeatFeed

/-!
# Seats and their events

The last row of the outbox that lists a seat gives its status.
-/

namespace TicketWave.Inventory

open Library

variable {uuid : UuidText}

/-- A seat of the concert whose status is not what it was. -/
def ChangedIn (before after : Db) (concert id : UUID) : Prop :=
  ∃ row, before.seat id = some row ∧ row.eventId = concert ∧
    after.status id ≠ some row.status

/-- The row is about this concert and lists exactly the seats that changed. -/
structure Reports
    (uuid : UuidText) (before after : Db) (concert : UUID)
    (row : Outbox.Row SeatEvent) : Prop where
  named : uuid.column row.payload.eventId = some concert
  lists :
    ∃ ids, uuid.columns row.payload.seatIds = some ids ∧ ids.Nodup ∧
      ∀ id, id ∈ ids ↔ ChangedIn before after concert id

/-- One row for each concert that changed, and no others. -/
structure Reported
    (uuid : UuidText) (before after : Db)
    (added : List (Outbox.Row SeatEvent)) : Prop where
  appended : after.outbox = before.outbox ++ added
  once :
    ∀ concert, (∃ id, ChangedIn before after concert id) →
      ∃ row, added.filter (fun row => decide (row.key = concert)) = [row] ∧
        Reports uuid before after concert row
  needed : ∀ row ∈ added, ∃ id, ChangedIn before after row.key id

theorem reported_of_unchanged
    {before after : Db} (outbox : after.outbox = before.outbox)
    (kept :
      ∀ id row, before.seat id = some row → after.status id = some row.status) :
    Reported uuid before after [] where
  appended := by rw [outbox, List.append_nil]
  once := by
    rintro concert ⟨id, row, found, _, changed⟩
    exact absurd (kept id row found) changed
  needed := nofun

theorem Method.origin_ne_target (method : Method) :
    method.target ≠ method.origin := by
  cases method <;> decide

section Call

variable {db : Db} {req : SeatRequest} {rowId : UUID} {start : Nat}
  {method : Method} {event : UUID} {done : Committed}

theorem changedIn_of_performed (wellFormed : WellFormed db)
    (accepted : validateSeatRequest uuid req = none)
    (committed : transact uuid method db req rowId start = .ok done)
    (performed : Performed uuid method db req rowId start event done)
    {concert id : UUID} :
    ChangedIn db done.db concert id ↔ concert = event ∧ id ∈ done.seats := by
  have status := (transact_status wellFormed accepted committed).2
  constructor
  · rintro ⟨row, found, isConcert, changed⟩
    by_cases named : id ∈ done.seats
    · obtain ⟨other, stored, isSeat, isEvent, _⟩ := performed.applies id named
      have same : other = row := by
        have lookedUp := lookup_of_mem wellFormed.seatIds stored
        rw [isSeat] at lookedUp
        exact Option.some.inj (lookedUp.symm.trans found)
      rw [← isConcert, ← same, isEvent]
      exact ⟨rfl, named⟩
    · rw [status id, if_neg named, status_of_seat found] at changed
      exact absurd rfl changed
  · rintro ⟨rfl, named⟩
    obtain ⟨row, stored, isSeat, isEvent, source⟩ := performed.applies id named
    have found : db.seat id = some row := by
      rw [← isSeat]
      exact lookup_of_mem wellFormed.seatIds stored
    refine ⟨row, found, isEvent, ?_⟩
    rw [status id, if_pos named, Method.origin_of_source source]
    intro same
    exact method.origin_ne_target (Option.some.inj same)

theorem reported_of_call (wellFormed : WellFormed db)
    (accepted : validateSeatRequest uuid req = none)
    (committed : transact uuid method db req rowId start = .ok done) :
    ∃ added, Reported uuid db done.db added := by
  have seatList := seatList_of_accepted accepted
  obtain ⟨event, performed⟩ :=
    (transact_eq_ok_iff wellFormed.seatIds accepted).mp committed
  have changed :
      ∀ concert id, ChangedIn db done.db concert id ↔
        concert = event ∧ id ∈ done.seats := fun _ _ =>
    changedIn_of_performed wellFormed accepted committed performed
  have distinct : done.seats.Nodup := seatList.columns_nodup performed.readSeats
  refine ⟨[seatEventRow uuid event req.eventId req.seatIds method.target.state
      rowId start], by rw [performed.result], ?_, ?_⟩
  · rintro concert ⟨id, isChanged⟩
    obtain ⟨rfl, _⟩ := (changed concert id).mp isChanged
    refine ⟨_, List.filter_cons_of_pos (decide_eq_true rfl), ?_, ?_⟩
    · exact performed.readEvent
    · refine ⟨done.seats, performed.readSeats, distinct, ?_⟩
      intro other
      rw [changed]
      exact ⟨fun named => ⟨rfl, named⟩, fun both => both.2⟩
  · intro row member
    rw [List.mem_singleton.mp member]
    have positive : done.seats ≠ [] := by
      intro empty
      have none := uuid.columns_length performed.readSeats
      rw [empty] at none
      exact seatList.ne_nil (List.length_eq_zero_iff.mp none.symm)
    obtain ⟨id, named⟩ := List.exists_mem_of_ne_nil done.seats positive
    exact ⟨id, (changed event id).mpr ⟨rfl, named⟩⟩

end Call

section Sweep

variable {db next : Db} {expired : List UUID} {newId : UUID → UUID}
  {start : Nat}

theorem changedIn_of_swept (wellFormed : WellFormed db)
    (swept : Swept uuid db expired start next) {concert id : UUID} :
    ChangedIn db next concert id ↔
      ∃ row ∈ db.seats,
        row.id = id ∧ row.eventId = concert ∧ sweepable expired row = true := by
  constructor
  · rintro ⟨row, found, isConcert, changed⟩
    refine ⟨row, mem_of_lookup found, key_of_lookup found, isConcert, ?_⟩
    by_contra kept
    apply changed
    rw [Db.status, swept.seat, found, Option.map_some, if_neg kept]
    rfl
  · rintro ⟨row, stored, rfl, isConcert, passed⟩
    have found : db.seat row.id = some row :=
      lookup_of_mem wellFormed.seatIds stored
    refine ⟨row, found, isConcert, ?_⟩
    rw [Db.status, swept.seat, found, Option.map_some, if_pos passed,
      (of_decide_eq_true passed).2]
    intro same
    cases same

theorem filter_byEvent {released : List SeatRow} {concert : UUID}
    (member : concert ∈ released.map SeatRow.eventId) :
    (byEvent released).filter (fun group => decide (group.1 = concert)) =
      [(concert,
        (released.filter fun row => decide (row.eventId = concert)).map
          SeatRow.id)] := by
  have only :
      (released.map SeatRow.eventId).dedup.filter
          (fun event => decide (event = concert)) = [concert] := by
    rw [List.filter_eq,
      List.count_eq_one_of_mem (List.nodup_dedup _)
        (List.mem_dedup.mpr member)]
    rfl
  rw [byEvent, List.filter_map]
  exact congrArg (List.map _) only

theorem reported_of_sweep (wellFormed : WellFormed db)
    (committed : sweepHolds uuid db expired newId start = .ok next) :
    ∃ added, Reported uuid db next added := by
  have swept := sweepHolds_ok wellFormed committed
  have shape := (sweepHolds_eq_ok wellFormed committed).1
  let released := db.seats.filter (sweepable expired)
  have changed :
      ∀ concert id, ChangedIn db next concert id ↔
        ∃ row ∈ released, row.id = id ∧ row.eventId = concert := by
    intro concert id
    rw [changedIn_of_swept wellFormed swept]
    constructor
    · rintro ⟨row, stored, isSeat, isConcert, passed⟩
      exact ⟨row, List.mem_filter.mpr ⟨stored, passed⟩, isSeat, isConcert⟩
    · rintro ⟨row, freed, isSeat, isConcert⟩
      obtain ⟨stored, passed⟩ := List.mem_filter.mp freed
      exact ⟨row, stored, isSeat, isConcert, passed⟩
  refine ⟨(byEvent released).map (freedRow uuid newId start), by rw [shape],
    ?_, ?_⟩
  · rintro concert ⟨id, isChanged⟩
    obtain ⟨row, freed, _, isConcert⟩ := (changed concert id).mp isChanged
    have member : concert ∈ released.map SeatRow.eventId :=
      isConcert ▸ List.mem_map_of_mem freed
    let group : UUID × List UUID :=
      (concert,
        (released.filter fun row => decide (row.eventId = concert)).map
          SeatRow.id)
    refine ⟨freedRow uuid newId start group, ?_, ?_, ?_⟩
    · rw [List.filter_map]
      exact congrArg (List.map _) (filter_byEvent member)
    · exact uuid.column_string concert
    · refine ⟨group.2, uuid.columns_map_string group.2, ?_, ?_⟩
      · exact wellFormed.seatIds.sublist
          ((List.filter_sublist.trans List.filter_sublist).map _)
      · intro other
        rw [changed]
        constructor
        · intro listed
          obtain ⟨seat, inGroup, isSeat⟩ := List.mem_map.mp listed
          obtain ⟨freedSeat, inConcert⟩ := List.mem_filter.mp inGroup
          exact ⟨seat, freedSeat, isSeat, of_decide_eq_true inConcert⟩
        · rintro ⟨seat, freedSeat, isSeat, inConcert⟩
          exact List.mem_map.mpr
            ⟨seat,
              List.mem_filter.mpr ⟨freedSeat, decide_eq_true inConcert⟩,
              isSeat⟩
  · intro row member
    obtain ⟨group, isGroup, rfl⟩ := List.mem_map.mp member
    obtain ⟨named, _⟩ := mem_byEvent_iff.mp isGroup
    obtain ⟨seat, freed, isConcert⟩ := List.mem_map.mp named
    exact ⟨seat.id, (changed group.1 seat.id).mpr ⟨seat, freed, rfl, isConcert⟩⟩

end Sweep

theorem reported_of_effect {state next : State uuid}
    (wellFormed : WellFormed state.db) (effect : Effect state next) :
    ∃ added, Reported uuid state.db next.db added := by
  cases effect with
  | nothing db _ =>
      refine ⟨[], reported_of_unchanged (by rw [db]) ?_⟩
      intro id row found
      rw [db, status_of_seat found]
  | created committed _ =>
      obtain ⟨_, outbox, _⟩ := createEvent_ok committed
      refine ⟨[], reported_of_unchanged outbox ?_⟩
      intro id row found
      rcases createEvent_seat committed id with kept | ⟨absent, _⟩
      · rw [Db.status, kept, found, Option.map_some]
      · rw [absent] at found
        cases found
  | @called _ _ _ request _ _ committed db _ =>
      rw [db]
      exact reported_of_call wellFormed request.valid committed
  | swept committed _ => exact reported_of_sweep wellFormed committed

/-- The rows so far give the status of every seat, and a new seat is
available. -/
def Tells (state : State uuid) : Prop :=
  ∀ seat, Matches (state.db.status seat) (shown uuid state.db.outbox seat)

theorem tells_of_effect {state next : State uuid}
    (wellFormed : WellFormed state.db) (tells : Tells state)
    (effect : Effect state next) : Tells next := by
  intro seat
  obtain ⟨added, outbox, _, announced⟩ := announced_of_effect wellFormed effect
  have before := tells seat
  rw [shown, outbox, lastValue_append]
  rcases announced seat with ⟨⟨row, member, lists⟩, states⟩ | ⟨silent, status⟩
  · have current :
        lastValue (concerns uuid seat) (fun row => row.payload.state)
          added = some row.payload.state := by
      apply lastValue_of_constant member (decide_eq_true lists)
      intro other otherMember _
      exact Option.some.inj
        ((states other otherMember).symm.trans (states row member))
    rw [current, Option.some_or]
    exact states row member
  · have nothing :
        lastValue (concerns uuid seat) (fun row => row.payload.state)
          added = none :=
      lastValue_of_none fun row member =>
        decide_eq_false (silent row member)
    rw [nothing, Option.none_or]
    rcases status with same | ⟨absent, created⟩
    · rw [same]
      exact before
    · rw [absent] at before
      rw [created]
      exact matches_of_created before

/-- A step that commits no change of seats leaves the outbox alone, and so
does one that ends a call with an error. -/
theorem outbox_of_quiet {state next : State uuid} {label : Label}
    (transition : Transition state label next)
    (quiet :
      next.history = state.history ∨
        ∃ id err, next.answers = (id, some err) :: state.answers) :
    next.db.outbox = state.db.outbox := by
  cases transition with
  | eventCreated _ committed => exact (createEvent_ok committed).2.1
  | callCommitted _ _ =>
      rcases quiet with same | ⟨_, _, same⟩
      · exact absurd same (List.cons_ne_self _ _)
      · exact absurd same.symm (List.cons_ne_self _ _)
  | sweepCommitted _ _ =>
      rcases quiet with same | ⟨_, _, same⟩
      · exact absurd same (List.cons_ne_self _ _)
      · exact absurd same.symm (List.cons_ne_self _ _)
  | _ => rfl

/-- Seats and seat events agree in commit order. -/
theorem seat_events_tell_the_seats {labels : List Label} {state : State uuid}
    (ran : run step (State.empty uuid) labels = some state) :
    (∀ seat status, state.db.status seat = some status →
      (shown uuid state.db.outbox seat).getD .available = status.state) ∧
    ∀ label next, step state label = some next →
      (∃ added, Reported uuid state.db next.db added) ∧
      (next.history = state.history ∨
          (∃ id err, next.answers = (id, some err) :: state.answers) →
        next.db.outbox = state.db.outbox) := by
  have preserved :
      ∀ {before after : State uuid} {label : Label},
        WellFormed before.db ∧ Tells before →
          step before label = some after →
            WellFormed after.db ∧ Tells after := by
    intro before after label kept stepped
    have effect := (transition_of_step stepped).effect
    exact ⟨wellFormed_of_effect kept.1 effect,
      tells_of_effect kept.1 kept.2 effect⟩
  have initially :
      WellFormed (State.empty uuid).db ∧ Tells (State.empty uuid) :=
    ⟨wellFormed_empty, fun _ => Or.inl rfl⟩
  obtain ⟨wellFormed, tells⟩ := invariant_of_run preserved initially ran
  constructor
  · intro seat status isStatus
    have current := tells seat
    rw [isStatus] at current
    cases last : shown uuid state.db.outbox seat with
    | none =>
        rw [last] at current
        rcases current with absent | available
        · cases absent
        · cases available
          rfl
    | some told =>
        rw [last] at current
        exact (Option.some.inj current).symm
  · intro label next stepped
    have transition := transition_of_step stepped
    exact ⟨reported_of_effect wellFormed transition.effect,
      outbox_of_quiet transition⟩

-- Orders 9 and 8 hold a seat each, of two concerts, and one sweep frees both.
private def twoConcertLabels : List Label :=
  [.createEvent ⟨"Concert", 1⟩ 1 [2], .createEvent ⟨"Encore", 1⟩ 4 [5],
    .beginCall .reserveSeats (seatRequest 9 [2]), .commitCall 0 10,
    .beginCall .reserveSeats
      ⟨standardString 4, [standardString 5], standardString 8⟩,
    .commitCall 1 11, .sweepList, .sweepCheck 2 true, .sweepCheck 2 true,
    .sweepOpen 2]

theorem seat_events_tell_the_seats_in_a_sweep :
    ∃ state : State standardText,
      run step (State.empty standardText) twoConcertLabels = some state ∧
        state.db.status 2 = some .held ∧
        (shown standardText state.db.outbox 2).getD .available = .held ∧
        ∃ next, step state (.sweepCommit 2 (· + 20)) = some next ∧
          next.db.status 2 = some .available ∧
          next.db.outbox.length = 4 ∧
          ∃ added, Reported standardText state.db next.db added := by
  have ends :
      (run step (State.empty standardText) twoConcertLabels).any
          (fun state =>
            decide (state.db.status 2 = some .held) &&
              (step state (.sweepCommit 2 (· + 20))).any fun next =>
                decide
                  (next.db.status 2 = some .available ∧
                    next.db.outbox.length = 4)) = true := by
    decide +kernel
  obtain ⟨state, ran, checked⟩ := (Option.any_eq_true _ _).mp ends
  obtain ⟨held, later⟩ := Bool.and_eq_true_iff.mp checked
  obtain ⟨next, stepped, after⟩ := (Option.any_eq_true _ _).mp later
  obtain ⟨available, count⟩ := of_decide_eq_true after
  have isHeld := of_decide_eq_true held
  obtain ⟨agrees, reports⟩ := seat_events_tell_the_seats ran
  exact ⟨state, ran, isHeld, agrees 2 .held isHeld, next, stepped, available,
    count, (reports _ next stepped).1⟩

end TicketWave.Inventory
