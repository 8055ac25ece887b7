import TicketWave.Inventory.AllOrNothing
import TicketWave.Inventory.Queries

/-!
# Two spellings of one request

The event and the `DEL` commands go out under the IDs as the request spells
them, while `SET` uses the canonical ones.
-/

namespace TicketWave.Inventory

open Library

variable {uuid : UuidText} {collation : String → String → Bool} {db : Db}
  {left right req : SeatRequest} {method : Method}

/-- The requests differ in nothing but the letter case of their IDs. -/
structure SameButCase (left right : SeatRequest) : Prop where
  eventId : SameLetters left.eventId right.eventId
  seatIds : List.Forall₂ SameLetters left.seatIds right.seatIds
  orderId : SameLetters left.orderId right.orderId

/-- The event and the seats are spelled as `UUID.String` writes them. -/
structure CanonicalIds (uuid : UuidText) (req : SeatRequest) : Prop where
  eventId : uuid.Canonical req.eventId
  seatIds : ∀ text ∈ req.seatIds, uuid.Canonical text

theorem checkSeatIds_of_sameLetters (blind : uuid.CaseBlind) {seen : List UUID}
    {leftIds rightIds : List String}
    (same : List.Forall₂ SameLetters leftIds rightIds) :
    checkSeatIds uuid seen leftIds = checkSeatIds uuid seen rightIds := by
  induction same generalizing seen with
  | nil => rfl
  | @cons leftId rightId _ _ head _ ih =>
      rw [checkSeatIds, checkSeatIds, blind.parse head]
      cases uuid.parse rightId with
      | none => rfl
      | some id =>
          dsimp only
          rw [ih]

theorem validateSeatRequest_of_sameButCase
    (blind : uuid.CaseBlind) (same : SameButCase left right) :
    validateSeatRequest uuid left = validateSeatRequest uuid right := by
  unfold validateSeatRequest validateEventID
  rw [blind.parse same.eventId, blind.parse same.orderId,
    same.seatIds.length_eq,
    checkSeatIds_of_sameLetters blind same.seatIds]

variable {leftId rightId event : UUID} {leftStart rightStart : Nat}
  {done : Committed}

/-- A call commits on one spelling as it does on the other, up to the texts
it writes. -/
theorem performed_of_sameButCase (blind : uuid.CaseBlind)
    (same : SameButCase left right)
    (fresh : rightId ∉ db.outbox.map Outbox.Row.id)
    (performed : Performed uuid method db left leftId leftStart event done) :
    Performed uuid method db right rightId rightStart event
      (method.perform uuid db right rightId rightStart event done.order
        done.seats) := by
  have readSeats : uuid.columns right.seatIds = some done.seats := by
    rw [← blind.columns same.seatIds]
    exact performed.readSeats
  have readEvent : uuid.column right.eventId = some event := by
    rw [← blind.column same.eventId]
    exact performed.readEvent
  have readOrder : uuid.column right.orderId = some done.order := by
    rw [← blind.column same.orderId]
    exact performed.readOrder
  exact performed_perform readSeats readEvent readOrder performed.applies
    performed.known fresh

/-- The key a command sets, with its lifetime, or deletes. -/
def RedisCommand.target : RedisCommand → String × Option Nat
  | .set key _ ttl => (key, some ttl)
  | .del key => (key, none)

/-- The call's loop over its commands, all of them successful. -/
def runCommands (now : Nat) (redis : Redis) (commands : List RedisCommand) :
    Redis :=
  commands.foldl (RedisCommand.apply now) redis

/-- The same keys exist, and for as long. -/
def SameKeys (left right : Redis) : Prop :=
  ∀ key,
    (left key).map RedisEntry.deadline = (right key).map RedisEntry.deadline

theorem SameKeys.apply
    {leftRedis rightRedis : Redis} {leftCommand rightCommand : RedisCommand}
    (same : SameKeys leftRedis rightRedis)
    (targets : leftCommand.target = rightCommand.target) (now : Nat) :
    SameKeys (leftCommand.apply now leftRedis)
      (rightCommand.apply now rightRedis) := by
  intro key
  cases leftCommand with
  | set leftKey leftValue leftTtl =>
      cases rightCommand with
      | set rightKey rightValue rightTtl =>
          cases targets
          by_cases isKey : key = leftKey
          · simp [RedisCommand.apply, isKey]
          · simpa [RedisCommand.apply, isKey] using same key
      | del rightKey => cases targets
  | del leftKey =>
      cases rightCommand with
      | set rightKey rightValue rightTtl => cases targets
      | del rightKey =>
          cases targets
          by_cases isKey : key = leftKey
          · simp [RedisCommand.apply, isKey]
          · simpa [RedisCommand.apply, isKey] using same key

theorem SameKeys.runCommands {leftRedis rightRedis : Redis}
    {leftCommands rightCommands : List RedisCommand}
    (same : SameKeys leftRedis rightRedis)
    (targets :
      leftCommands.map RedisCommand.target =
        rightCommands.map RedisCommand.target) (now : Nat) :
    SameKeys (runCommands now leftRedis leftCommands)
      (runCommands now rightRedis rightCommands) := by
  induction leftCommands generalizing leftRedis rightRedis rightCommands with
  | nil =>
      cases rightCommands with
      | nil => exact same
      | cons command rest => cases targets
  | cons leftCommand leftRest ih =>
      cases rightCommands with
      | nil => cases targets
      | cons rightCommand rightRest =>
          rw [List.map_cons, List.map_cons, List.cons.injEq] at targets
          have later := ih (same.apply targets.1 now) targets.2
          exact later

theorem targets_of_reserve (seats : List UUID) :
    (Method.reserveSeats.commands uuid left seats).map RedisCommand.target =
      (Method.reserveSeats.commands uuid right seats).map
        RedisCommand.target := by
  rw [Method.commands, Method.commands, List.map_map, List.map_map]
  rfl

theorem targets_of_same_seats
    (texts : left.seatIds = right.seatIds) (seats : List UUID) :
    (method.commands uuid left seats).map RedisCommand.target =
      (method.commands uuid right seats).map RedisCommand.target := by
  cases method with
  | reserveSeats => exact targets_of_reserve seats
  | confirmSeats => rw [Method.commands, Method.commands, texts]
  | releaseSeats => rw [Method.commands, Method.commands, texts]

/-- The IDs in the event are the ones that the read methods report. -/
structure AsReported
    (uuid : UuidText) (collation : String → String → Bool) (db : Db)
    (payload : SeatEvent) : Prop where
  event :
    ∃ reply, getEvent uuid db payload.eventId = .ok reply ∧
      reply.id = payload.eventId
  seats :
    ∀ text ∈ payload.seatIds,
      ∃ reply, listSeats uuid collation db payload.eventId = .ok reply ∧
        ∃ seat ∈ reply, seat.id = text

theorem asReported_of_canonical {rowId : UUID} {start : Nat}
    (performed : Performed uuid method db req rowId start event done)
    (canonical : CanonicalIds uuid req) :
    AsReported uuid collation done.db
      (seatEventRow uuid event req.eventId req.seatIds method.target.state
        rowId start).payload := by
  have isEvent : uuid.string event = req.eventId :=
    (UuidText.canonical_iff performed.readEvent).mp canonical.eventId
  have areSeats : done.seats.map uuid.string = req.seatIds :=
    UuidText.map_string_of_canonical canonical.seatIds performed.readSeats
  constructor
  · have known : event ∈ done.db.events.map EventRow.id := by
      rw [performed.result]
      exact performed.known
    have parsed : uuid.parse req.eventId = some event := by
      rw [← isEvent, uuid.parse_string]
    obtain ⟨row, isRow, found⟩ := getEvent_of_mem parsed known
    refine ⟨scanEvent uuid done.db row, found, ?_⟩
    show uuid.string row.id = req.eventId
    rw [isRow, isEvent]
  · intro text member
    have listedText : text ∈ done.seats.map uuid.string :=
      areSeats.symm ▸ member
    obtain ⟨id, named, rfl⟩ := List.mem_map.mp listedText
    obtain ⟨row, stored, isSeat, inEvent, _⟩ := performed.applies id named
    have changed : method.change done.order row ∈ done.db.seats := by
      rw [performed.result]
      refine mem_updateWhere.mpr ⟨row, stored, ?_⟩
      rw [if_pos (decide_eq_true (isSeat ▸ named))]
    have accepted : validateEventID uuid req.eventId = none := by
      rw [validateEventID, ← isEvent, uuid.parse_string]
    obtain ⟨reply, replied, listedSeat⟩ :=
      mem_listSeats accepted performed.readEvent changed
        ((method.change_eventId done.order row).trans inEvent)
    refine ⟨reply, replied, _, listedSeat, ?_⟩
    rw [Method.change_id, isSeat]

theorem canonical_of_asReported
    {payload : SeatEvent} (reported : AsReported uuid collation db payload) :
    uuid.Canonical payload.eventId ∧
      ∀ text ∈ payload.seatIds, uuid.Canonical text := by
  constructor
  · obtain ⟨reply, found, isReply⟩ := reported.event
    unfold getEvent at found
    split at found
    · cases found
    · split at found
      · cases found
      · cases found
        rw [← isReply]
        exact uuid.canonical_string _
  · intro text member
    obtain ⟨reply, found, seat, isListed, rfl⟩ := reported.seats text member
    unfold listSeats at found
    split at found
    · cases found
    · split at found
      · cases found
      · cases found
        obtain ⟨row, _, rfl⟩ := List.mem_map.mp isListed
        exact uuid.canonical_string row.id

theorem SameButCase.symm (same : SameButCase left right) :
    SameButCase right left :=
  ⟨same.eventId.symm, same.seatIds.flip.imp fun _ _ => Eq.symm,
    same.orderId.symm⟩

theorem succeeds_of_sameButCase (blind : uuid.CaseBlind)
    (constrained : Constrained db) (same : SameButCase left right)
    (accepted : validateSeatRequest uuid left = none)
    (fresh : rightId ∉ db.outbox.map Outbox.Row.id)
    (succeeds :
      ∃ done, transact uuid method db left leftId leftStart = .ok done) :
    ∃ done, transact uuid method db right rightId rightStart = .ok done := by
  have alsoAccepted : validateSeatRequest uuid right = none := by
    rw [← validateSeatRequest_of_sameButCase blind same]
    exact accepted
  obtain ⟨done, ok⟩ := succeeds
  obtain ⟨event, performed⟩ :=
    (transact_eq_ok_iff constrained.seatIds accepted).mp ok
  exact ⟨_, (transact_eq_ok_iff constrained.seatIds alsoAccepted).mpr
    ⟨event, performed_of_sameButCase blind same fresh performed⟩⟩

theorem SameButCase.performed_eq {other : UUID} {leftDone rightDone : Committed}
    (blind : uuid.CaseBlind) (same : SameButCase left right)
    (leftPerformed :
      Performed uuid method db left leftId leftStart event leftDone)
    (rightPerformed :
      Performed uuid method db right rightId rightStart other rightDone) :
    event = other ∧ leftDone.order = rightDone.order ∧
      leftDone.seats = rightDone.seats := by
  have readEvent := leftPerformed.readEvent
  have readOrder := leftPerformed.readOrder
  have readSeats := leftPerformed.readSeats
  rw [blind.column same.eventId, rightPerformed.readEvent] at readEvent
  rw [blind.column same.orderId, rightPerformed.readOrder] at readOrder
  rw [blind.columns same.seatIds, rightPerformed.readSeats] at readSeats
  exact ⟨(Option.some.inj readEvent).symm, (Option.some.inj readOrder).symm,
    (Option.some.inj readSeats).symm⟩

/-- The two calls set or delete the same keys and append one event each, with
the same IDs, as the read methods report them. -/
structure LooksAlike
    (uuid : UuidText) (collation : String → String → Bool) (db : Db)
    (left right : Committed) : Prop where
  targets :
    left.commands.map RedisCommand.target =
      right.commands.map RedisCommand.target
  keys :
    ∀ redis now,
      SameKeys (runCommands now redis left.commands)
        (runCommands now redis right.commands)
  events :
    ∃ leftRow rightRow,
      left.db.outbox = db.outbox ++ [leftRow] ∧
        right.db.outbox = db.outbox ++ [rightRow] ∧
        leftRow.payload.eventId = rightRow.payload.eventId ∧
        leftRow.payload.seatIds = rightRow.payload.seatIds ∧
        AsReported uuid collation left.db leftRow.payload ∧
        AsReported uuid collation right.db rightRow.payload

theorem canonicalIds_of_asReported {rowId : UUID} {start : Nat}
    {row : Outbox.Row SeatEvent}
    (performed : Performed uuid method db req rowId start event done)
    (isRow : done.db.outbox = db.outbox ++ [row])
    (reported : AsReported uuid collation done.db row.payload) :
    CanonicalIds uuid req := by
  rw [performed.result] at isRow
  cases List.append_cancel_left isRow
  obtain ⟨isEvent, areSeats⟩ := canonical_of_asReported reported
  exact ⟨isEvent, areSeats⟩

/-- Two calls that succeed look alike exactly if both spell the event and the
seats canonically. -/
theorem looksAlike_iff {other : UUID} {leftDone rightDone : Committed}
    (blind : uuid.CaseBlind) (same : SameButCase left right)
    (leftPerformed :
      Performed uuid method db left leftId leftStart event leftDone)
    (rightPerformed :
      Performed uuid method db right rightId rightStart other rightDone) :
    LooksAlike uuid collation db leftDone rightDone ↔
      CanonicalIds uuid left ∧ CanonicalIds uuid right := by
  constructor
  · intro alike
    obtain
      ⟨leftRow, rightRow, isLeft, isRight, _, _, leftReported,
        rightReported⟩ := alike.events
    exact ⟨canonicalIds_of_asReported leftPerformed isLeft leftReported,
      canonicalIds_of_asReported rightPerformed isRight rightReported⟩
  · rintro ⟨leftCanonical, rightCanonical⟩
    obtain ⟨sameEvent, _, sameSeats⟩ :=
      same.performed_eq blind leftPerformed rightPerformed
    have sameTexts : left.seatIds = right.seatIds := by
      rw [← UuidText.map_string_of_canonical leftCanonical.seatIds
          leftPerformed.readSeats,
        ← UuidText.map_string_of_canonical rightCanonical.seatIds
          rightPerformed.readSeats, sameSeats]
    have sameText : left.eventId = right.eventId := by
      rw [← (UuidText.canonical_iff leftPerformed.readEvent).mp
          leftCanonical.eventId,
        ← (UuidText.canonical_iff rightPerformed.readEvent).mp
          rightCanonical.eventId, sameEvent]
    have targets :
        leftDone.commands.map RedisCommand.target =
          rightDone.commands.map RedisCommand.target := by
      rw [leftPerformed.commands, rightPerformed.commands, sameEvent, sameSeats]
      exact targets_of_same_seats sameTexts _
    refine ⟨targets, ?_, ?_⟩
    · intro redis now
      exact SameKeys.runCommands (fun _ => rfl) targets now
    · exact ⟨_, _, by rw [leftPerformed.result], by rw [rightPerformed.result],
        sameText, sameTexts,
        asReported_of_canonical leftPerformed leftCanonical,
        asReported_of_canonical rightPerformed rightCanonical⟩

/-- The spelling of an ID does not matter to the success of a seat call or to
what it does to the rows; a call that fails does nothing else, and to one that
succeeds it does not matter at all exactly if both requests spell the event
and the seats canonically. -/
theorem spelling_does_not_matter_to_canonical_requests {leftId rightId : UUID}
    {leftStart rightStart : Nat} (blind : uuid.CaseBlind)
    (constrained : Constrained db) (same : SameButCase left right)
    (accepted : validateSeatRequest uuid left = none)
    (leftFresh : leftId ∉ db.outbox.map Outbox.Row.id)
    (rightFresh : rightId ∉ db.outbox.map Outbox.Row.id) :
    ((∃ done, transact uuid method db left leftId leftStart = .ok done) ↔
      ∃ done, transact uuid method db right rightId rightStart = .ok done) ∧
    ∀ leftDone rightDone,
      transact uuid method db left leftId leftStart = .ok leftDone →
      transact uuid method db right rightId rightStart = .ok rightDone →
        leftDone.db.seats = rightDone.db.seats ∧
        (LooksAlike uuid collation db leftDone rightDone ↔
          CanonicalIds uuid left ∧ CanonicalIds uuid right) := by
  have alsoAccepted : validateSeatRequest uuid right = none := by
    rw [← validateSeatRequest_of_sameButCase blind same]
    exact accepted
  constructor
  · exact ⟨succeeds_of_sameButCase blind constrained same accepted rightFresh,
      succeeds_of_sameButCase blind constrained same.symm alsoAccepted
        leftFresh⟩
  · intro leftDone rightDone leftOk rightOk
    obtain ⟨event, leftPerformed⟩ :=
      (transact_eq_ok_iff constrained.seatIds accepted).mp leftOk
    obtain ⟨other, rightPerformed⟩ :=
      (transact_eq_ok_iff constrained.seatIds alsoAccepted).mp rightOk
    obtain ⟨_, sameOrder, sameSeats⟩ :=
      same.performed_eq blind leftPerformed rightPerformed
    refine ⟨?_, looksAlike_iff blind same leftPerformed rightPerformed⟩
    rw [leftPerformed.result, rightPerformed.result, sameOrder, sameSeats]

-- Order 171 holds seat 171, whose canonical spelling ends in `ab`.
def heldSeat : Db where
  events := [⟨1, "Concert", 0⟩]
  seats := [⟨171, 1, "Seat 1", .held, some 171⟩]
  outbox := []

private def capitalText : String := "00000000-0000-0000-0000-0000000000AB"

private def spelledRequest (seat order : String) : SeatRequest where
  eventId := standardString 1
  seatIds := [seat]
  orderId := order

private theorem release_of_spelling {seat order : String}
    (accepted :
      validateSeatRequest standardText (spelledRequest seat order) = none)
    (readSeat : standardText.columns [seat] = some [171])
    (readOrder : standardText.column order = some 171) :
    transact standardText .releaseSeats heldSeat (spelledRequest seat order)
        10 0 =
      .ok
        (Method.releaseSeats.perform standardText heldSeat
          (spelledRequest seat order) 10 0 1 171 [171]) := by
  have readEvent :
      standardText.column (spelledRequest seat order).eventId = some 1 := by
    unfold spelledRequest
    exact standardText.column_string 1
  have known : (1 : UUID) ∈ heldSeat.events.map EventRow.id := by
    decide +kernel
  have fresh : (10 : UUID) ∉ heldSeat.outbox.map Outbox.Row.id := by
    decide +kernel
  apply (transact_eq_ok_iff (by decide +kernel) accepted).mpr
  refine ⟨1, performed_perform readSeat readEvent readOrder ?_ known fresh⟩
  intro id member
  rw [List.mem_singleton.mp member]
  exact ⟨_, List.mem_singleton_self _, rfl, rfl, rfl, rfl⟩

theorem spelling_does_not_matter_to_a_canonical_release :
    ∃ left right,
      transact standardText .releaseSeats heldSeat
          (spelledRequest (standardString 171) (standardString 171)) 10 0 =
        .ok left ∧
      transact standardText .releaseSeats heldSeat
          (spelledRequest (standardString 171) capitalText) 10 0 =
        .ok right ∧
      left.commands.map RedisCommand.target =
        right.commands.map RedisCommand.target := by
  have same :
      SameButCase (spelledRequest (standardString 171) (standardString 171))
        (spelledRequest (standardString 171) capitalText) := by
    have order : SameLetters (standardString 171) capitalText := by
      decide +kernel
    unfold spelledRequest
    exact ⟨rfl, .cons rfl .nil, order⟩
  have canonical :
      ∀ order, CanonicalIds standardText
        (spelledRequest (standardString 171) order) := by
    intro order
    have canonicalString :
        ∀ id, standardText.Canonical (standardString id) :=
      standardText.canonical_string
    constructor
    · exact canonicalString 1
    · intro text member
      rw [List.mem_singleton.mp member]
      exact canonicalString 171
  have leftOk :=
    @release_of_spelling (standardString 171) (standardString 171)
      (by decide +kernel) (by decide +kernel) (by decide +kernel)
  have rightOk :=
    @release_of_spelling (standardString 171) capitalText
      (by decide +kernel) (by decide +kernel) (by decide +kernel)
  have both :=
    (@spelling_does_not_matter_to_canonical_requests standardText
      (fun _ _ => true) heldSeat _ _ .releaseSeats 10 10 0 0
      standardText_caseBlind (by decide +kernel) same (by decide +kernel)
      (by decide +kernel) (by decide +kernel)).2 _ _ leftOk rightOk
  exact ⟨_, _, leftOk, rightOk, (both.2.mpr ⟨canonical _, canonical _⟩).targets⟩

/-- The capital spelling of the seat releases it like the canonical one, but
the event and the deleted key carry the capitals. -/
theorem capital_spelling_goes_out_unchanged :
    SameButCase (spelledRequest (standardString 171) (standardString 171))
        (spelledRequest capitalText (standardString 171)) ∧
      ∃ left right,
        transact standardText .releaseSeats heldSeat
            (spelledRequest (standardString 171) (standardString 171)) 10 0 =
          .ok left ∧
        transact standardText .releaseSeats heldSeat
            (spelledRequest capitalText (standardString 171)) 10 0 =
          .ok right ∧
        left.db.outbox.map (fun row => row.payload.seatIds) =
          [[standardString 171]] ∧
        right.db.outbox.map (fun row => row.payload.seatIds) = [[capitalText]] ∧
        left.commands = [.del (holdKey (standardString 171))] ∧
        right.commands = [.del (holdKey capitalText)] ∧
        capitalText ≠ standardString 171 := by
  constructor
  · have seats : SameLetters (standardString 171) capitalText := by
      decide +kernel
    unfold spelledRequest
    exact ⟨rfl, .cons seats .nil, rfl⟩
  exact ⟨_, _,
    release_of_spelling (by decide +kernel) (by decide +kernel)
      (by decide +kernel),
    release_of_spelling (by decide +kernel) (by decide +kernel)
      (by decide +kernel), rfl, rfl, rfl, rfl, by decide +kernel⟩

end TicketWave.Inventory
