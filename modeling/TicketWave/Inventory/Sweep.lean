import TicketWave.Inventory.AllOrNothing

/-!
# One undisturbed sweep

`sweepExpiredHolds` with nobody else at work.  The answers of Redis are
arbitrary, and `byEvent` may be iterated in any order.
-/

namespace TicketWave.Inventory

open Library

variable {uuid : UuidText} {db : Db} {keyExists : UUID → Option Bool}
  {newId : UUID → UUID} {start : Nat}

/-- The loop over `heldIDs`: a failed check is logged and skipped. -/
def expiredIds (keyExists : UUID → Option Bool) (heldIds : List UUID) :
    List UUID :=
  heldIds.filter fun id => decide (keyExists id = some false)

/-- `keyExists` gives the answer of `EXISTS` for the hold key of a seat, or
`none` when the check fails, and `iteration` the order in which Go goes
through the map. -/
def sweepExpiredHolds
    (uuid : UuidText) (db : Db) (keyExists : UUID → Option Bool)
    (iteration : List (UUID × List UUID) → List (UUID × List UUID))
    (newId : UUID → UUID) (start : Nat) (outcome : Outcome)
    (broken : Status) : Attempt Db Status :=
  let expired := expiredIds keyExists (heldIds db)
  if expired.length = 0 then
    ⟨db, false, none⟩
  else
    attempt outcome db
      (emitFreed uuid newId start
        (iteration (byEvent (db.seats.filter (sweepable expired))))
        { db with
          seats :=
            updateWhere (sweepable expired) (unhold .available) db.seats })
      broken

/-- The seat is held, and Redis answered that its key is gone. -/
def dead (keyExists : UUID → Option Bool) (row : SeatRow) : Bool :=
  decide (row.status = .held ∧ keyExists row.id = some false)

/-- The row tells that the dead seats of its concert are free, and no
others. -/
structure Announces
    (uuid : UuidText) (db : Db) (keyExists : UUID → Option Bool)
    (row : Outbox.Row SeatEvent) : Prop where
  event : row.payload.eventId = uuid.string row.key
  state : row.payload.state = .available
  type : row.eventType = "seat.available"
  waits : row.published = false
  seats :
    ∃ ids : List UUID, row.payload.seatIds = ids.map uuid.string ∧
      ids.Nodup ∧
      ∀ id, id ∈ ids ↔
        ∃ seat ∈ db.seats, seat.id = id ∧ seat.eventId = row.key ∧
          dead keyExists seat = true

/-- The dead seats are free, nothing else has changed, and every concert that
had one is told once. -/
structure Frees
    (uuid : UuidText) (db : Db) (keyExists : UUID → Option Bool)
    (next : Db) : Prop where
  events : next.events = db.events
  seats :
    next.seats =
      updateWhere (dead keyExists)
        (fun row => { row with status := .available, heldBy := none })
        db.seats
  outbox :
    ∃ added, next.outbox = db.outbox ++ added ∧
      (added.map Outbox.Row.key).Nodup ∧
      (∀ concert, concert ∈ added.map Outbox.Row.key ↔
        ∃ seat ∈ db.seats, seat.eventId = concert ∧
          dead keyExists seat = true) ∧
      ∀ row ∈ added, Announces uuid db keyExists row

/-- Among the stored rows, the guard of the `UPDATE` picks the dead seats. -/
theorem sweepable_expiredIds {row : SeatRow} (stored : row ∈ db.seats) :
    sweepable (expiredIds keyExists (heldIds db)) row = dead keyExists row := by
  unfold sweepable dead expiredIds
  rw [decide_eq_decide, List.mem_filter, decide_eq_true_eq]
  constructor
  · rintro ⟨⟨_, absent⟩, held⟩
    exact ⟨held, absent⟩
  · rintro ⟨held, absent⟩
    have listed : row.id ∈ heldIds db :=
      List.mem_map_of_mem
        (List.mem_filter.mpr ⟨stored, decide_eq_true held⟩)
    exact ⟨⟨listed, absent⟩, held⟩

theorem filter_expiredIds :
    db.seats.filter (sweepable (expiredIds keyExists (heldIds db))) =
      db.seats.filter (dead keyExists) :=
  List.filter_congr fun _ stored => sweepable_expiredIds stored

theorem updateWhere_expiredIds (change : SeatRow → SeatRow) :
    updateWhere (sweepable (expiredIds keyExists (heldIds db))) change
        db.seats =
      updateWhere (dead keyExists) change db.seats := by
  apply List.map_congr_left
  intro row stored
  rw [sweepable_expiredIds stored]

theorem no_dead_of_no_expired (none : expiredIds keyExists (heldIds db) = []) :
    ∀ row ∈ db.seats, dead keyExists row = false := by
  intro row stored
  rw [← sweepable_expiredIds stored, none]
  simp [sweepable]

theorem announces_freedRow {group : UUID × List UUID}
    (seatIds : (db.seats.map SeatRow.id).Nodup)
    (member : group ∈ byEvent (db.seats.filter (dead keyExists))) :
    Announces uuid db keyExists (freedRow uuid newId start group) := by
  obtain ⟨_, ids⟩ := mem_byEvent_iff.mp member
  refine ⟨rfl, rfl, rfl, rfl, group.2, rfl, ?_, ?_⟩
  · rw [ids]
    exact seatIds.sublist
      ((List.filter_sublist.trans List.filter_sublist).map _)
  · intro id
    rw [ids, List.mem_map]
    constructor
    · rintro ⟨seat, inGroup, isSeat⟩
      obtain ⟨freed, inConcert⟩ := List.mem_filter.mp inGroup
      obtain ⟨stored, isDead⟩ := List.mem_filter.mp freed
      exact ⟨seat, stored, isSeat, of_decide_eq_true inConcert, isDead⟩
    · rintro ⟨seat, stored, isSeat, inConcert, isDead⟩
      have freed : seat ∈ db.seats.filter (dead keyExists) :=
        List.mem_filter.mpr ⟨stored, isDead⟩
      exact ⟨seat, List.mem_filter.mpr ⟨freed, decide_eq_true inConcert⟩,
        isSeat⟩

variable {groups : List (UUID × List UUID)}

theorem mem_concerts_iff {concert : UUID}
    (iterated : groups.Perm (byEvent (db.seats.filter (dead keyExists)))) :
    concert ∈ groups.map Prod.fst ↔
      ∃ seat ∈ db.seats, seat.eventId = concert ∧
        dead keyExists seat = true := by
  rw [(iterated.map Prod.fst).mem_iff, byEvent, List.map_map]
  show concert ∈ List.map id _ ↔ _
  rw [List.map_id, List.mem_dedup, List.mem_map]
  constructor
  · rintro ⟨seat, freed, isConcert⟩
    obtain ⟨stored, isDead⟩ := List.mem_filter.mp freed
    exact ⟨seat, stored, isConcert, isDead⟩
  · rintro ⟨seat, stored, isConcert, isDead⟩
    exact ⟨seat, List.mem_filter.mpr ⟨stored, isDead⟩, isConcert⟩

theorem nodup_concerts {released : List SeatRow}
    (iterated : groups.Perm (byEvent released)) :
    (groups.map Prod.fst).Nodup := by
  rw [(iterated.map Prod.fst).nodup_iff, byEvent, List.map_map]
  show (List.map id _).Nodup
  rw [List.map_id]
  exact List.nodup_dedup _

theorem frees_of_emitFreed {next : Db} (constrained : Constrained db)
    (outboxIds : (db.outbox.map Outbox.Row.id).Nodup)
    (iterated : groups.Perm (byEvent (db.seats.filter (dead keyExists))))
    (emitted :
      emitFreed uuid newId start groups
          { db with
            seats :=
              updateWhere (dead keyExists) (unhold .available) db.seats } =
        .ok next) : Frees uuid db keyExists next := by
  have nonempty : ∀ group ∈ groups, group.2 ≠ [] :=
    fun group member => byEvent_nonempty (iterated.mem_iff.mp member)
  obtain ⟨rfl, _⟩ := emitFreed_ok nonempty (by exact outboxIds) emitted
  have keys :
      (groups.map (freedRow uuid newId start)).map Outbox.Row.key =
        groups.map Prod.fst := by
    rw [List.map_map]
    rfl
  refine ⟨rfl, rfl, groups.map (freedRow uuid newId start), rfl, ?_, ?_, ?_⟩
  · rw [keys]
    exact nodup_concerts iterated
  · intro concert
    rw [keys]
    exact mem_concerts_iff iterated
  · intro row member
    obtain ⟨group, inGroups, rfl⟩ := List.mem_map.mp member
    exact announces_freedRow constrained.seatIds (iterated.mem_iff.mp inGroups)

theorem emitFreed_of_fresh (injective : Function.Injective newId)
    (known : ∀ group ∈ groups, group.1 ∈ db.events.map EventRow.id)
    (nonempty : ∀ group ∈ groups, group.2 ≠ [])
    (concerts : (groups.map Prod.fst).Nodup)
    (fresh : ∀ group ∈ groups, newId group.1 ∉ db.outbox.map Outbox.Row.id) :
    ∃ next, emitFreed uuid newId start groups db = .ok next := by
  induction groups generalizing db with
  | nil => exact ⟨db, rfl⟩
  | cons group rest ih =>
      obtain ⟨event, seatIds⟩ := group
      obtain ⟨others, restDistinct⟩ := List.nodup_cons.mp concerts
      have listed : seatIds.map uuid.string ≠ [] := by
        intro empty
        exact nonempty (event, seatIds) List.mem_cons_self
          (List.map_eq_nil_iff.mp empty)
      have emitted :
          emitSeatEvent uuid db (uuid.string event)
              (seatIds.map uuid.string) .available (newId event) start =
            .ok
              { db with
                outbox :=
                  db.outbox ++ [freedRow uuid newId start (event, seatIds)] } :=
        (emitSeatEvent_eq_ok_iff listed).mpr
          ⟨event, uuid.column_string event,
            known (event, seatIds) List.mem_cons_self,
            fresh (event, seatIds) List.mem_cons_self, rfl⟩
      rw [emitFreed, emitted]
      apply ih
      · intro other member
        exact known other (List.mem_cons_of_mem _ member)
      · intro other member
        exact nonempty other (List.mem_cons_of_mem _ member)
      · exact restDistinct
      · intro other member
        rw [List.map_append, List.mem_append]
        rintro (old | new)
        · exact fresh other (List.mem_cons_of_mem _ member) old
        · have same : newId other.1 = newId event := List.mem_singleton.mp new
          have again : other.1 ∈ rest.map Prod.fst := List.mem_map_of_mem member
          rw [injective same] at again
          exact others again

section Sweep

variable {outcome : Outcome} {broken : Status}
  {iteration : List (UUID × List UUID) → List (UUID × List UUID)}

theorem frees_nothing (alive : ∀ row ∈ db.seats, dead keyExists row = false) :
    Frees uuid db keyExists db := by
  refine ⟨rfl, ?_, [], by rw [List.append_nil], List.nodup_nil, ?_, ?_⟩
  · exact (updateWhere_of_none alive).symm
  · intro concert
    constructor
    · exact nofun
    · rintro ⟨seat, stored, _, isDead⟩
      rw [alive seat stored] at isDead
      cases isDead
  · exact nofun

theorem sweepExpiredHolds_of_dead
    (found : expiredIds keyExists (heldIds db) ≠ []) :
    sweepExpiredHolds uuid db keyExists iteration newId start outcome broken =
      attempt outcome db
        (emitFreed uuid newId start
          (iteration (byEvent (db.seats.filter (dead keyExists))))
          { db with
            seats :=
              updateWhere (dead keyExists) (unhold .available) db.seats })
        broken := by
  have positive : (expiredIds keyExists (heldIds db)).length ≠ 0 :=
    mt List.length_eq_zero_iff.mp found
  simp only [sweepExpiredHolds, if_neg positive, filter_expiredIds,
    updateWhere_expiredIds]

theorem sweepExpiredHolds_of_none
    (none : expiredIds keyExists (heldIds db) = []) :
    sweepExpiredHolds uuid db keyExists iteration newId start outcome broken =
      ⟨db, false, Option.none⟩ := by
  simp only [sweepExpiredHolds, none, List.length_nil, if_true]

theorem emitFreed_of_dead
    {groups : List (UUID × List UUID)} (constrained : Constrained db)
    (iterated : groups.Perm (byEvent (db.seats.filter (dead keyExists))))
    (injective : Function.Injective newId)
    (fresh : ∀ event, newId event ∉ db.outbox.map Outbox.Row.id) :
    ∃ next,
      emitFreed uuid newId start groups
          { db with
            seats :=
              updateWhere (dead keyExists) (unhold .available) db.seats } =
        .ok next := by
  apply emitFreed_of_fresh injective
  · intro group member
    obtain ⟨seat, stored, isConcert, _⟩ :=
      (mem_concerts_iff iterated).mp (List.mem_map_of_mem member)
    rw [← isConcert]
    exact constrained.references seat stored
  · intro group member
    exact byEvent_nonempty (iterated.mem_iff.mp member)
  · exact nodup_concerts iterated
  · intro group _
    exact fresh group.1

/-- A sweep that goes through frees exactly the dead holds, one that does not
changes nothing, and with fresh row IDs it goes through unless the connection
breaks. -/
theorem undisturbed_sweep_frees_the_dead_holds {swept : Attempt Db Status}
    (constrained : Constrained db)
    (outboxIds : (db.outbox.map Outbox.Row.id).Nodup)
    (iterated : ∀ groups, (iteration groups).Perm groups)
    (ran :
      sweepExpiredHolds uuid db keyExists iteration newId start outcome
          broken =
        swept) :
    (swept.committed = true ∨ swept.error = none →
      Frees uuid db keyExists swept.db) ∧
    (swept.committed = false → swept.db = db) ∧
    (outcome = .done → Function.Injective newId →
      (∀ event, newId event ∉ db.outbox.map Outbox.Row.id) →
        swept.error = none) := by
  subst ran
  by_cases none : expiredIds keyExists (heldIds db) = []
  · rw [sweepExpiredHolds_of_none none]
    exact ⟨fun _ => frees_nothing (no_dead_of_no_expired none), fun _ => rfl,
      fun _ _ _ => rfl⟩
  · rw [sweepExpiredHolds_of_dead none]
    have iteratedHere := iterated (byEvent (db.seats.filter (dead keyExists)))
    refine ⟨?_, fun uncommitted => (attempt_uncommitted uncommitted).1, ?_⟩
    · intro succeeded
      have committed := succeeded.elim id attempt_committed_of_silent
      exact frees_of_emitFreed constrained outboxIds iteratedHere
        (attempt_committed committed).2
    · intro isDone injective fresh
      obtain ⟨next, emitted⟩ :=
        emitFreed_of_dead constrained iteratedHere injective fresh
      rw [emitted, isDone]
      rfl

-- Two concerts.  Of the held seats, 2 and 6 have lost their keys, 3 still has
-- its key, and the check for 4 fails.
private def sweptSeat (id event : UUID) (status : SeatStatus) : SeatRow where
  id := id
  eventId := event
  label := seatStateName status.state
  status := status
  heldBy := if status = .held then some 9 else none

private def sweptConcerts : Db where
  events := [⟨1, "Concert", 0⟩, ⟨5, "Encore", 0⟩]
  seats :=
    [sweptSeat 2 1 .held, sweptSeat 3 1 .held, sweptSeat 4 1 .held,
      sweptSeat 6 5 .held, sweptSeat 7 5 .sold]
  outbox := []

private def keyOfSeat (id : UUID) : Option Bool :=
  if id = 4 then none else some (decide (id = 3))

theorem undisturbed_sweep_frees_two_of_four :
    Frees standardText sweptConcerts keyOfSeat
        (sweepExpiredHolds standardText sweptConcerts keyOfSeat List.reverse
          (· + 20) 0 .done (Status.wrapped "sweep")).db ∧
      (sweepExpiredHolds standardText sweptConcerts keyOfSeat List.reverse
          (· + 20) 0 .done (Status.wrapped "sweep")).db.seats.map
        SeatRow.status = [.available, .held, .held, .available, .sold] := by
  have constrained : Constrained sweptConcerts := by decide +kernel
  have outboxIds : (sweptConcerts.outbox.map Outbox.Row.id).Nodup :=
    List.nodup_nil
  obtain ⟨frees, _, succeeds⟩ :=
    undisturbed_sweep_frees_the_dead_holds constrained outboxIds
      (fun groups => List.reverse_perm groups)
      (@rfl _
        (sweepExpiredHolds standardText sweptConcerts keyOfSeat List.reverse
          (· + 20) 0 .done (Status.wrapped "sweep")))
  have injective : Function.Injective fun id : UUID => id + 20 := by
    intro left right same
    exact (BitVec.add_left_inj 20).mp same
  have silent := succeeds rfl injective (by simp [sweptConcerts])
  have freed := frees (Or.inr silent)
  refine ⟨freed, ?_⟩
  rw [freed.seats]
  decide +kernel

end Sweep

-- The service takes a sweep apart into steps.  When nothing else happens in
-- between, they come to the same database.
section Service

variable {state : State uuid} {fails : UUID → Bool}

/-- The answer of Redis now, unless the check fails. -/
def State.redisAnswer (state : State uuid) (fails : UUID → Bool) (id : UUID) :
    Option Bool :=
  if fails id then none
  else some (state.redis.has state.clock (holdKey (uuid.string id)))

def checkLabels (task : Nat) (fails : UUID → Bool) (left : List UUID) :
    List Label :=
  left.map fun id => .sweepCheck task (!fails id)

/-- The steps of a sweep that starts now. -/
def sweepLabels (state : State uuid) (fails : UUID → Bool)
    (newId : UUID → UUID) : List Label :=
  .sweepList ::
    (checkLabels state.tasks.next fails (heldIds state.db) ++
      .sweepOpen state.tasks.next ::
        if expiredIds (state.redisAnswer fails) (heldIds state.db) = [] then []
        else [.sweepCommit state.tasks.next newId])

theorem step_sweepCheck {task : Nat} {seat : UUID} {left expired : List UUID}
    (running : state.tasks.get task = some (.checking (seat :: left) expired)) :
    step state (.sweepCheck task (!fails seat)) =
      some
        (state.put task
          (.checking left
            (expired ++ expiredIds (state.redisAnswer fails) [seat]))) := by
  simp only [step, running, expiredIds, State.redisAnswer]
  cases failed : fails seat <;>
    cases found : state.redis.has state.clock (holdKey (uuid.string seat)) <;>
      simp [failed, found]

theorem run_checkLabels {task : Nat} {left expired : List UUID}
    (running : state.tasks.get task = some (.checking left expired)) :
    ∃ after : State uuid,
      after.db = state.db ∧ after.clock = state.clock ∧
        after.tasks.get task =
          some
            (.checking []
              (expired ++ expiredIds (state.redisAnswer fails) left)) ∧
        ∀ rest,
          run step state (checkLabels task fails left ++ rest) =
            run step after rest := by
  induction left generalizing state expired with
  | nil =>
      refine ⟨state, rfl, rfl, ?_, fun _ => rfl⟩
      rw [running]
      simp [expiredIds]
  | cons seat left ih =>
      obtain ⟨after, db, clock, checked, ran⟩ :=
        @ih
          (state.put task
            (.checking left
              (expired ++ expiredIds (state.redisAnswer fails) [seat])))
          _ (Registry.get_put_self running)
      refine ⟨after, db, clock, ?_, ?_⟩
      · rw [checked, List.append_assoc]
        exact congrArg (fun found => some (Task.checking [] (expired ++ found)))
          (List.filter_append [seat] left).symm
      · intro rest
        rw [← ran rest, checkLabels, List.map_cons, List.cons_append, run,
          step_sweepCheck running]
        rfl

theorem run_sweepTransaction {task : Nat} {expired : List UUID}
    (checked : state.tasks.get task = some (.checking [] expired))
    (found : expired ≠ []) :
    ∃ final,
      run step state [.sweepOpen task, .sweepCommit task newId] =
          some final ∧
        ∀ broken,
          final.db =
            (attempt .done state.db
              (sweepHolds uuid state.db expired newId state.clock)
              broken).db := by
  have positive : expired.length ≠ 0 := mt List.length_eq_zero_iff.mp found
  let opened := state.put task (.sweeping expired state.clock)
  have begun : step state (.sweepOpen task) = some opened := by
    simp only [step, checked, if_neg positive]
    rfl
  have sweeping :
      opened.tasks.get task = some (.sweeping expired state.clock) :=
    Registry.get_put_self checked
  have ended :
      ∃ final, step opened (.sweepCommit task newId) = some final ∧
        ∀ broken,
          final.db =
            (attempt .done state.db
              (sweepHolds uuid opened.db expired newId state.clock)
              broken).db := by
    simp only [step, sweeping]
    cases sweepHolds uuid opened.db expired newId state.clock with
    | error err => exact ⟨_, rfl, fun _ => rfl⟩
    | ok next => exact ⟨_, rfl, fun _ => rfl⟩
  obtain ⟨final, stepped, result⟩ := ended
  refine ⟨final, ?_, result⟩
  rw [run, begun, Option.bind_some, run, stepped]
  rfl

/-- The steps of an undisturbed sweep do what `sweepExpiredHolds` does. -/
theorem run_sweepLabels (broken : Status) :
    ∃ final,
      run step state (sweepLabels state fails newId) = some final ∧
        final.db =
          (sweepExpiredHolds uuid state.db (state.redisAnswer fails) id newId
            state.clock .done broken).db := by
  let listed := state.launch (.checking (heldIds state.db) [])
  let expired := expiredIds (state.redisAnswer fails) (heldIds state.db)
  have running :
      listed.tasks.get state.tasks.next =
        some (.checking (heldIds state.db) []) :=
    Registry.get_launch_self state.tasks _
  obtain ⟨after, db, clock, checked, ran⟩ :=
    @run_checkLabels _ listed fails _ _ _ running
  have asked :
      after.tasks.get state.tasks.next = some (.checking [] expired) :=
    checked
  have reached :
      run step state (sweepLabels state fails newId) =
        run step after
          (.sweepOpen state.tasks.next ::
            if expired = [] then []
            else [.sweepCommit state.tasks.next newId]) := ran _
  rw [reached]
  by_cases none : expired = []
  · have opened :
        step after (.sweepOpen state.tasks.next) =
          some (after.finish state.tasks.next) := by
      simp only [step, asked, none, List.length_nil, if_true]
    rw [sweepExpiredHolds_of_none none, if_pos none]
    refine ⟨after.finish state.tasks.next, ?_, db⟩
    rw [run, opened]
    rfl
  · obtain ⟨final, ranFinal, result⟩ :=
      @run_sweepTransaction _ newId after _ _ asked none
    rw [if_neg none]
    refine ⟨final, ranFinal, ?_⟩
    have positive : expired.length ≠ 0 := mt List.length_eq_zero_iff.mp none
    rw [result broken, db, clock, sweepExpiredHolds, if_neg positive]
    rfl

end Service

end TicketWave.Inventory
