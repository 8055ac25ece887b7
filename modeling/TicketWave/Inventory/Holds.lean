import TicketWave.Inventory.SeatSales

/-!
# Holds in Postgres and in Redis

`Mirrored` is kept by every step but a Redis command that destroys the live
key of a held seat, and `Ordered` excludes just these.
-/

namespace TicketWave.Inventory

open Library

variable {uuid : UuidText}

def Task.commands : Task uuid → List RedisCommand
  | .mirroring _ _ commands => commands
  | .opened _ _ _ => []
  | .checking _ _ => []
  | .sweeping _ _ => []

/-- The seats a sweep has found without a key. -/
def Task.expired : Task uuid → List UUID
  | .checking _ expired => expired
  | .sweeping expired _ => expired
  | .opened _ _ _ => []
  | .mirroring _ _ _ => []

/-- The task is a seat call. -/
def Task.isCall : Task uuid → Bool
  | .opened _ _ _ => true
  | .mirroring _ _ _ => true
  | .checking _ _ => false
  | .sweeping _ _ => false

def RedisCommand.key : RedisCommand → String
  | .set key _ _ => key
  | .del key => key

/-- The command sets the key for a whole hold, to a value that `speaks`
accepts. -/
def RedisCommand.mirrors (speaks : String → Bool) (key : String) :
    RedisCommand → Bool
  | .set name value ttl =>
      decide (name = key) && speaks value && decide (ttl = holdTTL)
  | .del _ => false

def State.pendingSet
    (state : State uuid) (speaks : String → Bool) (key : String) : Bool :=
  state.tasks.any fun task => task.commands.any (·.mirrors speaks key)

/-- Some sweep in progress will free the seat if it is held. -/
def State.suspects (state : State uuid) (seat : UUID) : Bool :=
  state.tasks.any fun task => decide (seat ∈ task.expired)

/-- The next Redis command of a call. -/
def State.command (state : State uuid) (id : Nat) : Option RedisCommand :=
  (state.tasks.get id).bind fun task => task.commands.head?

/-- The seat a sweep asks Redis for next. -/
def State.asked (state : State uuid) (id : Nat) : Option UUID :=
  match state.tasks.get id with
  | some (.checking (seat :: _) _) => some seat
  | _ => none

/-- The seats that the commit of a call reserves. -/
def State.reserves (state : State uuid) (id : Nat) (rowId : UUID) : List UUID :=
  match state.tasks.get id with
  | some (.opened .reserveSeats request start) =>
      match reserveSeats uuid state.db request.req rowId start with
      | .ok done => done.seats
      | .error _ => []
  | _ => []

/-- Every Redis command succeeds, and no call stops before it has run all of
its commands. -/
def Healthy (state : State uuid) : Label → Prop
  | .redis _ succeeds => succeeds = true
  | .sweepCheck _ succeeds => succeeds = true
  | .drop id => ∀ task ∈ state.tasks.get id, task.commands = []
  | _ => True

instance (state : State uuid) : DecidablePred (Healthy state)
  | .redis _ succeeds => inferInstanceAs (Decidable (succeeds = true))
  | .sweepCheck _ succeeds => inferInstanceAs (Decidable (succeeds = true))
  | .drop id =>
      inferInstanceAs
        (Decidable (∀ task ∈ state.tasks.get id, task.commands = []))
  | .tick _ | .createEvent _ _ _ | .beginCall _ _ | .commitCall _ _
  | .reply _ | .sweepList | .sweepOpen _ | .sweepCommit _ _ =>
      inferInstanceAs (Decidable True)

/-- The command leaves the live key of a held seat with the holder: it sets
the key for the holder, or such a `SET` is still to come. -/
def Keeps (speaks : UUID → String → Bool) (state : State uuid)
    (command : RedisCommand) : Prop :=
  ∀ row ∈ state.db.seats, ∀ order ∈ row.heldBy,
    holdKey (uuid.string row.id) = command.key →
      state.redis.has state.clock command.key = true →
        command.mirrors (speaks order) command.key = true ∨
          state.pendingSet (speaks order) command.key = true

instance
    (speaks : UUID → String → Bool) (state : State uuid)
    (command : RedisCommand) :
    Decidable (Keeps speaks state command) :=
  inferInstanceAs (Decidable (∀ row ∈ state.db.seats, _))

def Ordered (speaks : UUID → String → Bool) (state : State uuid) :
    Label → Prop
  | .redis id _ => ∀ command ∈ state.command id, Keeps speaks state command
  | _ => True

instance (speaks : UUID → String → Bool) (state : State uuid) :
    DecidablePred (Ordered speaks state)
  | .redis id _ =>
      inferInstanceAs
        (Decidable (∀ command ∈ state.command id, Keeps speaks state command))
  | .tick _ | .createEvent _ _ _ | .beginCall _ _ | .commitCall _ _
  | .drop _ | .reply _ | .sweepList | .sweepCheck _ _ | .sweepOpen _
  | .sweepCommit _ _ => inferInstanceAs (Decidable True)

/-- Any value will do: a sweep only asks whether the key exists. -/
def anyValue (_ : UUID) (_ : String) : Bool :=
  true

/-- The value names the order. -/
def namesOrder (uuid : UuidText) (order : UUID) (value : String) : Bool :=
  decide (uuid.column value = some order)

/-- No reservation commits for a seat that a sweep in progress has found
without a key, and no sweep misses the key of a held seat whose `SET` is still
to come. -/
def SweepApart (state : State uuid) : Label → Prop
  | .commitCall id rowId =>
      ∀ seat ∈ state.reserves id rowId, state.suspects seat = false
  | .sweepCheck id _ =>
      ∀ seat ∈ state.asked id, state.db.status seat = some .held →
        state.pendingSet (fun _ => true) (holdKey (uuid.string seat)) = true →
          state.redis.has state.clock (holdKey (uuid.string seat)) = true
  | _ => True

instance (state : State uuid) : DecidablePred (SweepApart state)
  | .commitCall id rowId =>
      inferInstanceAs (Decidable (∀ seat ∈ state.reserves id rowId, _))
  | .sweepCheck id _ => inferInstanceAs (Decidable (∀ seat ∈ state.asked id, _))
  | .tick _ | .createEvent _ _ _ | .beginCall _ _ | .redis _ _ | .reply _
  | .drop _ | .sweepList | .sweepOpen _ | .sweepCommit _ _ =>
      inferInstanceAs (Decidable True)

variable {key : String} {command : RedisCommand} {state next : State uuid}
  {time : Nat} {label : Label} {speaks : UUID → String → Bool}
  {seat order : UUID} {row : SeatRow}

theorem RedisCommand.eq_set_of_mirrors {speaks : String → Bool}
    (mirrors : command.mirrors speaks key = true) :
    ∃ value, command = .set key value holdTTL ∧ speaks value = true := by
  cases command with
  | set name value ttl =>
      simp only [RedisCommand.mirrors, Bool.and_eq_true,
        decide_eq_true_eq] at mirrors
      obtain ⟨⟨rfl, spoken⟩, rfl⟩ := mirrors
      exact ⟨value, rfl, spoken⟩
  | del name => cases mirrors

theorem RedisCommand.apply_of_ne (now : Nat) (redis : Redis)
    (different : key ≠ command.key) :
    command.apply now redis key = redis key := by
  cases command with
  | set name value ttl => exact Function.update_of_ne different _ redis
  | del name => exact Function.update_of_ne different _ redis

theorem Redis.deadline_le_of_absent {redis : Redis} {now : Nat}
    {entry : RedisEntry} (absent : redis.has now key = false)
    (stored : redis key = some entry) : entry.deadline ≤ now := by
  rw [Redis.has, stored] at absent
  exact Nat.le_of_not_lt (of_decide_eq_false absent)

inductive Covered
    (speaks : String → Bool) (state : State uuid) (key : String)
    (time : Nat) : Prop
  | pending (toCome : state.pendingSet speaks key = true)
  | keyed
      {entry : RedisEntry} (stored : state.redis key = some entry)
      (spoken : speaks entry.value = true)
      (lasts : time + holdTTL ≤ entry.deadline)
  | elapsed (passed : time + holdTTL ≤ state.clock)

theorem Covered.mono {speaks : String → Bool}
    (pending :
      state.pendingSet speaks key = true → next.pendingSet speaks key = true)
    (redis : next.redis key = state.redis key)
    (clock : state.clock ≤ next.clock)
    (covered : Covered speaks state key time) :
    Covered speaks next key time := by
  cases covered with
  | pending toCome => exact .pending (pending toCome)
  | keyed stored spoken lasts => exact .keyed (redis.trans stored) spoken lasts
  | elapsed passed => exact .elapsed (Nat.le_trans passed clock)

section Pending

variable {state : State uuid} {id : Nat} {old new : Task uuid}
  {speaks : String → Bool} {key : String}

private theorem pending_launch (toCome : state.pendingSet speaks key = true) :
    (state.launch new).pendingSet speaks key = true := by
  have split := Registry.any_launch state.tasks new fun task =>
    task.commands.any (·.mirrors speaks key)
  unfold State.pendingSet at toCome ⊢
  rw [State.launch, split, toCome, Bool.or_true]

private theorem pending_put (running : state.tasks.get id = some old)
    (idle : old.commands = []) (toCome : state.pendingSet speaks key = true) :
    (state.put id new).pendingSet speaks key = true := by
  apply Registry.any_put_of_any running _ toCome
  intro passed
  rw [idle] at passed
  cases passed

private theorem pending_finish (running : state.tasks.get id = some old)
    (idle : old.commands = []) (toCome : state.pendingSet speaks key = true) :
    (state.finish id).pendingSet speaks key = true := by
  apply Registry.any_finish_of_any running _ toCome
  rw [idle]
  rfl

end Pending

/-- A step that is no Redis command leaves Redis alone and keeps every `SET`
that is still to come. -/
theorem pending_of_transition (healthy : Healthy state label)
    (transition : Transition state label next)
    (noCommand : ∀ id succeeds, label ≠ .redis id succeeds) :
    next.redis = state.redis ∧ state.clock ≤ next.clock ∧
      ∀ speaks key, state.pendingSet speaks key = true →
        next.pendingSet speaks key = true := by
  cases transition with
  | tick milliseconds =>
      exact ⟨rfl, Nat.le_add_right _ _, fun _ _ toCome => toCome⟩
  | eventCreated _ _ => exact ⟨rfl, Nat.le_refl _, fun _ _ toCome => toCome⟩
  | eventRefused => exact ⟨rfl, Nat.le_refl _, fun _ _ toCome => toCome⟩
  | callRefused _ => exact ⟨rfl, Nat.le_refl _, fun _ _ toCome => toCome⟩
  | callBegun _ _ => exact ⟨rfl, Nat.le_refl _, fun _ _ => pending_launch⟩
  | sweepListed => exact ⟨rfl, Nat.le_refl _, fun _ _ => pending_launch⟩
  | callCommitted running _ =>
      exact ⟨rfl, Nat.le_refl _, fun _ _ => pending_put running rfl⟩
  | callFailed running _ =>
      exact ⟨rfl, Nat.le_refl _, fun _ _ => pending_finish running rfl⟩
  | @redis id succeeds _ _ _ _ _ => exact absurd rfl (noCommand id succeeds)
  | replied running =>
      exact ⟨rfl, Nat.le_refl _, fun _ _ => pending_finish running rfl⟩
  | dropped running =>
      have idle := healthy _ running
      exact ⟨rfl, Nat.le_refl _, fun _ _ => pending_finish running idle⟩
  | seatExpired running _ =>
      exact ⟨rfl, Nat.le_refl _, fun _ _ => pending_put running rfl⟩
  | seatKept running =>
      exact ⟨rfl, Nat.le_refl _, fun _ _ => pending_put running rfl⟩
  | sweepSkipped running =>
      exact ⟨rfl, Nat.le_refl _, fun _ _ => pending_finish running rfl⟩
  | sweepOpened running =>
      exact ⟨rfl, Nat.le_refl _, fun _ _ => pending_put running rfl⟩
  | sweepCommitted running _ =>
      exact ⟨rfl, Nat.le_refl _, fun _ _ => pending_finish running rfl⟩
  | sweepFailed running =>
      exact ⟨rfl, Nat.le_refl _, fun _ _ => pending_finish running rfl⟩

theorem covered_of_command {id : Nat} {method : Method}
    {request : Accepted uuid} {rest : List RedisCommand}
    (running :
      state.tasks.get id = some (.mirroring method request (command :: rest)))
    (keeps : Keeps speaks state command) (found : state.db.seat seat = some row)
    (holds : row.heldBy = some order) (past : time ≤ state.clock)
    (covered : Covered (speaks order) state (holdKey (uuid.string seat)) time) :
    Covered (speaks order)
      { state.put id (.mirroring method request rest) with
        redis := command.apply state.clock state.redis }
      (holdKey (uuid.string seat)) time := by
  by_cases mirrors :
      command.mirrors (speaks order) (holdKey (uuid.string seat)) = true
  · obtain ⟨value, rfl, spoken⟩ := RedisCommand.eq_set_of_mirrors mirrors
    have lasts : time + holdTTL ≤ state.clock + holdTTL :=
      Nat.add_le_add_right past holdTTL
    have written :
        RedisCommand.apply state.clock state.redis
            (.set (holdKey (uuid.string seat)) value holdTTL)
            (holdKey (uuid.string seat)) =
          some ⟨value, state.clock + holdTTL⟩ := by
      rw [RedisCommand.apply, Function.update_self]
    exact .keyed written spoken lasts
  · -- the command is not the awaited one, so a pending `SET` stays pending
    have stays :
        state.pendingSet (speaks order) (holdKey (uuid.string seat)) = true →
          (state.put id (.mirroring method request rest)).pendingSet
            (speaks order) (holdKey (uuid.string seat)) = true := by
      intro toCome
      apply Registry.any_put_of_any running _ toCome
      intro passed
      rw [Task.commands, List.any_cons, Bool.or_eq_true] at passed
      exact passed.resolve_left mirrors
    by_cases same : holdKey (uuid.string seat) = command.key
    · have rowId : row.id = seat := key_of_lookup found
      have stored : row ∈ state.db.seats := mem_of_lookup found
      cases live : state.redis.has state.clock command.key with
      | true =>
          have kept := keeps row stored order holds (rowId ▸ same) live
          rw [← same] at kept
          exact .pending (stays (kept.resolve_left mirrors))
      | false =>
          cases covered with
          | pending toCome => exact .pending (stays toCome)
          | keyed key _ lasts =>
              have ended := Redis.deadline_le_of_absent live (same ▸ key)
              exact .elapsed (Nat.le_trans lasts ended)
          | elapsed passed => exact .elapsed passed
    · exact
        covered.mono stays (command.apply_of_ne state.clock state.redis same)
          (Nat.le_refl state.clock)

theorem covered_of_transition (healthy : Healthy state label)
    (ordered : Ordered speaks state label)
    (transition : Transition state label next)
    (found : state.db.seat seat = some row) (holds : row.heldBy = some order)
    (past : time ≤ state.clock)
    (covered : Covered (speaks order) state (holdKey (uuid.string seat)) time) :
    Covered (speaks order) next (holdKey (uuid.string seat)) time := by
  by_cases isCommand : ∃ id succeeds, label = .redis id succeeds
  · obtain ⟨id, succeeds, rfl⟩ := isCommand
    cases transition with
    | @redis _ _ method request command rest running =>
        have success : succeeds = true := healthy
        have next : command ∈ state.command id := by
          rw [State.command, running]
          exact rfl
        rw [if_pos success]
        exact covered_of_command running (ordered command next) found holds past
          covered
  · have noCommand : ∀ id succeeds, label ≠ .redis id succeeds := by
      intro id succeeds equal
      exact isCommand ⟨id, succeeds, equal⟩
    obtain ⟨redis, clock, pending⟩ :=
      pending_of_transition healthy transition noCommand
    exact covered.mono (pending _ _) (congrFun redis _) clock

/-- The label commits the reservation that gives the seat to the order. -/
inductive Reserving (state : State uuid) (seat : UUID) :
    Label → State uuid → UUID → Prop
  | commit
      {id : Nat} {rowId : UUID} {request : Accepted uuid} {start : Nat}
      {done : Committed}
      (running :
        state.tasks.get id = some (.opened .reserveSeats request start))
      (committed :
        transact uuid .reserveSeats state.db request.req rowId start = .ok done)
      (member : seat ∈ done.seats) :
      Reserving state seat (.commitCall id rowId)
        { state.put id (.mirroring .reserveSeats request done.commands) with
          db := done.db
          history :=
            .call id .reserveSeats done.order done.seats state.clock ::
              state.history }
        done.order

theorem lastReservation_of_untouched {method : Method} {seats : List UUID}
    (untouched : seat ∉ seats) (task : Nat) (order : UUID) (time : Nat)
    (history : List Commit) :
    lastReservation (.call task method order seats time :: history) seat =
      lastReservation history seat := by
  cases method with
  | reserveSeats => rw [lastReservation, if_neg untouched]
  | confirmSeats => rfl
  | releaseSeats => rfl

/-- A hold found after a step was there before, or the step is the commit of
its reservation. -/
theorem hold_of_transition (wellFormed : WellFormed state.db)
    (transition : Transition state label next)
    (found : next.db.seat seat = some row) (holds : row.heldBy = some order) :
    state.db.seat seat = some row ∧
        lastReservation next.history seat = lastReservation state.history seat ∨
      Reserving state seat label next order := by
  cases transition with
  | eventCreated _ committed =>
      rcases createEvent_seat committed seat with
        kept | ⟨_, new, newFound, _, free⟩
      · exact Or.inl ⟨kept ▸ found, rfl⟩
      · rw [newFound] at found
        cases found
        rw [free] at holds
        cases holds
  | @callCommitted id rowId method request start done running committed =>
      rcases
          holder_of_transact wellFormed request.valid committed found
            holds with
        ⟨member, rfl, rfl⟩ | ⟨untouched, oldFound⟩
      · exact Or.inr (.commit running committed member)
      · exact Or.inl ⟨oldFound, lastReservation_of_untouched untouched _ _ _ _⟩
  | sweepCommitted _ committed =>
      rw [(sweepHolds_ok wellFormed committed).seat] at found
      obtain ⟨old, oldFound, shape⟩ := Option.map_eq_some_iff.mp found
      split at shape
      · rw [← shape] at holds
        cases holds
      · exact Or.inl ⟨shape ▸ oldFound, rfl⟩
  | _ => exact Or.inl ⟨found, rfl⟩

theorem Reserving.reservation
    (reserving : Reserving state seat label next order) :
    lastReservation next.history seat = some (order, state.clock) ∧
      next.clock = state.clock := by
  cases reserving with
  | commit _ _ member => exact ⟨by rw [lastReservation, if_pos member], rfl⟩

theorem Reserving.pending {speaks : String → Bool}
    (wellFormed : WellFormed state.db)
    (spoken : ∀ value, uuid.column value = some order → speaks value = true)
    (reserving : Reserving state seat label next order) :
    next.pendingSet speaks (holdKey (uuid.string seat)) = true := by
  cases reserving with
  | @commit id rowId request start done running committed member =>
      obtain ⟨moved, commands⟩ := transact_ok wellFormed request.valid committed
      have toCome :
          RedisCommand.set (holdKey (uuid.string seat)) request.req.orderId
            holdTTL ∈ done.commands :=
        commands.mem_iff.mpr (List.mem_map.mpr ⟨seat, member, rfl⟩)
      apply Registry.any_put_of_test running
      apply List.any_eq_true.mpr
      refine ⟨_, toCome, ?_⟩
      simp [RedisCommand.mirrors, spoken _ moved.order]

structure Mirrored
    (speaks : UUID → String → Bool) (state : State uuid) : Prop where
  sales : Sales state
  covered :
    ∀ {seat row order time}, state.db.seat seat = some row →
      row.heldBy = some order →
        lastReservation state.history seat = some (order, time) →
          time ≤ state.clock ∧
            Covered (speaks order) state (holdKey (uuid.string seat)) time

theorem mirrored_empty (speaks : UUID → String → Bool) :
    Mirrored speaks (State.empty uuid) where
  sales := sales_empty
  covered := nofun

theorem clock_of_transition (transition : Transition state label next) :
    state.clock ≤ next.clock := by
  cases transition with
  | tick milliseconds => exact Nat.le_add_right _ _
  | _ => exact Nat.le_refl _

theorem mirrored_of_transition
    (spoken :
      ∀ order value, uuid.column value = some order → speaks order value = true)
    (mirrored : Mirrored speaks state) (healthy : Healthy state label)
    (ordered : Ordered speaks state label)
    (transition : Transition state label next) : Mirrored speaks next where
  sales := sales_of_effect mirrored.sales transition.effect
  covered := by
    intro seat row order time found holds reserved
    have wellFormed := mirrored.sales.wellFormed
    rcases hold_of_transition wellFormed transition found holds with
      ⟨oldFound, sameHold⟩ | reserving
    · rw [sameHold] at reserved
      obtain ⟨past, covered⟩ := mirrored.covered oldFound holds reserved
      refine ⟨Nat.le_trans past (clock_of_transition transition), ?_⟩
      exact covered_of_transition healthy ordered transition oldFound holds past
        covered
    · obtain ⟨reservation, clock⟩ := reserving.reservation
      rw [reservation] at reserved
      cases reserved
      refine ⟨Nat.le_of_eq clock.symm, ?_⟩
      exact .pending (reserving.pending wellFormed (spoken order))

/-- Whatever the `UPDATE` of a sweep would free now has been held for
`holdTTL`. -/
def SweepsOnlyExpired (state : State uuid) : Prop :=
  ∀ task newId next, step state (.sweepCommit task newId) = some next →
    ∀ seat row order, state.db.seat seat = some row →
      row.heldBy = some order → next.db.status seat = some .available →
        ∃ time, lastReservation state.history seat = some (order, time) ∧
          time + holdTTL ≤ state.clock

def SweepSafe (state : State uuid) (label : Label) : Prop :=
  Healthy state label ∧ Ordered anyValue state label ∧ SweepApart state label

instance (state : State uuid) (label : Label) :
    Decidable (SweepSafe state label) :=
  inferInstanceAs (Decidable (_ ∧ _ ∧ _))

/-- Every hold that a sweep in progress would end is over. -/
structure Doomed (state : State uuid) : Prop where
  mirrored : Mirrored anyValue state
  elapsed :
    ∀ {seat row order time}, state.suspects seat = true →
      state.db.seat seat = some row → row.heldBy = some order →
        lastReservation state.history seat = some (order, time) →
          time + holdTTL ≤ state.clock

theorem doomed_empty : Doomed (State.empty uuid) where
  mirrored := mirrored_empty anyValue
  elapsed := nofun

section Suspects

variable {state : State uuid} {id : Nat} {old new : Task uuid} {seat : UUID}

-- a task put in place of a running one may list what that one listed
private theorem suspects_of_put (running : state.tasks.get id = some old)
    (listed : seat ∈ new.expired → seat ∈ old.expired)
    (suspected : (state.put id new).suspects seat = true) :
    state.suspects seat = true := by
  rcases Registry.any_of_any_put suspected with inNew | before
  · apply Registry.any_eq_true_iff.mpr
    have inOld := listed (of_decide_eq_true inNew)
    exact ⟨id, old, running, decide_eq_true inOld⟩
  · exact before

private theorem suspects_of_launch (nothing : new.expired = [])
    (suspected : (state.launch new).suspects seat = true) :
    state.suspects seat = true := by
  have split := Registry.any_launch state.tasks new fun task =>
    decide (seat ∈ task.expired)
  rw [State.suspects, State.launch, split, nothing] at suspected
  exact suspected

end Suspects

/-- A seat comes under suspicion only by an `EXISTS` that found no key. -/
theorem suspects_of_transition (transition : Transition state label next)
    (suspected : next.suspects seat = true) :
    state.suspects seat = true ∨
      ∃ id, label = .sweepCheck id true ∧ seat ∈ state.asked id ∧
        state.redis.has state.clock (holdKey (uuid.string seat)) = false := by
  cases transition with
  | callBegun _ _ => exact Or.inl (suspects_of_launch rfl suspected)
  | sweepListed => exact Or.inl (suspects_of_launch rfl suspected)
  | callCommitted running _ =>
      left
      exact suspects_of_put running (by simp [Task.expired]) suspected
  | redis running =>
      left
      exact suspects_of_put running (by simp [Task.expired]) suspected
  | seatKept running =>
      left
      exact suspects_of_put running (by simp [Task.expired]) suspected
  | sweepOpened running =>
      left
      exact suspects_of_put running (by simp [Task.expired]) suspected
  | @seatExpired id asked left expired running gone =>
      by_cases same : seat = asked
      · subst same
        refine Or.inr ⟨id, rfl, ?_, gone⟩
        rw [State.asked, running]
        exact rfl
      · refine Or.inl (suspects_of_put running ?_ suspected)
        intro listed
        rcases List.mem_append.mp listed with before | last
        · exact before
        · exact absurd (List.mem_singleton.mp last) same
  | callFailed _ _ => exact Or.inl (Registry.any_of_any_finish suspected)
  | replied _ => exact Or.inl (Registry.any_of_any_finish suspected)
  | dropped _ => exact Or.inl (Registry.any_of_any_finish suspected)
  | sweepSkipped _ => exact Or.inl (Registry.any_of_any_finish suspected)
  | sweepCommitted _ _ => exact Or.inl (Registry.any_of_any_finish suspected)
  | sweepFailed _ => exact Or.inl (Registry.any_of_any_finish suspected)
  | _ => exact Or.inl suspected

theorem doomed_of_transition (doomed : Doomed state)
    (safe : SweepSafe state label) (transition : Transition state label next) :
    Doomed next where
  mirrored :=
    mirrored_of_transition (fun _ _ _ => rfl) doomed.mirrored safe.1
      safe.2.1 transition
  elapsed := by
    intro seat row order time suspected found holds reserved
    have wellFormed := doomed.mirrored.sales.wellFormed
    have apart := safe.2.2
    have origin := suspects_of_transition transition suspected
    rcases hold_of_transition wellFormed transition found holds with
      ⟨oldFound, sameHold⟩ | reserving
    · rw [sameHold] at reserved
      have later := clock_of_transition transition
      rcases origin with before | ⟨id, rfl, asked, gone⟩
      · exact Nat.le_trans (doomed.elapsed before oldFound holds reserved) later
      · have held := status_of_holder wellFormed oldFound holds
        refine Nat.le_trans ?_ later
        cases (doomed.mirrored.covered oldFound holds reserved).2 with
        | pending toCome =>
            have present := apart seat asked held toCome
            rw [gone] at present
            cases present
        | keyed stored _ lasts =>
            exact Nat.le_trans lasts (Redis.deadline_le_of_absent gone stored)
        | elapsed passed => exact passed
    · cases reserving with
      | @commit id rowId request start done running committed member =>
          have reserves : seat ∈ state.reserves id rowId := by
            have same :
                reserveSeats uuid state.db request.req rowId start = .ok done :=
              committed
            rw [State.reserves, running]
            simp only [same]
            exact member
          have clear := apart seat reserves
          rcases origin with before | ⟨_, equal, _⟩
          · rw [clear] at before
            cases before
          · cases equal

/-- In a run whose steps are all `SweepSafe`, a sweep frees no hold before
its time. -/
theorem sweep_frees_only_expired_holds
    {labels : List Label} {state : State uuid}
    (safe : EveryStep step SweepSafe (State.empty uuid) labels)
    (ran : run step (State.empty uuid) labels = some state) :
    SweepsOnlyExpired state := by
  have doomed : Doomed state :=
    invariant_of_restricted_run
      (fun kept allowed stepped =>
        doomed_of_transition kept allowed (transition_of_step stepped))
      doomed_empty safe ran
  have sales := doomed.mirrored.sales
  intro task newId next stepped seat row order found holds freed
  obtain ⟨time, reserved⟩ := sales.holder found holds
  refine ⟨time, reserved, ?_⟩
  have held := status_of_holder sales.wellFormed found holds
  cases transition_of_step stepped with
  | @sweepCommitted _ _ expired start db running committed =>
      have status :=
        (sweepHolds_ok sales.wellFormed committed).status sales.wellFormed
          seat
      have listed : seat ∈ freedIds state.db expired := by
        by_contra other
        rw [if_neg other, held] at status
        have after : db.status seat = some .available := freed
        rw [after] at status
        cases status
      have suspected : state.suspects seat = true := by
        apply Registry.any_eq_true_iff.mpr
        refine ⟨task, _, running, ?_⟩
        have member := ((mem_freedIds_iff sales.wellFormed).mp listed).1
        exact decide_eq_true member
      exact doomed.elapsed suspected found holds reserved
  | sweepFailed running =>
      have same : state.db.status seat = some .available := freed
      rw [held] at same
      cases same

-- The sweeper frees a hold that has run out.
private def expiryLabels : List Label :=
  [.createEvent ⟨"Concert", 2⟩ 1 [2, 3],
    .beginCall .reserveSeats (seatRequest 9 [2]), .commitCall 0 10,
    .redis 0 true, .reply 0, .tick holdTTL,
    .sweepList, .sweepCheck 1 true, .sweepOpen 1]

theorem sweep_frees_only_expired_holds_after_expiry :
    EveryStep step SweepSafe (State.empty standardText) expiryLabels ∧
      ∃ state next : State standardText,
        run step (State.empty standardText) expiryLabels = some state ∧
          step state (.sweepCommit 1 fun _ => 11) = some next ∧
          next.db.status 2 = some .available ∧
          ∃ time, lastReservation state.history 2 = some (9, time) ∧
            time + holdTTL ≤ state.clock := by
  have safe :
      EveryStep step SweepSafe (State.empty standardText) expiryLabels := by
    decide +kernel
  have ends :
      (run step (State.empty standardText) expiryLabels).any
          (fun state =>
            decide ((state.db.seat 2).bind SeatRow.heldBy = some 9) &&
              (step state (.sweepCommit 1 fun _ => 11)).any fun next =>
                decide (next.db.status 2 = some .available)) = true := by
    decide +kernel
  obtain ⟨state, ran, checked⟩ := (Option.any_eq_true _ _).mp ends
  obtain ⟨holder, swept⟩ := Bool.and_eq_true_iff.mp checked
  obtain ⟨next, stepped, freed⟩ := (Option.any_eq_true _ _).mp swept
  obtain ⟨row, found, holds⟩ :=
    Option.bind_eq_some_iff.mp (of_decide_eq_true holder)
  have available := of_decide_eq_true freed
  refine ⟨safe, state, next, ran, stepped, available, ?_⟩
  exact sweep_frees_only_expired_holds safe ran 1 _ next stepped 2 row 9 found
    holds available

-- A sweep between the commit of a reservation and its `SET` ends the hold at
-- once.
private def earlySweepLabels : List Label :=
  [.createEvent ⟨"Concert", 2⟩ 1 [2, 3],
    .beginCall .reserveSeats (seatRequest 9 [2]), .commitCall 0 10,
    .sweepList, .sweepCheck 1 true, .sweepOpen 1]

theorem sweep_frees_a_fresh_hold :
    EveryStep step Healthy (State.empty standardText) earlySweepLabels ∧
      ∃ state : State standardText,
        run step (State.empty standardText) earlySweepLabels = some state ∧
          ¬ SweepsOnlyExpired state := by
  refine ⟨by decide +kernel, ?_⟩
  have ends :
      (run step (State.empty standardText) earlySweepLabels).any
          (fun state =>
            decide
              ((state.db.seat 2).bind SeatRow.heldBy = some 9 ∧
                lastReservation state.history 2 = some (9, 0) ∧
                state.clock = 0) &&
              (step state (.sweepCommit 1 fun _ => 11)).any fun next =>
                decide (next.db.status 2 = some .available)) = true := by
    decide +kernel
  obtain ⟨state, ran, checked⟩ := (Option.any_eq_true _ _).mp ends
  obtain ⟨facts, swept⟩ := Bool.and_eq_true_iff.mp checked
  obtain ⟨next, stepped, freed⟩ := (Option.any_eq_true _ _).mp swept
  obtain ⟨holder, reserved, clock⟩ := of_decide_eq_true facts
  obtain ⟨row, found, holds⟩ := Option.bind_eq_some_iff.mp holder
  refine ⟨state, ran, ?_⟩
  intro onlyExpired
  obtain ⟨time, reservation, expired⟩ :=
    onlyExpired 1 _ next stepped 2 row 9 found holds
      (of_decide_eq_true freed)
  rw [reserved] at reservation
  cases reservation
  rw [clock] at expired
  exact absurd expired (by decide)

/-- With no call in progress, every hold whose time is not over has its key in
Redis, and the value of the key names the holder. -/
def LiveHoldsKeyed (state : State uuid) : Prop :=
  state.tasks.any Task.isCall = false →
    ∀ seat row order time, state.db.seat seat = some row →
      row.heldBy = some order →
        lastReservation state.history seat = some (order, time) →
          state.clock < time + holdTTL →
            ∃ entry, state.redis (holdKey (uuid.string seat)) = some entry ∧
              state.clock < entry.deadline ∧
              uuid.column entry.value = some order

def KeySafe (state : State uuid) (label : Label) : Prop :=
  Healthy state label ∧ Ordered (namesOrder uuid) state label

instance (state : State uuid) (label : Label) :
    Decidable (KeySafe state label) :=
  inferInstanceAs (Decidable (_ ∧ _))

theorem isCall_of_pendingSet {speaks : String → Bool}
    (toCome : state.pendingSet speaks key = true) :
    state.tasks.any Task.isCall = true := by
  obtain ⟨id, task, running, pending⟩ := Registry.any_eq_true_iff.mp toCome
  apply Registry.any_eq_true_iff.mpr
  refine ⟨id, task, running, ?_⟩
  cases task with
  | mirroring method request commands => rfl
  | opened method request start => rfl
  | checking left expired => cases pending
  | sweeping expired start => cases pending

/-- In a run whose steps are all `KeySafe`, the two stores agree on the live
holds whenever no call is in progress. -/
theorem live_holds_are_keyed {labels : List Label} {state : State uuid}
    (safe : EveryStep step KeySafe (State.empty uuid) labels)
    (ran : run step (State.empty uuid) labels = some state) :
    LiveHoldsKeyed state := by
  have spoken :
      ∀ order value, uuid.column value = some order →
        namesOrder uuid order value = true := by
    intro order value read
    exact decide_eq_true read
  have mirrored : Mirrored (namesOrder uuid) state :=
    invariant_of_restricted_run
      (fun kept allowed stepped =>
        mirrored_of_transition spoken kept allowed.1 allowed.2
          (transition_of_step stepped))
      (mirrored_empty (namesOrder uuid)) safe ran
  intro quiet seat row order time found holds reserved live
  cases (mirrored.covered found holds reserved).2 with
  | pending toCome =>
      rw [isCall_of_pendingSet toCome] at quiet
      cases quiet
  | @keyed entry stored names lasts =>
      exact ⟨entry, stored, by omega, of_decide_eq_true names⟩
  | elapsed passed => omega

-- Order 9 releases seat 2 and order 8 reserves it, with the `DEL` of the
-- release before the `SET` of the reservation.
private def handoverLabels : List Label :=
  [.createEvent ⟨"Concert", 2⟩ 1 [2, 3],
    .beginCall .reserveSeats (seatRequest 9 [2]), .commitCall 0 10,
    .redis 0 true, .reply 0,
    .beginCall .releaseSeats (seatRequest 9 [2]), .commitCall 1 11,
    .beginCall .reserveSeats (seatRequest 8 [2]), .commitCall 2 12,
    .redis 1 true, .redis 2 true, .reply 1, .reply 2]

theorem live_holds_are_keyed_after_a_handover :
    EveryStep step KeySafe (State.empty standardText) handoverLabels ∧
      ∃ state : State standardText,
        run step (State.empty standardText) handoverLabels = some state ∧
          ∃ entry,
            state.redis (holdKey (standardText.string 2)) = some entry ∧
              state.clock < entry.deadline ∧
              standardText.column entry.value = some 8 := by
  have safe :
      EveryStep step KeySafe (State.empty standardText) handoverLabels := by
    decide +kernel
  have ends :
      (run step (State.empty standardText) handoverLabels).any
          (fun state =>
            decide
              (state.tasks.any Task.isCall = false ∧
                (state.db.seat 2).bind SeatRow.heldBy = some 8 ∧
                lastReservation state.history 2 = some (8, 0) ∧
                state.clock < holdTTL)) = true := by
    decide +kernel
  obtain ⟨state, ran, checked⟩ := (Option.any_eq_true _ _).mp ends
  obtain ⟨quiet, holder, reserved, live⟩ := of_decide_eq_true checked
  obtain ⟨row, found, holds⟩ := Option.bind_eq_some_iff.mp holder
  refine ⟨safe, state, ran, ?_⟩
  exact live_holds_are_keyed safe ran quiet 2 row 8 0 found holds reserved
    (by omega)

-- The same calls, with the `DEL` of the release after the `SET` of the
-- reservation.
private def lateDeleteLabels : List Label :=
  [.createEvent ⟨"Concert", 2⟩ 1 [2, 3],
    .beginCall .reserveSeats (seatRequest 9 [2]), .commitCall 0 10,
    .redis 0 true, .reply 0,
    .beginCall .releaseSeats (seatRequest 9 [2]), .commitCall 1 11,
    .beginCall .reserveSeats (seatRequest 8 [2]), .commitCall 2 12,
    .redis 2 true, .reply 2, .redis 1 true, .reply 1]

theorem late_delete_removes_a_live_key :
    EveryStep step Healthy (State.empty standardText) lateDeleteLabels ∧
      ∃ state : State standardText,
        run step (State.empty standardText) lateDeleteLabels = some state ∧
          ¬ LiveHoldsKeyed state := by
  refine ⟨by decide +kernel, ?_⟩
  have ends :
      (run step (State.empty standardText) lateDeleteLabels).any
          (fun state =>
            decide
              (state.tasks.any Task.isCall = false ∧
                (state.db.seat 2).bind SeatRow.heldBy = some 8 ∧
                lastReservation state.history 2 = some (8, 0) ∧
                state.clock < holdTTL ∧
                state.redis (holdKey (standardText.string 2)) = none)) =
        true := by
    decide +kernel
  obtain ⟨state, ran, checked⟩ := (Option.any_eq_true _ _).mp ends
  obtain ⟨quiet, holder, reserved, live, absent⟩ := of_decide_eq_true checked
  obtain ⟨row, found, holds⟩ := Option.bind_eq_some_iff.mp holder
  refine ⟨state, ran, ?_⟩
  intro keyed
  obtain ⟨entry, stored, _⟩ :=
    keyed quiet 2 row 8 0 found holds reserved (by omega)
  rw [absent] at stored
  cases stored

end TicketWave.Inventory
