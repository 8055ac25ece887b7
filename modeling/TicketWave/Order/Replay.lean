import TicketWave.Library.Sorting
import TicketWave.Order.Ledger

/-!
# A retry is answered from the stored row

The failure reason comes back from its label; the spelling of the identifiers
does not come back.
-/

namespace TicketWave.Order

open Library

variable {uuid : UuidText}

/-- The event and all the seats are written in the canonical spelling. -/
def Spelled (uuid : UuidText) (req : CreateOrderRequest) : Prop :=
  uuid.Canonical req.eventId ∧ ∀ text ∈ req.seatIds, uuid.Canonical text

instance (uuid : UuidText) (req : CreateOrderRequest) :
    Decidable (Spelled uuid req) :=
  inferInstanceAs (Decidable (_ ∧ _))

variable {req : CreateOrderRequest} {row : OrderRow} {state next : State uuid}
  {label : Label}

theorem sameRequest_iff {stored : StoredOrder} :
    sameRequest stored req = true ↔
      stored.eventId = req.eventId ∧ stored.amountCents = req.amountCents ∧
        stored.seatIds.Perm req.seatIds := by
  unfold sameRequest
  split
  · rename_i differs
    constructor
    · exact nofun
    · rintro ⟨event, amount, _⟩
      rcases differs with eventDiffers | amountDiffers
      · exact absurd event eventDiffers
      · exact absurd amount amountDiffers
  · rename_i agrees
    rw [beq_iff_eq, insertionSort_eq_iff_perm]
    constructor
    · intro permutation
      have event := Decidable.not_not.mp fun differs => agrees (Or.inl differs)
      have amount := Decidable.not_not.mp fun differs => agrees (Or.inr differs)
      exact ⟨event, amount, permutation⟩
    · rintro ⟨_, _, permutation⟩
      exact permutation

/-- A list of texts survives the round trip exactly when every text is
canonical, even up to order. -/
theorem perm_columns_iff {texts : List String} {ids : List UUID}
    (read : uuid.columns texts = some ids) :
    (ids.map uuid.string).Perm texts ↔ ∀ text ∈ texts, uuid.Canonical text := by
  constructor
  · intro permutation text member
    obtain ⟨id, _, rfl⟩ := List.mem_map.mp (permutation.mem_iff.mpr member)
    exact uuid.canonical_string id
  · intro canonical
    rw [UuidText.map_string_of_canonical canonical read]

theorem sameRequest_scanOrder_iff (stores : Stores uuid req row) :
    sameRequest (scanOrder uuid row) req = true ↔ Spelled uuid req := by
  rw [sameRequest_iff, Spelled, UuidText.canonical_iff stores.eventId,
    ← perm_columns_iff stores.seats]
  constructor
  · rintro ⟨event, _, seats⟩
    exact ⟨event, seats⟩
  · rintro ⟨event, seats⟩
    exact ⟨event, stores.amount.symm, seats⟩

/-- What `replay` answers for a row that is the same request. -/
def recorded (uuid : UuidText) (row : OrderRow) :
    Except Status CreateOrderResponse :=
  match row.status with
  | .confirmed => .ok ⟨uuid.string row.id, .confirmed⟩
  | .failed => .error (failureFor row.failureReason)
  | .pending => .error errInProgress

theorem failureFor_ne_errKeyReused (reason : Option String) :
    failureFor reason ≠ errKeyReused := by
  unfold failureFor
  split
  · decide
  · split
    · decide
    · split <;> decide

theorem recorded_ne_errKeyReused (row : OrderRow) :
    recorded uuid row ≠ .error errKeyReused := by
  unfold recorded
  split
  · exact nofun
  · intro equal
    exact failureFor_ne_errKeyReused _ (Except.error.inj equal)
  · intro equal
    exact absurd (Except.error.inj equal) (by decide)

/-- What a repeated request is told about a row. -/
def replayed (uuid : UuidText) (row : OrderRow) (req : CreateOrderRequest) :
    Except Status CreateOrderResponse :=
  if sameRequest (scanOrder uuid row) req then recorded uuid row
  else .error errKeyReused

theorem replayed_eq_recorded_iff (stores : Stores uuid req row) :
    replayed uuid row req = recorded uuid row ↔ Spelled uuid req := by
  rw [← sameRequest_scanOrder_iff stores]
  unfold replayed
  by_cases same : sameRequest (scanOrder uuid row) req = true
  · simp [same]
  · simp [same, (recorded_ne_errKeyReused row).symm]

section Row

variable {db : Db} {req : CreateOrderRequest} {row : OrderRow}

theorem Stores.keyed
    (stores : Stores uuid req row) (keyed : req.idempotencyKey ≠ "") :
    row.idempotencyKey = some req.idempotencyKey := by
  rw [stores.key, nullIfEmpty, if_neg keyed]

/-- The look-up by user and key finds the row, there being only one. -/
theorem findByKey_of_row
    (consistent : Consistent uuid db) (member : row ∈ db.orders)
    (stores : Stores uuid req row) (keyed : req.idempotencyKey ≠ "") :
    findByKey uuid db req.userId req.idempotencyKey =
      some (scanOrder uuid row) := by
  have hasKey := stores.keyed keyed
  have found :
      db.orders.find? (fun other =>
        decide (other.userId = row.userId ∧
          other.idempotencyKey = some req.idempotencyKey)) = some row := by
    cases result : db.orders.find? (fun other =>
        decide (other.userId = row.userId ∧
          other.idempotencyKey = some req.idempotencyKey)) with
    | none =>
        have absent := List.find?_eq_none.mp result row member
        simp [hasKey] at absent
    | some other =>
        have stored := List.mem_of_find?_eq_some result
        have passed := List.find?_some result
        obtain ⟨user, key⟩ := of_decide_eq_true (by exact passed)
        have isSome : other.idempotencyKey.isSome := by
          rw [key]
          rfl
        rw [consistent.keys other stored row member user
          (key.trans hasKey.symm) isSome]
  unfold findByKey
  rw [stores.user]
  simp only [found, Option.map_some]

theorem replay_of_row
    (consistent : Consistent uuid db) (member : row ∈ db.orders)
    (stores : Stores uuid req row) (keyed : req.idempotencyKey ≠ "") :
    replay uuid db req = replayed uuid row req := by
  unfold replay replayed
  rw [findByKey_of_row consistent member stores keyed]
  by_cases same : sameRequest (scanOrder uuid row) req = true
  · simp only [same, Bool.not_true, if_true]
    rfl
  · simp only [same, Bool.not_false, if_true]
    rfl

theorem createOrder_of_row {again : Run uuid} (rowId : UUID) (now : Nat)
    (member : row ∈ db.orders) (stores : Stores uuid again.request.req row)
    (keyed : again.request.req.idempotencyKey ≠ "")
    (fresh : again.orderId ∉ db.orders.map OrderRow.id) :
    createOrder uuid db again.order again.request.req.idempotencyKey rowId
        now =
      .error ⟨some ⟨uniqueViolation, idempotencyIndex⟩, "insert order"⟩ := by
  have hasKey := stores.keyed keyed
  have isSome : row.idempotencyKey.isSome := by
    rw [hasKey]
    rfl
  have taken := keyTaken_of_row member isSome
  rw [stores.key] at taken
  have user : uuid.column again.order.userId = some row.userId := stores.user
  have event : uuid.column again.order.eventId = some row.eventId :=
    stores.eventId
  have seats : uuid.columns again.order.seatIds = some row.seatIds :=
    stores.seats
  have unused : again.order.id ∉ db.orders.map OrderRow.id := fresh
  unfold createOrder
  rw [user, event, seats]
  simp only [if_neg unused, taken, if_true]

end Row

/-- The error that follows `fail` is the one its reason stands for. -/
def Stage.Coherent : Stage → Prop
  | .failing reason answer => failureFor (some (reasonLabel reason)) = answer
  | _ => True

theorem Stage.coherent_afterReply {stage : Stage} (coherent : stage.Coherent)
    (reply : Option Status) : (stage.afterReply reply).Coherent := by
  cases stage with
  | reserving =>
      cases reply with
      | none => trivial
      | some err =>
          simp only [Stage.afterReply]
          split
          · rfl
          · trivial
  | abandoning => rfl
  | charging => cases reply <;> trivial
  | compensating refused => cases refused <;> rfl
  | confirming => cases reply <;> trivial
  | failing reason answer => exact coherent
  | _ => trivial

/-- A run that completed its transition has returned what its row says. -/
structure Answered (state : State uuid) : Prop where
  ledger : Ledger state
  coherent : ∀ {id run}, state.runs.get id = some run → run.stage.Coherent
  answered :
    ∀ {id run status}, state.runs.get id = some run →
      run.entry id (.moved status true) ∈ state.log →
        ∃ row ∈ state.db.orders, row.id = run.orderId ∧
          row.status ≠ .pending ∧ Stores uuid run.request.req row ∧
          run.stage = .returned (recorded uuid row)

theorem answered_empty : Answered (State.empty uuid) where
  ledger := ledger_empty
  coherent := nofun
  answered := nofun

theorem coherent_of_transition {id : Nat} {run : Run uuid}
    (coherent : ∀ {id run}, state.runs.get id = some run → run.stage.Coherent)
    (transition : Transition state label next)
    (found : next.runs.get id = some run) : run.stage.Coherent := by
  cases transition with
  | refused => exact coherent found
  | started =>
      rcases Registry.cases_of_get_launch found with ⟨_, rfl⟩ | stored
      · trivial
      · exact coherent stored
  | performed running done =>
      rcases Registry.cases_of_get_put found with ⟨_, rfl⟩ | ⟨_, stored⟩
      · cases effect_of_perform done with
        | inserted _ _ _ goes =>
            rcases goes with rfl | ⟨_, result, rfl⟩
            · trivial
            · trivial
        | moved => trivial
        | duplicate => trivial
        | nothing => trivial
      · exact coherent stored
  | invoked running =>
      rcases Registry.cases_of_get_put found with ⟨_, rfl⟩ | ⟨_, stored⟩
      · have before := coherent running
        exact before
      · exact coherent stored
  | answered running =>
      rcases Registry.cases_of_get_put found with ⟨_, rfl⟩ | ⟨_, stored⟩
      · exact Stage.coherent_afterReply (coherent running) _
      · exact coherent stored
  | crashed => exact coherent (Registry.get_of_get_finish found).2

theorem recorded_settle {run : Run uuid} {status : OrderStatus}
    {type : OrderEventType} {reason : OrderFailureReason}
    {result : Except Status CreateOrderResponse} (coherent : run.stage.Coherent)
    (same : row.id = run.orderId)
    (closes : Closes run status type reason true result) :
    result = recorded uuid (settle status type reason row) ∧
      status ≠ .pending := by
  cases closes with
  | confirmed stage answers =>
      rw [answers rfl, ← same]
      exact ⟨rfl, by decide⟩
  | @failed _ answer _ stage =>
      rw [stage] at coherent
      have stored : failureFor (some (reasonLabel reason)) = answer := coherent
      rw [← stored]
      exact ⟨rfl, by decide⟩

/-- A step that logs a completed transition is the last one of its run. -/
theorem closes_of_moved {entry : Entry} {status : OrderStatus}
    (transition : Transition state label next) (member : entry ∈ next.log)
    (notOld : entry ∉ state.log) (moved : entry.action = .moved status true) :
    ∃ run type reason result rowId now,
      state.runs.get entry.run = some run ∧
        next.runs.get entry.run = some (run.goto (.returned result)) ∧
        Closes run status type reason true result ∧
        Order.transition uuid state.db run.order status type reason rowId
          now = .ok next.db := by
  cases transition with
  | @performed id _ rowId now run performed running done =>
      cases effect_of_perform done with
      | inserted =>
          rcases List.mem_cons.mp member with rfl | old
          · cases moved
          · exact absurd old notOld
      | @moved _ _ type reason _ result rowId now closes committed =>
          rcases List.mem_cons.mp member with rfl | old
          · cases moved
            exact ⟨run, type, reason, result, rowId, now, running,
              Registry.get_put_self running, closes, committed⟩
          · exact absurd old notOld
      | duplicate => exact absurd member notOld
      | nothing => exact absurd member notOld
  | invoked =>
      rcases List.mem_cons.mp member with rfl | old
      · cases moved
      · exact absurd old notOld
  | answered =>
      rcases List.mem_cons.mp member with rfl | old
      · cases moved
      · exact absurd old notOld
  | _ => exact absurd member notOld

theorem answered_of_transition (answered : Answered state)
    (transition : Transition state label next) : Answered next := by
  refine ⟨ledger_of_transition answered.ledger transition,
    coherent_of_transition answered.coherent transition, ?_⟩
  intro id run status found member
  have books := answered.ledger.books
  by_cases old : run.entry id (.moved status true) ∈ state.log
  · -- the run had returned already, and its row is final
    have known : id < state.runs.next := answered.ledger.bounded _ old
    rcases earlier_of_transition transition found with
      ⟨isNew, _⟩ | ⟨earlier, stored, sameEntry⟩
    · omega
    · rw [← sameEntry] at old
      obtain ⟨row, rowStored, same, final, stores, returned⟩ :=
        answered.answered stored old
      have isEarlier : run = earlier :=
        returned_of_transition stored returned transition found
      have kept := final_of_transition books ⟨rowStored, final, rfl⟩ transition
      rw [isEarlier]
      exact ⟨row, kept.1, same, final, stores, returned⟩
  · -- the run has just completed its transition
    obtain ⟨earlier, type, reason, result, rowId, now, running, put, closes,
      committed⟩ := closes_of_moved transition member old rfl
    have isNext : run = earlier.goto (.returned result) := by
      have gotten : next.runs.get id = some (earlier.goto (.returned result)) :=
        put
      rw [found] at gotten
      exact Option.some.inj gotten
    have settled := transition_ok committed
    have isActive := closes.closing.2
    obtain ⟨row, rowStored, same, _, stores⟩ :=
      books.owned.active running isActive
    obtain ⟨answer, final⟩ :=
      recorded_settle (answered.coherent running) same closes
    rw [isNext]
    refine ⟨settle status type reason row, ?_, same, final, ?_, ?_⟩
    · exact settled.mem_orders.mpr ⟨row, rowStored, if_pos same⟩
    · exact
        ⟨stores.user, stores.eventId, stores.seats, stores.amount, stores.key⟩
    · exact congrArg Stage.returned answer

theorem answered_of_run {labels : List Label} {final : State uuid}
    (answered : Answered state) (ran : run step state labels = some final) :
    Answered final :=
  invariant_of_run
    (fun kept stepped =>
      answered_of_transition kept (transition_of_step stepped))
    answered ran

/-- The order ID of a run that has not inserted its row is unused. -/
def Run.drawsFresh (db : Db) (run : Run uuid) : Bool :=
  match run.stage with
  | .creating => decide (run.orderId ∉ db.orders.map OrderRow.id)
  | _ => true

/-- The database works for the run, and its order ID is new. -/
def HealthyFor (id : Nat) (state : State uuid) : Label → Prop
  | .database run outcome _ _ =>
      run = id → outcome = .done ∧
        ∀ value ∈ state.runs.get run, value.drawsFresh state.db = true
  | _ => True

instance (id : Nat) (state : State uuid) : DecidablePred (HealthyFor id state)
  | .database run outcome _ _ =>
      inferInstanceAs
        (Decidable
          (run = id → outcome = .done ∧
            ∀ value ∈ state.runs.get run, value.drawsFresh state.db = true))
  | .start _ _ | .invoke _ | .answer _ _ | .crash _ =>
      inferInstanceAs (Decidable True)

/-- A run with the request of a final row only ever answers from it. -/
structure Retrying
    (row : OrderRow) (req : CreateOrderRequest) (id : Nat)
    (state : State uuid) : Prop where
  books : Books state
  final : Final row (announcements state.db row.id) state
  stage :
    ∀ {again}, state.runs.get id = some again → again.request.req = req →
      again.stage = .creating ∨ again.stage = .replaying ∨
        again.stage = .returned (replayed uuid row req)

theorem perform_of_retry {db : Db} {again : Run uuid} {rowId : UUID} {now : Nat}
    {performed : Performed} (consistent : Consistent uuid db)
    (member : row ∈ db.orders) (stores : Stores uuid again.request.req row)
    (keyed : again.request.req.idempotencyKey ≠ "")
    (fresh : again.drawsFresh db = true)
    (stage :
      again.stage = .creating ∨ again.stage = .replaying ∨
        again.stage = .returned (replayed uuid row again.request.req))
    (done : again.perform db .done rowId now = some performed) :
    performed.stage = .replaying ∨
      performed.stage = .returned (replayed uuid row again.request.req) := by
  unfold Run.perform at done
  rcases stage with creating | replaying | returned
  · rw [creating] at done
    cases done
    left
    unfold Run.drawsFresh at fresh
    rw [creating] at fresh
    have refused :=
      createOrder_of_row rowId now member stores keyed
        (of_decide_eq_true fresh)
    unfold Run.create
    rw [refused]
    rfl
  · rw [replaying] at done
    cases done
    right
    rw [← replay_of_row consistent member stores keyed]
    rfl
  · rw [returned] at done
    cases done

theorem retrying_of_transition {id : Nat} (stores : Stores uuid req row)
    (keyed : req.idempotencyKey ≠ "") (retrying : Retrying row req id state)
    (healthy : HealthyFor id state label)
    (transition : Transition state label next) : Retrying row req id next := by
  have kept := final_of_transition retrying.books retrying.final transition
  refine ⟨books_of_transition retrying.books transition,
    ⟨kept.1, kept.2.1, rfl⟩, ?_⟩
  intro again found same
  -- a run in one of the three stages has no call to send or to await
  have noCall :
      ∀ {old : Run uuid} {call : Call}, state.runs.get id = some old →
        old.request.req = req → old.call ≠ some call := by
    intro old call running isRetry calls
    have isActive := Stage.active_of_call calls
    rcases retrying.stage running isRetry with stage | stage | stage <;>
      rw [stage] at isActive <;> cases isActive
  cases transition with
  | refused => exact retrying.stage found same
  | started =>
      rcases Registry.cases_of_get_launch found with ⟨_, rfl⟩ | stored
      · exact Or.inl rfl
      · exact retrying.stage stored same
  | @performed other outcome rowId now run performed running done =>
      rcases Registry.cases_of_get_put found with ⟨rfl, rfl⟩ | ⟨_, stored⟩
      · obtain ⟨isDone, fresh⟩ := healthy rfl
        subst isDone
        have isRetry : run.request.req = req := same
        subst isRetry
        exact Or.inr
          (perform_of_retry retrying.books.consistent retrying.final.1
            stores keyed (fresh run running)
            (retrying.stage running rfl) done)
      · exact retrying.stage stored same
  | invoked running calls =>
      rcases Registry.cases_of_get_put found with ⟨rfl, rfl⟩ | ⟨_, stored⟩
      · exact absurd calls (noCall running same)
      · exact retrying.stage stored same
  | answered running calls =>
      rcases Registry.cases_of_get_put found with ⟨rfl, rfl⟩ | ⟨_, stored⟩
      · exact absurd calls (noCall running same)
      · exact retrying.stage stored same
  | crashed => exact retrying.stage (Registry.get_of_get_finish found).2 same

/-- A run with the request returned `result` after completing its transition,
and a later run with the request, for which the database worked, returned
`answer`. -/
inductive RetryObserved
    (uuid : UuidText) (req : CreateOrderRequest)
    (result answer : Except Status CreateOrderResponse) : Prop
  | observed
      {labels later : List Label} {state final : State uuid}
      {id other : Nat} {first again : Run uuid} {status : OrderStatus}
      (ran : run step (State.empty uuid) labels = some state)
      (found : state.runs.get id = some first)
      (asked : first.request.req = req)
      (completed : first.entry id (.moved status true) ∈ state.log)
      (returned : first.stage = .returned result)
      (started : state.runs.next ≤ other)
      (healthy : EveryStep step (HealthyFor other) state later)
      (ranLater : run step state later = some final)
      (retried : final.runs.get other = some again)
      (askedAgain : again.request.req = req)
      (answered : again.stage = .returned answer)

/-- A retry of a completed request gets the first answer exactly when the
request spells its event and its seats canonically. -/
theorem retry_replays_iff_spelled {req : CreateOrderRequest}
    {result answer : Except Status CreateOrderResponse}
    (keyed : req.idempotencyKey ≠ "")
    (retry : RetryObserved uuid req result answer) :
    answer = result ↔ Spelled uuid req := by
  cases retry with
  | @observed _ _ state final id other first again _ ran found asked
      completed returned started healthy ranLater retried askedAgain
      answered =>
      have invariant := answered_of_run answered_empty ran
      obtain ⟨row, stored, _, isFinal, stores, recordedStage⟩ :=
        invariant.answered found completed
      rw [asked] at stores
      have firstAnswer : result = recorded uuid row := by
        rw [returned] at recordedStage
        exact Stage.returned.inj recordedStage
      have notStarted :
          ∀ {run : Run uuid}, state.runs.get other = some run → False := by
        intro run running
        have bound := Registry.lt_next_of_get running
        omega
      have initially : Retrying row req other state :=
        ⟨invariant.ledger.books, ⟨stored, isFinal, rfl⟩,
          fun running _ => (notStarted running).elim⟩
      have retrying : Retrying row req other final :=
        invariant_of_restricted_run
          (fun kept allowed stepped =>
            retrying_of_transition stores keyed kept allowed
              (transition_of_step stepped))
          initially healthy ranLater
      have retryAnswer : answer = replayed uuid row req := by
        rcases retrying.stage retried askedAgain with stage | stage | stage
        · rw [answered] at stage
          cases stage
        · rw [answered] at stage
          cases stage
        · rw [answered] at stage
          exact Stage.returned.inj stage
      rw [firstAnswer, retryAnswer]
      exact replayed_eq_recorded_iff stores

-- Order 9 is confirmed and its request repeated.
private def retryLabels (req : CreateOrderRequest) : List Label :=
  [.start req 8, .database 1 .done 30 0, .database 1 .done 31 0]

private def hasReturned
    (state : State standardText) (id : Nat) (req : CreateOrderRequest)
    (orderId : UUID) (result : Except Status CreateOrderResponse) : Bool :=
  (state.runs.get id).any fun run =>
    decide
      (run.request.req = req ∧ run.orderId = orderId ∧
        run.stage = .returned result)

private def confirmedAndRetried (req : CreateOrderRequest)
    (answer : Except Status CreateOrderResponse) : Bool :=
  (run step (State.empty standardText) (buyLabels 0 req)).any fun state =>
    hasReturned state 0 req 9 (.ok ⟨standardString 9, .confirmed⟩) &&
      decide
        (Entry.mk 0 req 9 (.moved .confirmed true) ∈ state.log ∧
          state.runs.next ≤ 1 ∧
          EveryStep step (HealthyFor 1) state (retryLabels req)) &&
      (run step state (retryLabels req)).any fun final =>
        hasReturned final 1 req 8 answer

private theorem retryObserved_of_check
    {answer : Except Status CreateOrderResponse}
    (checked : confirmedAndRetried req answer = true) :
    RetryObserved standardText req (.ok ⟨standardString 9, .confirmed⟩)
      answer := by
  obtain ⟨state, ran, facts⟩ := (Option.any_eq_true _ _).mp checked
  obtain ⟨facts, retry⟩ := Bool.and_eq_true_iff.mp facts
  obtain ⟨returned, logged⟩ := Bool.and_eq_true_iff.mp facts
  obtain ⟨first, found, isFirst⟩ := (Option.any_eq_true _ _).mp returned
  obtain ⟨asked, order, stage⟩ := of_decide_eq_true isFirst
  obtain ⟨completed, started, healthy⟩ := of_decide_eq_true logged
  obtain ⟨final, ranLater, answered⟩ := (Option.any_eq_true _ _).mp retry
  obtain ⟨again, retried, isAgain⟩ := (Option.any_eq_true _ _).mp answered
  obtain ⟨askedAgain, _, stageAgain⟩ := of_decide_eq_true isAgain
  have entry :
      first.entry 0 (.moved .confirmed true) =
        Entry.mk 0 req 9 (.moved .confirmed true) := by
    rw [Run.entry, asked, order]
  exact .observed ran found asked (entry ▸ completed) stage started healthy
    ranLater retried askedAgain stageAgain

theorem retry_replays_iff_spelled_when_canonical :
    ∃ answer,
      RetryObserved standardText (buyRequest "retry-1")
          (.ok ⟨standardString 9, .confirmed⟩) answer ∧
        Spelled standardText (buyRequest "retry-1") ∧
        answer = .ok ⟨standardString 9, .confirmed⟩ := by
  have retry :
      RetryObserved standardText (buyRequest "retry-1")
        (.ok ⟨standardString 9, .confirmed⟩)
        (.ok ⟨standardString 9, .confirmed⟩) :=
    retryObserved_of_check (by decide +kernel)
  have spelled : Spelled standardText (buyRequest "retry-1") := by
    decide +kernel
  exact ⟨_, retry, spelled,
    (retry_replays_iff_spelled (by decide) retry).mpr spelled⟩

/-- The same request with the digits of the event ID in upper case. -/
private def upperCaseRequest : CreateOrderRequest :=
  { buyRequest "retry-1" with
    eventId := "00000000-0000-0000-0000-00000000000A" }

theorem retry_of_an_upper_case_request_is_refused :
    upperCaseRequest.idempotencyKey ≠ "" ∧
      RetryObserved standardText upperCaseRequest
        (.ok ⟨standardString 9, .confirmed⟩) (.error errKeyReused) := by
  refine ⟨by decide, retryObserved_of_check ?_⟩
  decide +kernel

end TicketWave.Order
