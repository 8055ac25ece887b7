import TicketWave.Order.Grounds

/-! # What an answer says about the order of a key -/

namespace TicketWave.Order

open Library

variable {uuid : UuidText}

/-- The errors that a failed order is answered with. -/
def conclusions : List Status :=
  [errSeatsUnavailable, errPaymentDeclined, errServiceUnavailable]

theorem wrapped_not_conclusion (text : String) :
    Status.wrapped text ∉ conclusions := by
  simp [conclusions, Status.wrapped, Status.error, errSeatsUnavailable,
    errPaymentDeclined, errServiceUnavailable, Status.withReason]

variable {answer err : Status} {req : CreateOrderRequest} {state : State uuid}

theorem unexplained_not_conclusion (unexplained : Unexplained answer) :
    answer ∉ conclusions := by
  rcases unexplained with rfl | ⟨text, rfl⟩
  · decide
  · exact wrapped_not_conclusion text

theorem checkSeatIds_error {seen : List UUID} {texts : List String}
    (refused : checkSeatIds uuid seen texts = some err) :
    err.code = .invalidArgument := by
  induction texts generalizing seen with
  | nil => cases refused
  | cons text rest ih =>
      rw [checkSeatIds] at refused
      split at refused
      · cases refused
        rfl
      · split at refused
        · cases refused
          rfl
        · exact ih refused

/-- A request that is turned away is told so, whatever is wrong with it. -/
theorem validateCreateOrder_error
    (refused : validateCreateOrder uuid req = some err) :
    err.code = .invalidArgument := by
  unfold validateCreateOrder at refused
  split at refused
  · cases refused
    rfl
  · split at refused
    · cases refused
      rfl
    · split at refused
      · cases refused
        rfl
      · split at refused
        · rename_i seatsRefused
          cases refused
          exact checkSeatIds_error seatsRefused
        · split at refused
          · cases refused
            rfl
          · split at refused
            · cases refused
              rfl
            · cases refused

theorem invalid_not_conclusion (invalid : err.code = .invalidArgument) :
    err ∉ conclusions := by
  intro member
  have other : ∀ answer ∈ conclusions, answer.code ≠ .invalidArgument := by
    decide
  exact other err member invalid

/-- The answer is that of a failed row of the same user and key. -/
def Echoed (uuid : UuidText) (db : Db) (req : CreateOrderRequest)
    (answer : Status) : Prop :=
  ∃ row ∈ db.orders, row.status = .failed ∧
    uuid.column req.userId = some row.userId ∧
    row.idempotencyKey = some req.idempotencyKey ∧
    failureFor row.failureReason = answer

theorem findByKey_some {db : Db} {userId key : String} {stored : StoredOrder}
    (found : findByKey uuid db userId key = some stored) :
    ∃ row ∈ db.orders, uuid.column userId = some row.userId ∧
      row.idempotencyKey = some key ∧ stored = scanOrder uuid row := by
  unfold findByKey at found
  split at found
  · cases found
  · rename_i user read
    obtain ⟨row, isFirst, rfl⟩ := Option.map_eq_some_iff.mp found
    have passed := List.find?_some isFirst
    obtain ⟨sameUser, sameKey⟩ := of_decide_eq_true (by exact passed)
    exact ⟨row, List.mem_of_find?_eq_some isFirst, sameUser ▸ read, sameKey,
      rfl⟩

theorem echoed_of_replay {db : Db}
    (replayed : replay uuid db req = .error answer)
    (conclusion : answer ∈ conclusions) : Echoed uuid db req answer := by
  unfold replay at replayed
  split at replayed
  · cases replayed
    exact absurd conclusion (wrapped_not_conclusion _)
  · rename_i stored found
    obtain ⟨row, member, user, key, rfl⟩ := findByKey_some found
    split at replayed
    · cases replayed
      exact absurd conclusion (by decide)
    · split at replayed
      · cases replayed
      · rename_i failed
        cases replayed
        exact ⟨row, member, failed, user, key, rfl⟩
      · cases replayed
        exact absurd conclusion (by decide)

/-- A conclusion that a run has returned is its own or an echo. -/
def Vouched (state : State uuid) : Prop :=
  ∀ {id run answer}, state.runs.get id = some run →
    run.stage = .returned (.error answer) → answer ∈ conclusions →
      run.entry id .inserted ∈ state.log ∨
        Echoed uuid state.db run.request.req answer

theorem vouched_empty : Vouched (State.empty uuid) := nofun

section Step

variable {state next : State uuid} {label : Label} {answer : Status}

theorem echoed_of_transition {req : CreateOrderRequest} (books : Books state)
    (transition : Transition state label next)
    (echoed : Echoed uuid state.db req answer) :
    Echoed uuid next.db req answer := by
  obtain ⟨row, member, failed, facts⟩ := echoed
  have final : Final row (announcements state.db row.id) state := by
    refine ⟨member, ?_, rfl⟩
    rw [failed]
    decide
  exact ⟨row, (final_of_transition books final transition).1, failed, facts⟩

theorem inconclusive_afterReply {run : Run uuid} {call : Call}
    {reply : Option Status} (calls : run.call = some call)
    (returned : run.stage.afterReply reply = .returned (.error answer)) :
    answer ∉ conclusions := by
  unfold Run.call at calls
  cases stage : run.stage with
  | reserving =>
      rw [stage] at returned
      cases reply with
      | none => cases returned
      | some err =>
          by_cases refusal : err.isRefusal = true
          · rw [Stage.afterReply, if_pos refusal] at returned
            cases returned
          · rw [Stage.afterReply, if_neg refusal] at returned
            cases returned
  | charging =>
      rw [stage] at returned
      cases reply <;> cases returned
  | compensating refused =>
      rw [stage] at returned
      cases refused <;> cases returned
  | abandoning =>
      rw [stage] at returned
      cases returned
  | confirming =>
      rw [stage] at returned
      cases reply with
      | none => cases returned
      | some err =>
          cases returned
          decide
  | _ =>
      rw [stage] at calls
      cases calls

/-- A conclusion that a database operation ends with is the run's own or was
just read off a row. -/
theorem vouched_of_performed {id : Nat} {run : Run uuid} {outcome : Outcome}
    {rowId : UUID} {now : Nat} {performed : Performed} (ledger : Ledger state)
    (running : state.runs.get id = some run)
    (done : run.perform state.db outcome rowId now = some performed)
    (returned : performed.stage = .returned (.error answer))
    (conclusion : answer ∈ conclusions) :
    run.entry id .inserted ∈ state.log ∨
      Echoed uuid state.db run.request.req answer := by
  rcases stage_of_perform done with
    goesOn | ⟨text, isWrapped⟩ | ⟨response, isOk⟩ |
      ⟨_, _, result, isResult, source⟩ | ⟨reason, other, failing, isAnswer⟩
  · rw [returned] at goesOn
    cases goesOn
  · rw [returned] at isWrapped
    cases isWrapped
    exact absurd conclusion (wrapped_not_conclusion text)
  · rw [returned] at isOk
    cases isOk
  · rw [returned] at isResult
    cases isResult
    rcases source with replayed | failed
    · exact Or.inr (echoed_of_replay replayed.symm conclusion)
    · cases failed
      exact absurd conclusion (wrapped_not_conclusion _)
  · have isActive : run.stage.active = true := by
      rw [failing]
      rfl
    exact Or.inl (ledger.active running isActive)

theorem vouched_of_transition (ledger : Ledger state) (vouched : Vouched state)
    (transition : Transition state label next) : Vouched next := by
  intro id run answer found returned conclusion
  have kept :
      run.entry id .inserted ∈ state.log ∨
          Echoed uuid state.db run.request.req answer →
        run.entry id .inserted ∈ next.log ∨
          Echoed uuid next.db run.request.req answer := by
    rintro (own | echoed)
    · exact Or.inl (mem_log_of_transition transition own)
    · exact Or.inr (echoed_of_transition ledger.books transition echoed)
  apply kept
  cases transition with
  | refused => exact vouched found returned conclusion
  | started =>
      rcases Registry.cases_of_get_launch found with ⟨_, rfl⟩ | stored
      · cases returned
      · exact vouched stored returned conclusion
  | performed running done =>
      rcases Registry.cases_of_get_put found with ⟨rfl, rfl⟩ | ⟨_, stored⟩
      · have source :=
          vouched_of_performed ledger running done returned conclusion
        exact source
      · exact vouched stored returned conclusion
  | invoked running =>
      rcases Registry.cases_of_get_put found with ⟨rfl, rfl⟩ | ⟨_, stored⟩
      · have before := vouched running returned conclusion
        exact before
      · exact vouched stored returned conclusion
  | answered running calls =>
      rcases Registry.cases_of_get_put found with ⟨rfl, rfl⟩ | ⟨_, stored⟩
      · exact absurd conclusion (inconclusive_afterReply calls returned)
      · exact vouched stored returned conclusion
  | crashed =>
      exact vouched (Registry.get_of_get_finish found).2 returned conclusion

end Step

/-- An order of the user and the key was given up for the reason that the
answer names. -/
def Concluded (state : State uuid) (req : CreateOrderRequest)
    (answer : Status) : Prop :=
  ∃ reason, answer = failureFor (some (reasonLabel reason)) ∧
    ∃ entry ∈ state.log, entry.req.idempotencyKey = req.idempotencyKey ∧
      uuid.column entry.req.userId = uuid.column req.userId ∧
      Closed state entry.run entry.orderId reason

theorem concluded_of_transition {next : State uuid} {label : Label}
    (ledger : Ledger state) (transition : Transition state label next)
    (concluded : Concluded state req answer) : Concluded next req answer := by
  obtain ⟨reason, isAnswer, entry, logged, key, user, closed⟩ := concluded
  exact ⟨reason, isAnswer, entry, mem_log_of_transition transition logged, key,
    user, closed_of_transition ledger transition closed⟩

theorem row_of_entry {entry : Entry} (ledger : Ledger state)
    (logged : entry ∈ state.log) :
    ∃ row ∈ state.db.orders, row.id = entry.orderId ∧
      Stores uuid entry.req row := by
  obtain ⟨row, stored, facts⟩ :=
    ledger.stored _ (ledger.origin entry logged) rfl
  exact ⟨row, stored, facts⟩

theorem eq_of_nullIfEmpty {text key : String}
    (same : nullIfEmpty text = some key) : text = key := by
  unfold nullIfEmpty at same
  split at same
  · cases same
  · exact Option.some.inj same

theorem closed_of_failed {row : OrderRow} (ledger : Ledger state)
    (accountable : Accountable state) (member : row ∈ state.db.orders)
    (failed : row.status = .failed) :
    ∃ reason, row.failureReason = some (reasonLabel reason) ∧
      ∃ entry ∈ state.log, entry.orderId = row.id ∧
        Stores uuid entry.req row ∧
        Closed state entry.run entry.orderId reason := by
  have consistent := ledger.books.consistent
  have announced := consistent.announced row member
  generalize listed : announcements state.db row.id = events at announced
  cases announced with
  | pending status =>
      rw [failed] at status
      cases status
  | confirmed status =>
      rw [failed] at status
      cases status
  | @failed created last _ reason _ isFailed =>
      have isLast : last ∈ announcements state.db row.id := by
        rw [listed]
        exact List.mem_cons_of_mem created (List.mem_singleton_self last)
      obtain ⟨stored, about⟩ := List.mem_filter.mp isLast
      have isKey : last.key = row.id := of_decide_eq_true about
      obtain ⟨id, closed⟩ := accountable.events last stored isFailed
      obtain ⟨entry, logged, rfl, isOrder⟩ := closed.logged
      obtain ⟨other, otherStored, same, stores⟩ := row_of_entry ledger logged
      have isRow : other = row :=
        row_unique consistent.orderIds otherStored member
          (same.trans (isOrder.trans isKey))
      subst isRow
      refine ⟨_, reason, entry, logged, isOrder.trans isKey, stores, ?_⟩
      rw [isOrder]
      exact closed

theorem concluded_of_returned {id : Nat} {run : Run uuid}
    (ledger : Ledger state) (accountable : Accountable state)
    (vouched : Vouched state) (running : state.runs.get id = some run)
    (returned : run.stage = .returned (.error answer))
    (conclusion : answer ∈ conclusions) :
    Concluded state run.request.req answer := by
  rcases vouched running returned conclusion with
    own | ⟨row, member, failed, user, key, isAnswer⟩
  · rcases closed_of_returned accountable running returned own with
      unexplained | ⟨reason, isAnswer, closed⟩
    · exact absurd conclusion (unexplained_not_conclusion unexplained)
    · exact ⟨reason, isAnswer, _, own, rfl, rfl, closed⟩
  · obtain ⟨reason, isReason, entry, logged, _, stores, closed⟩ :=
      closed_of_failed ledger accountable member failed
    rw [isReason] at isAnswer
    refine ⟨reason, isAnswer.symm, entry, logged, ?_, ?_, closed⟩
    · exact eq_of_nullIfEmpty (stores.key.symm.trans key)
    · exact stores.user.trans user.symm

/-- All runs and all rows are for requests that were made. -/
structure Asked
    (asked : CreateOrderRequest → Prop) (state : State uuid) : Prop where
  runs : ∀ {id run}, state.runs.get id = some run → asked run.request.req
  rows :
    ∀ row ∈ state.db.orders,
      ∃ request : Accepted uuid, asked request.req ∧ Stores uuid request.req row

theorem asked_empty (asked : CreateOrderRequest → Prop) :
    Asked asked (State.empty uuid) where
  runs := nofun
  rows := nofun

theorem Asked.mono {asked more : CreateOrderRequest → Prop}
    (held : Asked asked state) (grows : ∀ req, asked req → more req) :
    Asked more state where
  runs := fun found => grows _ (held.runs found)
  rows := by
    intro row member
    obtain ⟨request, isAsked, stores⟩ := held.rows row member
    exact ⟨request, grows _ isAsked, stores⟩

theorem asked_of_transition {asked : CreateOrderRequest → Prop}
    {next : State uuid} {label : Label} (held : Asked asked state)
    (made : ∀ req orderId, label = .start req orderId → asked req)
    (transition : Transition state label next) : Asked asked next := by
  constructor
  · intro id run found
    rcases earlier_of_transition transition found with
      ⟨_, orderId, isStart⟩ | ⟨earlier, stored, sameEntry⟩
    · exact made _ orderId isStart
    · have sameRequest : earlier.request.req = run.request.req :=
        congrArg Entry.req (sameEntry .inserted)
      rw [← sameRequest]
      exact held.runs stored
  · intro row member
    cases transition with
    | @performed id outcome rowId now acting performed running done =>
        cases effect_of_perform done with
        | inserted _ _ committed =>
            obtain ⟨new, created⟩ := createOrder_ok committed
            rw [created.next] at member
            rcases List.mem_append.mp member with old | isNew
            · exact held.rows row old
            · rw [List.mem_singleton.mp isNew]
              exact ⟨acting.request, held.runs running, created.stores⟩
        | moved closes committed =>
            obtain ⟨old, stored, rfl⟩ :=
              (transition_ok committed).mem_orders.mp member
            obtain ⟨request, isAsked, stores⟩ := held.rows old stored
            refine ⟨request, isAsked, ?_⟩
            split
            · exact ⟨stores.user, stores.eventId, stores.seats, stores.amount,
                stores.key⟩
            · exact stores
        | duplicate => exact held.rows row member
        | nothing => exact held.rows row member
    | _ => exact held.rows row member

end TicketWave.Order
