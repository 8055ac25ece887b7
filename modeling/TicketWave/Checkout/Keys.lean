import TicketWave.Checkout.Requests

/-!
# Keys that are dropped

The keeper drops its key after errors that say nothing about the order of the
key as well as after those that tell how it ended.
-/

namespace TicketWave.Checkout

open Library

variable {uuid : UuidText} {ours : UUID → Bool} {mine : String → Bool}
  {price : Int}

/-- Nobody will send a request with the key any more. -/
structure Gone (site : Site uuid) (key : String) : Prop where
  drawn : key ∈ site.drawn
  current : ∀ pending, site.keeper.current = some pending → pending.key ≠ key
  mutations :
    ∀ {id mutation}, site.mutations.get id = some mutation → mutation.key ≠ key

/-- All requests with the key have the property. -/
def Under (site : Site uuid) (key : String) (holds : Request → Prop) : Prop :=
  ∀ entry ∈ site.requests.entries, entry.2.key = key → holds entry.2

instance (site : Site uuid) (key : String) (holds : Request → Prop)
    [DecidablePred holds] : Decidable (Under site key holds) :=
  inferInstanceAs (Decidable (∀ entry ∈ site.requests.entries, _))

/-- The request carries no token of another user. -/
def Request.OfUser (userId : String) (request : Request) : Prop :=
  ∀ claims ∈ request.token, claims.userId = userId

instance (userId : String) : DecidablePred (Request.OfUser userId) :=
  fun request =>
    inferInstanceAs (Decidable (∀ claims ∈ request.token, _))

def Request.Barred (uuid : UuidText) (request : Request) : Prop :=
  request.phase.barred uuid = true

instance (uuid : UuidText) : DecidablePred (Request.Barred uuid) :=
  fun request => inferInstanceAs (Decidable (request.phase.barred uuid = true))

section Gone

variable {site next : Site uuid} {label : Label} {key : String}

theorem gone_of_transition (gone : Gone site key)
    (transition : Transition ours mine price site label next) :
    Gone next key := by
  have current :
      ∀ pending, next.keeper.current = some pending → pending.key ≠ key := by
    intro pending isCurrent
    rcases current_of_transition transition isCurrent with
      old | ⟨isFresh, _⟩
    · exact gone.current pending old
    · rintro rfl
      exact isFresh.2.2 gone.drawn
  refine ⟨mem_drawn_of_transition transition gone.drawn, current, ?_⟩
  intro id mutation found
  rcases mutation_of_transition transition found with
    ⟨old, stored, same⟩ | ⟨pending, isCurrent, same⟩
  · rw [← same]
    exact gone.mutations stored
  · rw [← same]
    exact current pending isCurrent

theorem under_of_transition {holds : Request → Prop} (gone : Gone site key)
    (transition : Transition ours mine price site label next)
    (kept :
      ∀ {old new}, Advances ours site next old new → holds old → holds new)
    (under : Under site key holds) : Under next key holds := by
  intro entry member isKey
  have found := Registry.get_eq_some_iff.mpr member
  rcases request_of_transition transition found with
    ⟨old, stored, advances⟩ | ⟨_, _, other, mutation, opened, same⟩
  · apply kept advances
    exact under _ (Registry.get_eq_some_iff.mp stored)
      (advances.key.symm.trans isKey)
  · have never := (gone_of_transition gone transition).mutations opened
    exact absurd (same.trans isKey) never

theorem Advances.ofUser {userId : String} {old new : Request}
    (advances : Advances ours site next old new) (ofUser : old.OfUser userId) :
    new.OfUser userId := by
  unfold Request.OfUser
  rw [advances.token]
  exact ofUser

theorem Advances.barred {old new : Request}
    (advances : Advances ours site next old new) (barred : old.Barred uuid) :
    new.Barred uuid := by
  have phase := advances.phase
  unfold Request.Barred at barred ⊢
  generalize new.phase = newPhase at phase
  cases phase with
  | stays => exact barred
  | refused => rfl
  | called sent =>
      rw [sent] at barred
      cases barred
  | taken called =>
      rw [called] at barred
      exact barred
  | answered taken =>
      rw [taken] at barred
      exact barred

variable {row : Order.OrderRow}

theorem request_of_row (traced : Traced ours mine site)
    (isMine : mine key = true) (stored : row ∈ site.system.order.db.orders)
    (keyed : row.idempotencyKey = some key) :
    ∃ id request, ∃ accepted : Order.Accepted uuid,
      site.requests.get id = some request ∧ request.key = key ∧
        request.phase.call = some accepted.req ∧
        Order.Stores uuid accepted.req row := by
  obtain ⟨accepted, sent, stores⟩ := traced.asked.rows row stored
  have sameKey : accepted.req.idempotencyKey = key :=
    Order.eq_of_nullIfEmpty (stores.key.symm.trans keyed)
  obtain ⟨id, request, found, inService⟩ := sent (by rw [sameKey]; exact isMine)
  have calls := Phase.call_of_inService inService
  exact ⟨id, request, accepted, found,
    (traced.formed found calls).1.symm.trans sameKey, calls, stores⟩

theorem no_row_of_barred (traced : Traced ours mine site)
    (isMine : mine key = true) (barred : Under site key (Request.Barred uuid))
    (stored : row ∈ site.system.order.db.orders) :
    row.idempotencyKey ≠ some key := by
  intro keyed
  obtain ⟨id, request, accepted, found, isKey, calls, _⟩ :=
    request_of_row traced isMine stored keyed
  have isBarred := barred _ (Registry.get_eq_some_iff.mp found) isKey
  have invalid : (Order.validateCreateOrder uuid accepted.req).isSome := by
    unfold Request.Barred at isBarred
    cases phase : request.phase with
    | sent =>
        rw [phase] at calls
        cases calls
    | refused =>
        rw [phase] at calls
        cases calls
    | called req =>
        rw [phase] at calls isBarred
        cases calls
        exact isBarred
    | taken req run =>
        rw [phase] at calls isBarred
        cases calls
        exact isBarred
    | answered req result =>
        rw [phase] at calls isBarred
        cases calls
        exact isBarred
  rw [accepted.valid] at invalid
  cases invalid

theorem row_of_user {entry : Order.Entry} {userId : String}
    (traced : Traced ours mine site) (isMine : mine key = true)
    (keyNotEmpty : key ≠ "") (ofUser : Under site key (Request.OfUser userId))
    (logged : entry ∈ site.system.order.log)
    (entryKey : entry.req.idempotencyKey = key)
    (entryUser : uuid.column entry.req.userId = uuid.column userId)
    (stored : row ∈ site.system.order.db.orders)
    (keyed : row.idempotencyKey = some key) : row.id = entry.orderId := by
  have ledger := traced.told.linked.orderSide.ledger
  obtain ⟨id, request, accepted, found, isKey, calls, stores⟩ :=
    request_of_row traced isMine stored keyed
  obtain ⟨claims, token, isUser⟩ := (traced.formed found calls).2
  have sameUser : claims.userId = userId :=
    ofUser _ (Registry.get_eq_some_iff.mp found) isKey claims token
  obtain ⟨own, ownStored, ownId, ownStores⟩ := Order.row_of_entry ledger logged
  have ownKey : own.idempotencyKey = some key := by
    rw [ownStores.key, entryKey, Order.nullIfEmpty, if_neg keyNotEmpty]
  have users : some row.userId = some own.userId := by
    rw [← stores.user, ← ownStores.user, entryUser, isUser, sameUser]
  have sameRow : row = own :=
    ledger.books.consistent.keys row stored own ownStored
      (Option.some.inj users) (keyed.trans ownKey.symm) (by rw [keyed]; rfl)
  rw [sameRow]
  exact ownId

end Gone

theorem unconfirmed_of_unpaid {system : Saga.System uuid} {row : Order.OrderRow}
    (linked : Saga.Linked ours system) (stored : row ∈ system.order.db.orders)
    (unpaid : Saga.Unpaid system row.id) : row.status ≠ .confirmed := by
  intro confirmed
  obtain ⟨payment, paid, _⟩ := Saga.paid_of_confirmed linked stored confirmed
  have member :
      payment ∈ Payment.successes system.payment.payments row.id := by
    rw [paid]
    exact List.mem_singleton_self payment
  obtain ⟨recorded, isSuccess⟩ := List.mem_filter.mp member
  obtain ⟨same, succeeded⟩ := of_decide_eq_true isSuccess
  exact unpaid payment recorded same succeeded

/-- The reaction is a failure after which `settle` drops the key. -/
def Reaction.drops : Reaction → Bool
  | .reject err => !isUnknownOutcome err
  | .refresh _ | .resend _ | .resolve => false

/-- What the mutation hears makes it fail, and the key is dropped. -/
def Dropped
    (site : Site uuid) (id : Nat) (report : Report) (key : String) : Prop :=
  (site.reaction id report).any Reaction.drops = true ∧
    site.keeper.current.map Pending.key = some key

instance (site : Site uuid) (id : Nat) (report : Report) (key : String) :
    Decidable (Dropped site id report key) :=
  inferInstanceAs (Decidable (_ ∧ _))

/-- No other mutation with the key is under way. -/
def Alone (site : Site uuid) (id : Nat) (key : String) : Prop :=
  ∀ entry ∈ site.mutations.entries, entry.2.key = key → entry.1 = id

instance (site : Site uuid) (id : Nat) (key : String) :
    Decidable (Alone site id key) :=
  inferInstanceAs (Decidable (∀ entry ∈ site.mutations.entries, _))

/-- The error tells that the order of the key has failed without a charge. -/
def Conclusive (log : List Order.Entry) (key : String) (err : Status) : Prop :=
  err = Order.errSeatsUnavailable ∨ err = Order.errPaymentDeclined ∨
    err = Order.errServiceUnavailable ∧
      ∀ entry ∈ log, entry.req.idempotencyKey = key →
        ¬ Order.Broke log entry.run

instance (log : List Order.Entry) (key : String) (err : Status) :
    Decidable (Conclusive log key err) :=
  inferInstanceAs (Decidable (_ ∨ _ ∨ _ ∧ _))

/-- order-svc itself has answered the mutation so, and all requests with the
key are the same user's. -/
def Decided (site : Site uuid) (id : Nat) (key : String) : Prop :=
  ∃ mutation request req err, site.mutations.get id = some mutation ∧
    site.requests.get mutation.request = some request ∧
    request.key = key ∧ request.phase = .answered req (.error err) ∧
    Conclusive site.system.order.log key err ∧
    Under site key (Request.OfUser req.userId)

def Definite (site : Site uuid) (id : Nat) (key : String) : Prop :=
  Alone site id key ∧
    (Under site key (Request.Barred uuid) ∨ Decided site id key)

/-- An order of the user and the key was given up before it was charged. -/
def GivenUp (state : Order.State uuid) (key userId : String) : Prop :=
  ∃ entry ∈ state.log, entry.req.idempotencyKey = key ∧
    uuid.column entry.req.userId = uuid.column userId ∧
    ∃ reason, Notification.promised reason = true ∧
      Order.Closed state entry.run entry.orderId reason

theorem givenUp_of_conclusive
    {state : Order.State uuid} {req : Order.CreateOrderRequest}
    {err : Status} (concluded : Order.Concluded state req err)
    (conclusive : Conclusive state.log req.idempotencyKey err) :
    GivenUp state req.idempotencyKey req.userId := by
  obtain ⟨reason, isErr, entry, logged, key, user, closed⟩ := concluded
  refine ⟨entry, logged, key, user, ?_⟩
  cases reason with
  | seatsUnavailable => exact ⟨_, rfl, closed⟩
  | paymentDeclined => exact ⟨_, rfl, closed⟩
  | serviceUnavailable =>
      rcases conclusive with isSeats | isPayment | ⟨_, unbroken⟩
      · exact absurd (isErr.symm.trans isSeats) (by decide)
      · exact absurd (isErr.symm.trans isPayment) (by decide)
      · exact ⟨_, rfl, closed.uncharged (unbroken entry logged key)⟩
  | unspecified => exact closed.grounds.elim

theorem Conclusive.mem_conclusions {log : List Order.Entry} {key : String}
    {err : Status} (conclusive : Conclusive log key err) :
    err ∈ Order.conclusions := by
  rcases conclusive with rfl | rfl | ⟨rfl, _⟩ <;> decide

/-- What stays after a key was dropped rightly. -/
structure Over
    (ours : UUID → Bool) (mine : String → Bool) (key : String)
    (site : Site uuid) : Prop where
  traced : Traced ours mine site
  gone : Gone site key
  ended :
    Under site key (Request.Barred uuid) ∨
      ∃ userId, Under site key (Request.OfUser userId) ∧
        GivenUp site.system.order key userId

section Drop

variable {site next : Site uuid} {label : Label} {key : String}

theorem givenUp_of_transition {userId : String} (traced : Traced ours mine site)
    (genuine : label.Genuine)
    (transition : Transition ours mine price site label next)
    (givenUp : GivenUp site.system.order key userId) :
    GivenUp next.system.order key userId := by
  rcases orderSvc_of_transition genuine transition with
    same | ⟨_, ordered, _⟩
  · rw [same]
    exact givenUp
  · obtain ⟨entry, logged, isKey, isUser, reason, promised, closed⟩ := givenUp
    exact ⟨entry, Order.mem_log_of_transition ordered logged, isKey, isUser,
      reason, promised,
      Order.closed_of_transition traced.told.linked.orderSide.ledger
        ordered closed⟩

theorem over_of_transition
    (settled : Over ours mine key site) (genuine : label.Genuine)
    (transition : Transition ours mine price site label next) :
    Over ours mine key next := by
  refine ⟨traced_of_transition settled.traced genuine transition,
    gone_of_transition settled.gone transition, ?_⟩
  rcases settled.ended with barred | ⟨userId, ofUser, givenUp⟩
  · exact Or.inl
      (under_of_transition settled.gone transition
        (fun advances => advances.barred) barred)
  · exact Or.inr
      ⟨userId,
        under_of_transition settled.gone transition
          (fun advances => advances.ofUser) ofUser,
        givenUp_of_transition settled.traced genuine transition givenUp⟩

theorem over_of_dropped
    {id : Nat} {report : Report} (traced : Traced ours mine site)
    (dropped : Dropped site id report key) (definite : Definite site id key)
    (transition : Transition ours mine price site (.hear id report) next) :
    Over ours mine key next := by
  obtain ⟨alone, ended⟩ := definite
  obtain ⟨pending, current, isKey⟩ := Option.map_eq_some_iff.mp dropped.2
  have wasDrawn : key ∈ site.drawn := isKey ▸ traced.keeper pending current
  have genuine : (Label.hear id report).Genuine := trivial
  have isTraced := traced_of_transition traced genuine transition
  cases transition with
  | @heard _ _ mutation reaction found reacts =>
      obtain ⟨known, isKnown, drops⟩ := (Option.any_eq_true _ _).mp dropped.1
      rw [reacts] at isKnown
      cases isKnown
      cases reaction with
      | reject err =>
          have notUnknown : isUnknownOutcome err = false :=
            Bool.not_eq_true' _ ▸ drops
          refine ⟨isTraced, ⟨wasDrawn, ?_, ?_⟩, ?_⟩
          · intro other isCurrent
            have kept :
                (site.keeper.settle (some err)).current = some other :=
              isCurrent
            simp only [KeyKeeper.settle, notUnknown] at kept
            cases kept
          · intro other value stored isKey
            obtain ⟨different, before⟩ := Registry.get_of_get_finish stored
            exact different (alone _ (Registry.get_eq_some_iff.mp before) isKey)
          · rcases ended with
              barred |
                ⟨_, request, req, answer, _, sent, requestKey, answered,
                  conclusive, ofUser⟩
            · exact Or.inl barred
            · refine Or.inr ⟨req.userId, ofUser, ?_⟩
              have calls : request.phase.call = some req :=
                congrArg Phase.call answered
              have reqKey : req.idempotencyKey = key :=
                (traced.formed sent calls).1.trans requestKey
              rw [← reqKey]
              apply givenUp_of_conclusive _ (reqKey ▸ conclusive)
              exact traced.concluded sent answered conclusive.mem_conclusions
      | refresh err => cases drops
      | resend token => cases drops
      | resolve => cases drops

theorem Over.free (settled : Over ours mine key site) {row : Order.OrderRow}
    (stored : row ∈ site.system.order.db.orders)
    (keyed : row.idempotencyKey = some key) :
    row.status ≠ .confirmed ∧ Saga.Unpaid site.system row.id := by
  have traced := settled.traced
  obtain ⟨isMine, keyNotEmpty⟩ := traced.drawn key settled.gone.drawn
  rcases settled.ended with barred | ⟨userId, ofUser, givenUp⟩
  · exact absurd keyed (no_row_of_barred traced isMine barred stored)
  · obtain ⟨entry, logged, isKey, isUser, reason, promised, closed⟩ := givenUp
    have isOrder : row.id = entry.orderId :=
      row_of_user traced isMine keyNotEmpty ofUser logged isKey isUser stored
        keyed
    have unpaid : Saga.Unpaid site.system row.id := by
      rw [isOrder]
      exact Saga.unpaid_of_closed traced.told closed promised
    exact ⟨unconfirmed_of_unpaid traced.told.linked stored unpaid, unpaid⟩

end Drop

/-- A key that is dropped after a definite failure has no order that is
confirmed or paid, and never gets one. -/
theorem dropped_key_costs_nothing {labels : List Label} {site : Site uuid}
    (genuine : ∀ label ∈ labels, label.Genuine)
    (ran : run (step ours mine price) (Site.empty uuid) labels = some site)
    {id : Nat} {report : Report} {key : String}
    (dropped : Dropped site id report key) (definite : Definite site id key)
    {next : Site uuid}
    (stepped : step ours mine price site (.hear id report) = some next)
    {later : List Label} {final : Site uuid}
    (laterGenuine : ∀ label ∈ later, label.Genuine)
    (ranOn : run (step ours mine price) next later = some final) :
    ∀ row ∈ final.system.order.db.orders, row.idempotencyKey = some key →
      row.status ≠ .confirmed ∧
        ∀ payment ∈ final.system.payment.payments,
          payment.orderId = row.id → payment.status ≠ .succeeded := by
  have traced : Traced ours mine site :=
    invariant_of_restricted_run
      (fun held isGenuine moved =>
        traced_of_transition held isGenuine (transition_of_step moved))
      traced_empty (everyStep_of_mem genuine _) ran
  have dropRight : Over ours mine key next :=
    over_of_dropped traced dropped definite (transition_of_step stepped)
  have isOver : Over ours mine key final :=
    invariant_of_restricted_run
      (fun held isGenuine moved =>
        over_of_transition held isGenuine (transition_of_step moved))
      dropRight (everyStep_of_mem laterGenuine _) ranOn
  intro row stored keyed
  exact isOver.free stored keyed

-- A checkout of seat 3 under the key of the page.
private def seatBody : Gateway.CreateOrderBody :=
  ⟨standardString 2, [standardString 3]⟩

private def buyer : Gateway.Claims :=
  ⟨standardString 1, "user"⟩

private def checkoutStep (price : Int) :
    Site standardText → Label → Option (Site standardText) :=
  step (fun id => decide (id = 8 ∨ id = 9)) (fun key => decide (key ≠ ""))
    price

private def openingLabels : List Label :=
  [.system (.inventory (.createEvent ⟨"Concert", 1⟩ 2 [3])),
    .buy seatBody "key-1" (some buyer), .arrive 0 none, .take 0 9,
    .system (.order (.database 0 .done 20 0))]

private def reserveLabels : List Saga.Label :=
  [.send 0, .inventory (.commitCall 0 30), .inventory (.redis 0 true),
    .inventory (.reply 0), .receive 0 0 none]

private def declinedLabels : List Label :=
  openingLabels ++
    List.map Label.system
      (reserveLabels ++
        [.send 0, .payment (.serve 0 .done 40),
          .receive 0 0
            (some (Status.error .failedPrecondition "payment declined")),
          .send 0,
          .breakdown 0 (Status.error .unavailable "connection lost"),
          .order (.database 0 .done 21 0)]) ++
    [.answer 0]

private def declinedRequest : Order.CreateOrderRequest :=
  { Order.buyRequest "key-1" with amountCents := 700 }

private def releasedLabels : List Label :=
  [.system (.inventory (.commitCall 1 31))]

theorem dropped_key_costs_nothing_after_a_decline :
    ∃ site next final : Site standardText,
      run (checkoutStep 700) (Site.empty standardText) declinedLabels =
          some site ∧
        Dropped site 0 .answer "key-1" ∧ Definite site 0 "key-1" ∧
        checkoutStep 700 site (.hear 0 .answer) = some next ∧
        run (checkoutStep 700) next releasedLabels = some final ∧
        (∃ row ∈ final.system.order.db.orders,
          row.idempotencyKey = some "key-1") ∧
        ∀ row ∈ final.system.order.db.orders,
          row.idempotencyKey = some "key-1" →
            row.status ≠ .confirmed ∧
              ∀ payment ∈ final.system.payment.payments,
                payment.orderId = row.id → payment.status ≠ .succeeded := by
  have ends :
      (run (checkoutStep 700) (Site.empty standardText) declinedLabels).any
        (fun site =>
          decide (Dropped site 0 .answer "key-1" ∧ Alone site 0 "key-1") &&
            ((site.mutations.get 0).any fun mutation =>
              (site.requests.get mutation.request).any fun request =>
                decide
                  (request.key = "key-1" ∧
                    request.phase =
                      .answered declinedRequest
                        (.error Order.errPaymentDeclined) ∧
                    Under site "key-1"
                      (Request.OfUser declinedRequest.userId))) &&
            (checkoutStep 700 site (.hear 0 .answer)).any fun next =>
              (run (checkoutStep 700) next releasedLabels).any fun final =>
                final.system.order.db.orders.any fun row =>
                  decide (row.idempotencyKey = some "key-1")) = true := by
    decide +kernel
  obtain ⟨site, ran, checked⟩ := (Option.any_eq_true _ _).mp ends
  obtain ⟨facts, goesOn⟩ := Bool.and_eq_true_iff.mp checked
  obtain ⟨isDropped, isDecided⟩ := Bool.and_eq_true_iff.mp facts
  obtain ⟨dropped, alone⟩ := of_decide_eq_true isDropped
  obtain ⟨mutation, found, isAnswered⟩ := (Option.any_eq_true _ _).mp isDecided
  obtain ⟨request, sent, isRequest⟩ := (Option.any_eq_true _ _).mp isAnswered
  obtain ⟨isKey, answered, ofUser⟩ := of_decide_eq_true isRequest
  have definite : Definite site 0 "key-1" :=
    ⟨alone,
      Or.inr
        ⟨mutation, request, declinedRequest, _, found, sent, isKey, answered,
          Or.inr (Or.inl rfl), ofUser⟩⟩
  obtain ⟨next, stepped, isNext⟩ := (Option.any_eq_true _ _).mp goesOn
  obtain ⟨final, ranOn, hasRow⟩ := (Option.any_eq_true _ _).mp isNext
  obtain ⟨row, stored, hasKey⟩ := List.any_eq_true.mp hasRow
  exact ⟨site, next, final, ran, dropped, definite, stepped, ranOn,
    ⟨row, stored, of_decide_eq_true hasKey⟩,
    dropped_key_costs_nothing (by decide) ran dropped definite stepped
      (by decide) ranOn⟩

-- The connection drops, and the retry hears that the first request is still in
-- progress.  And: the charge takes effect and its reply is lost.
private def inProgressLabels : List Label :=
  openingLabels ++
    [.hear 0 .lost, .buy seatBody "key-2" (some buyer), .arrive 1 none,
      .take 1 8, .system (.order (.database 1 .done 21 0)),
      .system (.order (.database 1 .done 22 0)), .answer 1]

private def confirmedLabels : List Label :=
  List.map Label.system
    (reserveLabels ++
      [.send 0, .payment (.serve 0 .done 40), .receive 0 0 none,
        .send 0, .inventory (.commitCall 1 31), .inventory (.redis 1 true),
        .inventory (.reply 1), .receive 0 1 none,
        .order (.database 0 .done 23 0)])

private def lostChargeLabels : List Label :=
  openingLabels ++
    List.map Label.system
      (reserveLabels ++
        [.send 0, .payment (.serve 0 .done 40),
          .breakdown 0 (Status.error .unavailable "connection lost"),
          .send 0, .inventory (.commitCall 1 31),
          .inventory (.redis 1 true), .inventory (.reply 1),
          .receive 0 1 none, .order (.database 0 .done 21 0)]) ++
    [.answer 0]

/-- The mutation drops the key, and the order of the key comes to have the
status and a successful payment. -/
def DroppedEarly (labels : List Label) (id : Nat) (later : List Label)
    (status : Order.OrderStatus) : Prop :=
  (∀ label ∈ labels ++ later, label.Genuine) ∧
    ∃ site next final : Site standardText,
      run (checkoutStep 100) (Site.empty standardText) labels = some site ∧
        Dropped site id .answer "key-1" ∧
        checkoutStep 100 site (.hear id .answer) = some next ∧
        run (checkoutStep 100) next later = some final ∧
        ∃ row ∈ final.system.order.db.orders,
          row.idempotencyKey = some "key-1" ∧ row.status = status ∧
            ∃ payment ∈ final.system.payment.payments,
              payment.orderId = row.id ∧ payment.status = .succeeded

private def droppedEarly (labels : List Label) (id : Nat) (later : List Label)
    (status : Order.OrderStatus) : Bool :=
  (run (checkoutStep 100) (Site.empty standardText) labels).any fun site =>
    decide (Dropped site id .answer "key-1") &&
      (checkoutStep 100 site (.hear id .answer)).any fun next =>
        (run (checkoutStep 100) next later).any fun final =>
          decide
            (∃ row ∈ final.system.order.db.orders,
              row.idempotencyKey = some "key-1" ∧ row.status = status ∧
                ∃ payment ∈ final.system.payment.payments,
                  payment.orderId = row.id ∧ payment.status = .succeeded)

private theorem droppedEarly_of_check
    {labels later : List Label} {id : Nat} {status : Order.OrderStatus}
    (genuine : ∀ label ∈ labels ++ later, label.Genuine)
    (checked : droppedEarly labels id later status = true) :
    DroppedEarly labels id later status := by
  obtain ⟨site, ran, facts⟩ := (Option.any_eq_true _ _).mp checked
  obtain ⟨dropped, goesOn⟩ := Bool.and_eq_true_iff.mp facts
  obtain ⟨next, stepped, isNext⟩ := (Option.any_eq_true _ _).mp goesOn
  obtain ⟨final, ranOn, paid⟩ := (Option.any_eq_true _ _).mp isNext
  exact ⟨genuine, site, next, final, ran, of_decide_eq_true dropped, stepped,
    ranOn, of_decide_eq_true paid⟩

theorem keys_are_dropped_before_their_orders_settle :
    DroppedEarly inProgressLabels 1 confirmedLabels .confirmed ∧
      DroppedEarly lostChargeLabels 0 [] .failed :=
  ⟨droppedEarly_of_check (by decide) (by decide +kernel),
    droppedEarly_of_check (by decide) (by decide +kernel)⟩

end TicketWave.Checkout
