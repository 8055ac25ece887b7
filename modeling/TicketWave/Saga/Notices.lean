import TicketWave.Notification.Email
import TicketWave.Order.Grounds
import TicketWave.Payment.Verdicts
import TicketWave.Saga.Safety

/-!
# What a customer is told about the charge

gRPC never ends a call by itself with `FailedPrecondition`: `Genuine`.
-/

namespace TicketWave.Saga

open Library

variable {uuid : UuidText} {ours : UUID → Bool}

def Label.Genuine : Label → Prop
  | .breakdown _ err => err.isRefusal = false
  | _ => True

instance (label : Label) : Decidable label.Genuine :=
  match label with
  | .breakdown _ err => inferInstanceAs (Decidable (err.isRefusal = false))
  | .order _ => isTrue trivial
  | .inventory _ => isTrue trivial
  | .payment _ => isTrue trivial
  | .client _ => isTrue trivial
  | .send _ => isTrue trivial
  | .receive _ _ _ => isTrue trivial

section Step

variable {system next : System uuid} {label : Label}

theorem payment_of_step (stepped : step ours system label = some next) :
    next.payment = system.payment ∧ next.chargeCalls = system.chargeCalls ∨
      ∃ moved, Payment.step uuid system.payment moved = some next.payment ∧
        next.chargeCalls =
          moved.sends system.payment ++ system.chargeCalls := by
  have delivered :
      ∀ {before : System uuid} {run : Option Nat} {call : Order.Call},
        before.deliver run call = some next →
          next.payment = before.payment ∧
              next.chargeCalls = before.chargeCalls ∨
            ∃ moved,
              Payment.step uuid before.payment moved = some next.payment ∧
                next.chargeCalls =
                  moved.sends before.payment ++ before.chargeCalls := by
    intro before run call delivers
    cases call with
    | seats method req =>
        obtain ⟨inventory, _, rfl⟩ := Option.map_eq_some_iff.mp delivers
        exact Or.inl ⟨rfl, rfl⟩
    | charge req =>
        cases delivers
        exact Or.inr ⟨.beginCall req, rfl, rfl⟩
  cases label with
  | order label =>
      simp only [step] at stepped
      split at stepped
      · obtain ⟨order, _, rfl⟩ := Option.map_eq_some_iff.mp stepped
        exact Or.inl ⟨rfl, rfl⟩
      · cases stepped
  | inventory label =>
      simp only [step] at stepped
      split at stepped
      · cases stepped
      · obtain ⟨inventory, _, rfl⟩ := Option.map_eq_some_iff.mp stepped
        exact Or.inl ⟨rfl, rfl⟩
  | payment label =>
      simp only [step] at stepped
      split at stepped
      · cases stepped
      · rename_i own
        obtain ⟨payment, moved, rfl⟩ := Option.map_eq_some_iff.mp stepped
        refine Or.inr ⟨label, moved, ?_⟩
        rw [Payment.Label.sends_eq_nil (Bool.eq_false_iff.mpr own)]
        rfl
  | client call =>
      simp only [step] at stepped
      split at stepped
      · exact delivered stepped
      · cases stepped
  | send id =>
      simp only [step] at stepped
      split at stepped
      · cases stepped
      · obtain ⟨order, _, delivers⟩ := Option.bind_eq_some_iff.mp stepped
        have sent := delivered delivers
        exact sent
  | receive id number reply =>
      simp only [step] at stepped
      split at stepped
      · cases stepped
      · split at stepped
        · obtain ⟨order, _, rfl⟩ := Option.map_eq_some_iff.mp stepped
          exact Or.inl ⟨rfl, rfl⟩
        · cases stepped
  | breakdown id err =>
      obtain ⟨order, _, rfl⟩ := Option.map_eq_some_iff.mp stepped
      exact Or.inl ⟨rfl, rfl⟩

/-- order-svc takes a step of its own or none.  It takes in a request only
where the label says so. -/
theorem order_of_transition (transition : Transition ours system label next) :
    next.order = system.order ∨
      ∃ moved, Order.Transition system.order moved next.order ∧
        ∀ req orderId, moved = .start req orderId → label = .order moved := by
  cases transition with
  | order own moved => exact Or.inr ⟨_, moved, fun _ _ _ => rfl⟩
  | client permitted delivered =>
      exact Or.inl (orderSide_of_delivered delivered)
  | sent running calls moved delivered =>
      rw [orderSide_of_delivered delivered]
      exact Or.inr ⟨_, moved, fun _ _ started => nomatch started⟩
  | received running calls message answered moved =>
      exact Or.inr ⟨_, moved, fun _ _ started => nomatch started⟩
  | broken moved => exact Or.inr ⟨_, moved, fun _ _ started => nomatch started⟩
  | inventory own moved => exact Or.inl rfl
  | payment own moved => exact Or.inl rfl

theorem Delivered.exchange {run : Option Nat} {call : Order.Call}
    (delivered : Delivered system run call next) :
    (∀ message ∈ system.wire, message ∈ next.wire) ∧
      ∀ answer ∈ system.payment.answers, answer ∈ next.payment.answers := by
  cases delivered with
  | seats transition =>
      exact ⟨fun _ member => List.mem_cons_of_mem _ member,
        fun _ member => member⟩
  | charge transition =>
      exact ⟨fun _ member => List.mem_cons_of_mem _ member,
        fun _ member => Payment.answers_of_transition transition member⟩

theorem exchange_grows (transition : Transition ours system label next) :
    (∀ message ∈ system.wire, message ∈ next.wire) ∧
      ∀ answer ∈ system.payment.answers, answer ∈ next.payment.answers := by
  cases transition with
  | payment own moved =>
      exact ⟨fun _ member => member,
        fun _ member => Payment.answers_of_transition moved member⟩
  | client permitted delivered => exact delivered.exchange
  | sent running calls moved delivered =>
      exact delivered.exchange
  | _ => exact ⟨fun _ member => member, fun _ member => member⟩

/-- A refused charge was refused by payment-svc. -/
def RefusalsAnswered (system : System uuid) : Prop :=
  ∀ entry ∈ system.order.log, ∀ req err,
    entry.action = .received (.charge req) (some err) →
      err.isRefusal = true →
        ∃ number, ⟨some entry.run, .charge req, number⟩ ∈ system.wire ∧
          (number, some err) ∈ system.payment.answers

structure Told (ours : UUID → Bool) (system : System uuid) : Prop where
  linked : Linked ours system
  accountable : Order.Accountable system.order
  ruled : Payment.Ruled uuid system.chargeCalls system.payment
  refusals : RefusalsAnswered system

theorem told_empty : Told ours (System.empty uuid) where
  linked := linked_empty
  accountable := Order.accountable_empty
  ruled := Payment.ruled_empty
  refusals := by
    intro entry member
    cases member

theorem refusals_of_transition (refusals : RefusalsAnswered system)
    (genuine : label.Genuine) (transition : Transition ours system label next) :
    RefusalsAnswered next := by
  obtain ⟨wireGrows, answersGrow⟩ := exchange_grows transition
  intro entry member req err received refusal
  have old :
      entry ∈ system.order.log →
        ∃ number, ⟨some entry.run, .charge req, number⟩ ∈ next.wire ∧
          (number, some err) ∈ next.payment.answers := by
    intro logged
    obtain ⟨number, message, answered⟩ :=
      refusals entry logged req err received refusal
    exact ⟨number, wireGrows _ message, answersGrow _ answered⟩
  cases transition with
  | order own moved =>
      rcases Order.received_of_transition moved member received with
        logged | ⟨rfl, _⟩
      · exact old logged
      · cases own
  | inventory own moved => exact old member
  | payment own moved => exact old member
  | client permitted delivered =>
      rw [orderSide_of_delivered delivered] at member
      exact old member
  | sent running calls moved delivered =>
      rw [orderSide_of_delivered delivered] at member
      rcases Order.received_of_transition moved member received with
        logged | ⟨isAnswer, _⟩
      · exact old logged
      · cases isAnswer
  | received running calls message answered moved =>
      rcases Order.received_of_transition moved member received with
        logged | ⟨isAnswer, run, found, sends⟩
      · exact old logged
      · cases isAnswer
        rw [running] at found
        cases found
        rw [calls] at sends
        cases sends
        exact ⟨_, message, of_decide_eq_true answered⟩
  | broken moved =>
      rcases Order.received_of_transition moved member received with
        logged | ⟨isAnswer, _⟩
      · exact old logged
      · cases isAnswer
        have noRefusal : err.isRefusal = false := genuine
        rw [noRefusal] at refusal
        cases refusal

theorem told_of_step (told : Told ours system) (genuine : label.Genuine)
    (stepped : step ours system label = some next) : Told ours next := by
  have transition := transition_of_step stepped
  refine ⟨linked_of_transition told.linked transition, ?_, ?_,
    refusals_of_transition told.refusals genuine transition⟩
  · rcases order_of_transition transition with same | ⟨_, ordered, _⟩
    · rw [same]
      exact told.accountable
    · exact Order.accountable_of_transition told.linked.orderSide.ledger
        told.accountable ordered
  · rcases payment_of_step stepped with
      ⟨samePayment, sameCalls⟩ | ⟨moved, paid, calls⟩
    · rw [samePayment, sameCalls]
      exact told.ruled
    · rw [calls]
      exact Payment.ruled_of_step told.ruled paid

theorem closed_of_saga {id : Nat} {order : UUID}
    {reason : Order.OrderFailureReason} (told : Told ours system)
    (transition : Transition ours system label next)
    (closed : Order.Closed system.order id order reason) :
    Order.Closed next.order id order reason := by
  rcases order_of_transition transition with same | ⟨_, ordered, _⟩
  · rw [same]
    exact closed
  · exact Order.closed_of_transition told.linked.orderSide.ledger ordered closed

end Step

theorem told_of_run {labels : List Label} {system final : System uuid}
    (told : Told ours system) (genuine : ∀ label ∈ labels, label.Genuine)
    (ran : run (step ours) system labels = some final) : Told ours final :=
  invariant_of_restricted_run
    (fun held allowed stepped => told_of_step held allowed stepped) told
    (everyStep_of_mem genuine system) ran

theorem closed_of_run {labels : List Label} {system final : System uuid}
    {id : Nat} {order : UUID} {reason : Order.OrderFailureReason}
    (told : Told ours system) (genuine : ∀ label ∈ labels, label.Genuine)
    (closed : Order.Closed system.order id order reason)
    (ran : run (step ours) system labels = some final) :
    Order.Closed final.order id order reason := by
  let kept : System uuid → Prop := fun state =>
    Told ours state ∧ Order.Closed state.order id order reason
  have preserved :
      ∀ {before after : System uuid} {label : Label},
        kept before → label.Genuine → step ours before label = some after →
          kept after := by
    intro before after label held allowed stepped
    exact ⟨told_of_step held.1 allowed stepped,
      closed_of_saga held.1 (transition_of_step stepped) held.2⟩
  have atEnd : kept final :=
    invariant_of_restricted_run preserved ⟨told, closed⟩
      (everyStep_of_mem genuine system) ran
  exact atEnd.2

/-- The order has no successful payment. -/
def Unpaid (system : System uuid) (order : UUID) : Prop :=
  ∀ payment ∈ system.payment.payments, payment.orderId = order →
    payment.status ≠ .succeeded

section Unpaid

variable {system : System uuid} {id : Nat} {order : UUID}

theorem ours_of_logged (linked : Linked ours system) {entry : Order.Entry}
    (logged : entry ∈ system.order.log) : ours entry.orderId = true := by
  have ledger := linked.orderSide.ledger
  obtain ⟨row, stored, same, _⟩ :=
    ledger.stored _ (ledger.origin entry logged) rfl
  have isOurs := linked.orderSide.rows row stored
  rw [same] at isOurs
  exact isOurs

theorem entry_of_charge
    (linked : Linked ours system) (isOurs : ours order = true)
    {call : Payment.Sent} (sent : call ∈ system.chargeCalls)
    (charges : Payment.charges uuid order call.req = true) :
    ∃ entry ∈ system.order.log,
      entry.orderId = order ∧ entry.isCharge = true := by
  have out : 0 < chargeMessages uuid system.wire order :=
    List.countP_pos_iff.mpr ⟨call, sent, charges⟩
  have logged : 0 < chargeEntries system.order.log order :=
    Nat.lt_of_lt_of_le out (linked.exchange.charges order isOurs)
  obtain ⟨entry, member, counted⟩ := List.countP_pos_iff.mp logged
  simp only [Bool.and_eq_true, decide_eq_true_eq] at counted
  exact ⟨entry, member, counted⟩

theorem unpaid_of_uncharged (told : Told ours system) {entry : Order.Entry}
    (logged : entry ∈ system.order.log)
    (uncharged : Order.charges system.order.log entry.run = 0) :
    Unpaid system entry.orderId := by
  intro payment recorded same succeeded
  obtain ⟨call, sent, charges, _⟩ :=
    told.ruled.succeeded payment recorded succeeded
  rw [same] at charges
  obtain ⟨other, otherLogged, about, isCharge⟩ :=
    entry_of_charge told.linked (ours_of_logged told.linked logged) sent
      charges
  have sameRun : other.run = entry.run :=
    Order.run_unique told.linked.orderSide.ledger otherLogged logged about
  have some : 0 < Order.charges system.order.log entry.run := by
    apply List.countP_pos_iff.mpr
    exact ⟨other, otherLogged, by simp [sameRun, isCharge]⟩
  omega

/-- Two charges of an order of ours are one and the same call. -/
theorem charge_unique (linked : Linked ours system) (isOurs : ours order = true)
    {left right : Payment.Sent} (leftSent : left ∈ system.chargeCalls)
    (rightSent : right ∈ system.chargeCalls)
    (leftCharges : Payment.charges uuid order left.req = true)
    (rightCharges : Payment.charges uuid order right.req = true) :
    left = right := by
  have atMostOne : chargeMessages uuid system.wire order ≤ 1 :=
    Nat.le_trans (linked.exchange.charges order isOurs)
      (Order.charges_of_order linked.orderSide.ledger order)
  exact
    eq_of_countP_le_one atMostOne leftSent rightSent leftCharges rightCharges

theorem unpaid_of_refused (told : Told ours system) (isOurs : ours order = true)
    (refused : Order.Refused uuid system.order.log id order) :
    Unpaid system order := by
  obtain ⟨entry, logged, _, req, err, received, refusal, read⟩ := refused
  obtain ⟨number, message, answered⟩ :=
    told.refusals entry logged req err received refusal
  have sent : ⟨number, req⟩ ∈ system.chargeCalls :=
    List.mem_filterMap.mpr ⟨_, message, rfl⟩
  obtain ⟨answeredReq, answeredSent, isDeclined⟩ :=
    told.ruled.refused answered refusal
  have sameCall : (⟨number, answeredReq⟩ : Payment.Sent) = ⟨number, req⟩ :=
    told.linked.serviceSide.accounted.numbered.distinct _ answeredSent _ sent
      rfl
  cases sameCall
  intro payment recorded same succeeded
  obtain ⟨call, callSent, charges, accepted⟩ :=
    told.ruled.succeeded payment recorded succeeded
  rw [same] at charges
  have isCall :=
    charge_unique told.linked isOurs callSent sent charges
      (decide_eq_true read)
  rw [isCall, isDeclined] at accepted
  cases accepted

/-- After a refusal, of the seats or of the payment, nothing was charged. -/
theorem unpaid_of_closed {reason : Order.OrderFailureReason}
    (told : Told ours system)
    (closed : Order.Closed system.order id order reason)
    (promised : Notification.promised reason = true) : Unpaid system order := by
  obtain ⟨entry, logged, rfl, rfl⟩ := closed.logged
  cases reason with
  | seatsUnavailable => exact unpaid_of_uncharged told logged closed.grounds
  | paymentDeclined =>
      exact unpaid_of_refused told (ours_of_logged told.linked logged)
        closed.grounds
  | serviceUnavailable => cases promised
  | unspecified => cases promised

end Unpaid

theorem orderId_of_event {system : System uuid} (linked : Linked ours system)
    {event : Outbox.Row Order.OrderEvent}
    (stored : event ∈ system.order.db.outbox) :
    event.payload.orderId = uuid.string event.key := by
  have consistent := linked.orderSide.ledger.books.consistent
  obtain ⟨row, rowStored, same⟩ :=
    List.mem_map.mp (consistent.known event stored)
  have isAbout : event ∈ Order.announcements system.order.db row.id :=
    List.mem_filter.mpr ⟨stored, decide_eq_true same.symm⟩
  rw [← same]
  exact (consistent.repeats row rowStored event isAbout).order

/-- When the e-mail about a failed order says that nothing was charged, the
order has no successful payment, and never gets one. -/
theorem email_denies_no_charge (plain : uuid.Plain) {labels : List Label}
    {system : System uuid} (genuine : ∀ label ∈ labels, label.Genuine)
    (ran : run (step ours) (System.empty uuid) labels = some system)
    {event : Outbox.Row Order.OrderEvent}
    (stored : event ∈ system.order.db.outbox)
    (failed : event.payload.type = .failed) {mail : Notification.Email}
    (composed : Notification.compose event.payload = some mail)
    (promises : Contains mail.body "You have not been charged.")
    {later : List Label} {final : System uuid}
    (laterGenuine : ∀ label ∈ later, label.Genuine)
    (ranOn : run (step ours) system later = some final) :
    ∀ payment ∈ final.payment.payments, payment.orderId = event.key →
      payment.status ≠ .succeeded := by
  have told := told_of_run told_empty genuine ran
  obtain ⟨id, closed⟩ := told.accountable.events event stored failed
  have noPromise : 'Y' ∉ event.payload.orderId.toList := by
    rw [orderId_of_event told.linked stored]
    exact plain.absent (by decide) (by decide) event.key
  have promised :=
    Notification.promised_of_body failed noPromise composed promises
  exact unpaid_of_closed (told_of_run told laterGenuine ranOn)
    (closed_of_run told laterGenuine closed ranOn) promised

-- The payment of an order is declined.  The reply of the release that follows
-- is lost, and the release takes effect after the order has failed.
private def declinedLabels : List Label :=
  [.inventory (.createEvent ⟨"Concert", 1⟩ 2 [3]),
    .order (.start { Order.buyRequest "" with amountCents := 700 } 9),
    .order (.database 0 .done 20 0),
    .send 0, .inventory (.commitCall 0 30), .inventory (.redis 0 true),
    .inventory (.reply 0), .receive 0 0 none,
    .send 0, .payment (.serve 0 .done 40),
    .receive 0 0 (some (Status.error .failedPrecondition "payment declined")),
    .send 0, .breakdown 0 (Status.error .unavailable "connection lost"),
    .order (.database 0 .done 21 0)]

private def releaseLabels : List Label :=
  [.inventory (.commitCall 1 31)]

theorem email_denies_no_charge_after_a_decline :
    ∃ (system final : System standardText)
      (event : Outbox.Row Order.OrderEvent) (mail : Notification.Email),
      run (step fun id => decide (id = 9)) (System.empty standardText)
          declinedLabels = some system ∧
        event ∈ system.order.db.outbox ∧
        Notification.compose event.payload = some mail ∧
        Contains mail.body "You have not been charged." ∧
        run (step fun id => decide (id = 9)) system releaseLabels = some final ∧
        ∀ payment ∈ final.payment.payments, payment.orderId = event.key →
          payment.status ≠ .succeeded := by
  have ends :
      (run (step fun id => decide (id = 9)) (System.empty standardText)
          declinedLabels).any
        (fun system =>
          (system.order.db.outbox.any fun event =>
              decide (event.payload.type = .failed) &&
                (Notification.compose event.payload).any fun mail =>
                  decide
                    (Contains mail.body "You have not been charged.")) &&
            (run (step fun id => decide (id = 9)) system
              releaseLabels).isSome) = true := by
    decide +kernel
  obtain ⟨system, ran, checked⟩ := (Option.any_eq_true _ _).mp ends
  obtain ⟨someEvent, goesOn⟩ := Bool.and_eq_true_iff.mp checked
  obtain ⟨event, stored, promised⟩ := List.any_eq_true.mp someEvent
  obtain ⟨isFailed, someMail⟩ := Bool.and_eq_true_iff.mp promised
  obtain ⟨mail, composed, isPromise⟩ := (Option.any_eq_true _ _).mp someMail
  obtain ⟨final, ranOn⟩ := Option.isSome_iff_exists.mp goesOn
  have promises := of_decide_eq_true isPromise
  exact ⟨system, final, event, mail, ran, stored, composed, promises, ranOn,
    email_denies_no_charge standardText_plain (by decide) ran stored
      (of_decide_eq_true isFailed) composed promises (by decide) ranOn⟩

end TicketWave.Saga
