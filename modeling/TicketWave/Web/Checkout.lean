import TicketWave.Saga.Notices
import TicketWave.Web.Format

/-! # What the checkout page says about the charge -/

namespace TicketWave.Web

open Library TicketWave.Saga

variable {uuid : UuidText} {ours : UUID → Bool}

def notCharged : String := "You were not charged"

/-- An answer that blames nothing is shown without the promise. -/
theorem silent_of_unexplained
    {answer : Status} (unexplained : Order.Unexplained answer) :
    ¬ Contains (describe answer) notCharged := by
  rcases unexplained with rfl | ⟨text, rfl⟩
  · decide +kernel
  · rw [describe_wrapped]
    decide +kernel

/-- When the page says that the buyer was not charged, and the charge of the
order did not end with an error other than a refusal, the order has no
successful payment, and never gets one. -/
theorem checkout_denies_no_charge {labels : List Label} {system : System uuid}
    (genuine : ∀ label ∈ labels, label.Genuine)
    (ran : run (step ours) (System.empty uuid) labels = some system) {id : Nat}
    {request : Order.Run uuid} {answer : Status}
    (found : system.order.runs.get id = some request)
    (created : request.entry id .inserted ∈ system.order.log)
    (returned : request.stage = .returned (.error answer))
    (promises : Contains (describe answer) "You were not charged")
    (unbroken : ¬ Order.Broke system.order.log id) {later : List Label}
    {final : System uuid} (laterGenuine : ∀ label ∈ later, label.Genuine)
    (ranOn : run (step ours) system later = some final) :
    ∀ payment ∈ final.payment.payments, payment.orderId = request.orderId →
      payment.status ≠ .succeeded := by
  have told := told_of_run told_empty genuine ran
  have toldLater := told_of_run told laterGenuine ranOn
  have denied :
      ∀ {reason : Order.OrderFailureReason},
        Order.Closed system.order id request.orderId reason →
        Notification.promised reason = true → Unpaid final request.orderId := by
    intro reason closed promised
    exact unpaid_of_closed toldLater
      (closed_of_run told laterGenuine closed ranOn) promised
  rcases Order.closed_of_returned told.accountable found returned created with
    unexplained | ⟨reason, _, closed⟩
  · exact absurd promises (silent_of_unexplained unexplained)
  · cases reason with
    | seatsUnavailable => exact denied closed rfl
    | paymentDeclined => exact denied closed rfl
    | serviceUnavailable => exact denied (closed.uncharged unbroken) rfl
    | unspecified => exact closed.grounds.elim

-- inventory-svc cannot be reached: the reservation and the release break, and
-- the reservation takes effect after the buyer has been answered.
private def unreachableLabels : List Label :=
  [.inventory (.createEvent ⟨"Concert", 1⟩ 2 [3]),
    .order (.start (Order.buyRequest "") 9),
    .order (.database 0 .done 20 0),
    .send 0, .breakdown 0 (Status.error .unavailable "connection lost"),
    .send 0, .breakdown 0 (Status.error .unavailable "connection lost"),
    .order (.database 0 .done 21 0)]

private def reservedLabels : List Label :=
  [.inventory (.commitCall 0 30)]

theorem checkout_denies_no_charge_without_inventory :
    ∃ (system final : System standardText) (request : Order.Run standardText)
      (answer : Status),
      run (step fun id => decide (id = 9)) (System.empty standardText)
          unreachableLabels = some system ∧
        request.stage = .returned (.error answer) ∧
        Contains (describe answer) "You were not charged" ∧
        run (step fun id => decide (id = 9)) system reservedLabels =
          some final ∧
        ∀ payment ∈ final.payment.payments,
          payment.orderId = request.orderId → payment.status ≠ .succeeded := by
  have ends :
      (run (step fun id => decide (id = 9)) (System.empty standardText)
          unreachableLabels).any
        (fun system =>
          ((system.order.runs.get 0).any fun request =>
              decide
                (request.stage =
                    .returned (.error Order.errServiceUnavailable) ∧
                  request.entry 0 .inserted ∈ system.order.log)) &&
            decide (¬ Order.Broke system.order.log 0) &&
            (run (step fun id => decide (id = 9)) system
              reservedLabels).isSome) = true := by
    decide +kernel
  obtain ⟨system, ran, checked⟩ := (Option.any_eq_true _ _).mp ends
  obtain ⟨answered, goesOn⟩ := Bool.and_eq_true_iff.mp checked
  obtain ⟨someRun, isUnbroken⟩ := Bool.and_eq_true_iff.mp answered
  obtain ⟨request, found, isAnswer⟩ := (Option.any_eq_true _ _).mp someRun
  obtain ⟨returned, created⟩ := of_decide_eq_true isAnswer
  obtain ⟨final, ranOn⟩ := Option.isSome_iff_exists.mp goesOn
  have promises :
      Contains (describe Order.errServiceUnavailable)
        "You were not charged" := by
    decide +kernel
  exact ⟨system, final, request, _, ran, returned, promises, ranOn,
    checkout_denies_no_charge (by decide) ran found created returned
      promises (of_decide_eq_true isUnbroken) (by decide) ranOn⟩

-- The charge takes effect and its reply is lost.
private def lostReplyLabels : List Label :=
  [.inventory (.createEvent ⟨"Concert", 1⟩ 2 [3]),
    .order (.start (Order.buyRequest "") 9),
    .order (.database 0 .done 20 0),
    .send 0, .inventory (.commitCall 0 30), .inventory (.redis 0 true),
    .inventory (.reply 0), .receive 0 0 none,
    .send 0, .payment (.serve 0 .done 40),
    .breakdown 0 (Status.error .unavailable "connection lost"),
    .send 0, .inventory (.commitCall 1 31), .inventory (.redis 1 true),
    .inventory (.reply 1), .receive 0 1 none,
    .order (.database 0 .done 21 0)]

theorem lost_reply_of_a_charge_is_denied :
    ∃ (system : System standardText) (request : Order.Run standardText)
      (answer : Status),
      (∀ label ∈ lostReplyLabels, label.Genuine) ∧
        run (step fun id => decide (id = 9)) (System.empty standardText)
          lostReplyLabels = some system ∧
        system.order.runs.get 0 = some request ∧
        request.entry 0 .inserted ∈ system.order.log ∧
        request.stage = .returned (.error answer) ∧
        Contains (describe answer) "You were not charged" ∧
        ∃ payment ∈ system.payment.payments,
          payment.orderId = request.orderId ∧ payment.status = .succeeded := by
  have ends :
      (run (step fun id => decide (id = 9)) (System.empty standardText)
          lostReplyLabels).any
        (fun system =>
          (system.order.runs.get 0).any fun request =>
            decide
              (request.stage =
                  .returned (.error Order.errServiceUnavailable) ∧
                request.entry 0 .inserted ∈ system.order.log ∧
                ∃ payment ∈ system.payment.payments,
                  payment.orderId = request.orderId ∧
                    payment.status = .succeeded)) = true := by
    decide +kernel
  obtain ⟨system, ran, someRun⟩ := (Option.any_eq_true _ _).mp ends
  obtain ⟨request, found, checked⟩ := (Option.any_eq_true _ _).mp someRun
  obtain ⟨returned, created, paid⟩ := of_decide_eq_true checked
  exact ⟨system, request, _, by decide, ran, found, created, returned,
    by decide +kernel, paid⟩

end TicketWave.Web
