import TicketWave.Library.Text
import TicketWave.Order.Model

/-! # E-mails about orders -/

namespace TicketWave.Notification

open Library TicketWave.Order

structure Email where
  /-- the field `To` -/
  recipient : String
  subject : String
  body : String
  deriving DecidableEq, Repr

/-- The verb `%02d`, for numbers of at most two digits. -/
def twoDigits (number : Int) : String :=
  if (toString number).length < 2 then "0" ++ toString number
  else toString number

/-- `money`; Go's division truncates. -/
def money (cents : Int) : String :=
  toString (cents.tdiv 100) ++ "." ++ twoDigits (cents.tmod 100)

def reasonText : OrderFailureReason → String
  | .seatsUnavailable => "the seats are no longer available"
  | .paymentDeclined => "your payment was declined"
  | .serviceUnavailable => "one of our services was temporarily unavailable"
  | .unspecified => "of an unexpected problem"

def notCharged : String := "You have not been charged."

def chargeNote : OrderFailureReason → String
  | .seatsUnavailable => notCharged
  | .paymentDeclined => notCharged
  | .serviceUnavailable | .unspecified =>
      "Please try again. If you see a charge for this order, contact " ++
        "support and we will refund it."

def compose (ev : OrderEvent) : Option Email :=
  match ev.type with
  | .confirmed =>
      some
        { recipient := ev.userId
          subject := "Your tickets are confirmed"
          body :=
            "Order " ++ ev.orderId ++ " is confirmed: " ++
              toString ev.seatIds.length ++ " seat(s), " ++
              money ev.amountCents ++ " charged." }
  | .failed =>
      some
        { recipient := ev.userId
          subject := "We couldn't complete your order"
          body :=
            "Order " ++ ev.orderId ++ " was not completed because " ++
              reasonText ev.failureReason ++ ". " ++
              chargeNote ev.failureReason }
  | .unspecified | .created => none

example : money 1905 = "19.05" := by decide +kernel

theorem compose_of_type
    {ev : OrderEvent} (mailed : ev.type = .confirmed ∨ ev.type = .failed) :
    ∃ mail, compose ev = some mail := by
  rcases mailed with isConfirmed | isFailed
  · exact ⟨_, by rw [compose, isConfirmed]⟩
  · exact ⟨_, by rw [compose, isFailed]⟩

/-- The failure is one after which the mail says that nothing was charged. -/
def promised : OrderFailureReason → Bool
  | .seatsUnavailable => true
  | .paymentDeclined => true
  | .serviceUnavailable => false
  | .unspecified => false

/-- A mail about a failure makes the promise for two reasons only, unless the
order ID spells it. -/
theorem promised_of_body
    {ev : OrderEvent} {mail : Email} (failed : ev.type = .failed)
    (plain : 'Y' ∉ ev.orderId.toList) (composed : compose ev = some mail)
    (promises : Contains mail.body notCharged) :
    promised ev.failureReason = true := by
  have body :
      mail.body =
        "Order " ++ ev.orderId ++ " was not completed because " ++
          reasonText ev.failureReason ++ ". " ++
          chargeNote ev.failureReason := by
    unfold compose at composed
    rw [failed] at composed
    cases composed
    rfl
  have needed : 'Y' ∈ notCharged.toList := by
    decide +kernel
  cases isPromised : promised ev.failureReason with
  | true => rfl
  | false =>
      have silent :
          'Y' ∉ (reasonText ev.failureReason).toList ∧
            'Y' ∉ (chargeNote ev.failureReason).toList := by
        cases reason : ev.failureReason with
        | seatsUnavailable =>
            rw [reason] at isPromised
            cases isPromised
        | paymentDeclined =>
            rw [reason] at isPromised
            cases isPromised
        | serviceUnavailable => decide +kernel
        | unspecified => decide +kernel
      have absent : 'Y' ∉ mail.body.toList := by
        rw [body]
        simp only [char_mem_append, not_or]
        refine ⟨⟨⟨⟨⟨?_, plain⟩, ?_⟩, silent.1⟩, ?_⟩, silent.2⟩ <;>
          decide +kernel
      exact absurd promises (not_contains_of_char needed absent)

end TicketWave.Notification
