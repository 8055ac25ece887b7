import TicketWave.Library.Attempt
import TicketWave.Library.Registry
import TicketWave.Status

/-!
# Payment

`Charge` of payment-svc and the service around it.
-/

namespace TicketWave.Payment

open Library

inductive PaymentStatus where
  | succeeded
  | failed
  deriving DecidableEq, Repr

structure PaymentRow where
  id : UUID
  orderId : UUID
  amountCents : Int
  status : PaymentStatus
  deriving DecidableEq, Repr

structure ChargeRequest where
  orderId : String
  amountCents : Int
  deriving DecidableEq, Repr

/-- The fake processor declines every multiple of seven cents.  Go's `%`
truncates. -/
def declined (req : ChargeRequest) : Bool :=
  decide (req.amountCents.tmod 7 = 0)

def insertPayment (uuid : UuidText) (payments : List PaymentRow)
    (req : ChargeRequest) (paymentId : UUID) (status : PaymentStatus)
    (failure : String) : Except Status (List PaymentRow) :=
  match uuid.column req.orderId with
  | none => .error (Status.wrapped failure)
  | some order =>
      if paymentId ∈ payments.map PaymentRow.id then
        .error (Status.wrapped failure)
      else
        .ok (payments ++ [⟨paymentId, order, req.amountCents, status⟩])

/-- `Charge`, with `outcome` the fate of its `INSERT`: the payments afterwards
and the answer, `none` standing for success. -/
def charge (uuid : UuidText) (payments : List PaymentRow) (req : ChargeRequest)
    (outcome : Outcome) (paymentId : UUID) : List PaymentRow × Option Status :=
  if declined req then
    let failure := "record failed payment"
    let insert :=
      attempt outcome payments
        (insertPayment uuid payments req paymentId .failed failure)
        (Status.wrapped failure)
    match insert.error with
    | some err => (insert.db, some err)
    | none =>
        (insert.db, some (Status.error .failedPrecondition "payment declined"))
  else
    let failure := "record successful payment"
    let insert :=
      attempt outcome payments
        (insertPayment uuid payments req paymentId .succeeded failure)
        (Status.wrapped failure)
    match insert.error with
    | some err => (insert.db, some err)
    | none => (insert.db, none)

structure State where
  payments : List PaymentRow
  calls : Registry ChargeRequest
  answers : List (Nat × Option Status)

def State.empty : State where
  payments := []
  calls := Registry.empty
  answers := []

inductive Label where
  | beginCall (req : ChargeRequest)
  | serve (call : Nat) (outcome : Outcome) (paymentId : UUID)
  | drop (call : Nat)

def step (uuid : UuidText) (state : State) : Label → Option State
  | .beginCall req => some { state with calls := state.calls.launch req }
  | .serve id outcome paymentId =>
      match state.calls.get id with
      | none => none
      | some req =>
          let served := charge uuid state.payments req outcome paymentId
          some
            { payments := served.1
              calls := state.calls.finish id
              answers := (id, served.2) :: state.answers }
  | .drop id =>
      match state.calls.get id with
      | none => none
      | some _ => some { state with calls := state.calls.finish id }

end TicketWave.Payment
