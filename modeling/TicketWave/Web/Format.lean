import TicketWave.Gateway.Respond

/-! # What the page shows of an error -/

namespace TicketWave.Web

structure ApiError where
  status : Nat
  code : String
  message : String
  deriving DecidableEq, Repr

/-- The member `error` of a body that could be parsed. -/
structure ErrorEnvelope where
  code : Option String
  message : Option String
  deriving DecidableEq, Repr

/-- What `send` throws when the answer is not ok. -/
def apiError (status : Nat) (env : Option ErrorEnvelope) : ApiError where
  status := status
  code := (env.bind ErrorEnvelope.code).getD "unknown"
  message :=
    (env.bind ErrorEnvelope.message).getD
      ("Request failed (" ++ toString status ++ ")")

/-- The gateway's answer as the page receives it. -/
def received (answer : Gateway.HttpError) : ApiError :=
  apiError answer.status (some ⟨some answer.code, some answer.message⟩)

def messages : List (String × String) :=
  [("network_error",
      "Cannot reach the server. Check your connection and try again."),
    ("seats_unavailable",
      "Someone got there first. Those seats are no longer available; " ++
        "pick different ones."),
    ("payment_declined",
      "Your payment was declined. You were not charged and the seats were " ++
        "released."),
    ("service_unavailable",
      "Something on our side is down. You were not charged. Please try " ++
        "again in a moment."),
    ("timeout", "That took too long. Please try again."),
    ("rate_limited", "Too many attempts. Wait a moment and try again."),
    ("already_exists", "An account with that email already exists."),
    ("unauthenticated", "Wrong email or password.")]

/-- `describeError` of an `ApiError`. -/
def describeError (err : ApiError) : String :=
  (messages.lookup err.code).getD err.message

/-- The text shown for an error of a service. -/
def describe (err : Status) : String :=
  describeError (received (Gateway.httpError err))

theorem describe_wrapped (text : String) :
    describe (Status.wrapped text) = "internal error" := by
  unfold describe
  rw [Gateway.httpError_wrapped]
  decide +kernel

end TicketWave.Web
