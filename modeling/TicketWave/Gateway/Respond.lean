import TicketWave.Status

/-!
# Answers of the gateway

`httpError` of `services/gateway/internal/httpapi`.
-/

namespace TicketWave.Gateway

/-- An answer that `writeError` sends; `code` and `message` are the fields of
the error envelope. -/
structure HttpError where
  status : Nat
  code : String
  message : String
  deriving DecidableEq, Repr

/-- The part of `httpError` that goes by the code of the status.  An error
that reached the gateway over gRPC always is a status. -/
def httpErrorOfCode (err : Status) : HttpError :=
  match err.code with
  | .invalidArgument => ⟨400, "invalid_argument", err.message⟩
  | .unauthenticated => ⟨401, "unauthenticated", err.message⟩
  | .permissionDenied => ⟨403, "permission_denied", err.message⟩
  | .notFound => ⟨404, "not_found", err.message⟩
  | .alreadyExists => ⟨409, "already_exists", err.message⟩
  | .failedPrecondition => ⟨409, "conflict", err.message⟩
  | .resourceExhausted => ⟨429, "rate_limited", err.message⟩
  | .unavailable =>
      ⟨503, "service_unavailable",
        "the service is temporarily unavailable, please try again"⟩
  | .deadlineExceeded =>
      ⟨504, "timeout", "the request took too long, please try again"⟩
  | .canceled => ⟨499, "canceled", "request canceled"⟩
  | .ok | .unknown | .aborted | .outOfRange | .unimplemented | .internal
  | .dataLoss => ⟨500, "internal", "internal error"⟩

def httpError (err : Status) : HttpError :=
  if err.reason = "SEATS_UNAVAILABLE" then
    ⟨409, "seats_unavailable",
      "one or more of those seats are no longer available"⟩
  else if err.reason = "PAYMENT_DECLINED" then
    ⟨402, "payment_declined", "your payment was declined"⟩
  else if err.reason = "SERVICE_UNAVAILABLE" then
    ⟨503, "service_unavailable",
      "the service is temporarily unavailable, please try again"⟩
  else if err.reason = "REQUEST_IN_PROGRESS" then
    ⟨409, "request_in_progress",
      "a request with this Idempotency-Key is still being processed; " ++
        "wait a moment and retry it"⟩
  else if err.reason = "IDEMPOTENCY_KEY_REUSED" then
    ⟨422, "idempotency_key_reused",
      "this Idempotency-Key was already used for a different request"⟩
  else
    httpErrorOfCode err

theorem httpError_wrapped (text : String) :
    httpError (Status.wrapped text) = ⟨500, "internal", "internal error"⟩ :=
  rfl

end TicketWave.Gateway
