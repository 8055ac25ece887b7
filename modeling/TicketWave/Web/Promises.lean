import TicketWave.Library.Registry
import TicketWave.Library.Runs
import TicketWave.Web.Client

/-!
# Calls of the client, continuation by continuation

What a call awaits may settle between any continuations of other calls, and a
continuation may run at any time after that.  `history` only records what was
sent and what came of it.
-/

namespace TicketWave.Web.SingleFlight

open Library

structure SendOptions where
  body : Option String := none
  token : Option String := none
  csrf : Bool := false
  headers : List (String × String) := []

/-- What `fetch` is called with. -/
structure Wire where
  method : String
  path : String
  headers : List (String × String)
  body : Option String
  deriving DecidableEq, Repr

def setHeader (name value : String) (headers : List (String × String)) :
    List (String × String) :=
  (name, value) :: headers.filter fun header => decide (header.1 ≠ name)

def Wire.header (wire : Wire) (name : String) : Option String :=
  wire.headers.lookup name

/-- The request of `send`. -/
def send (method path : String) (opts : SendOptions) : Wire :=
  let headers := opts.headers
  let headers :=
    if opts.body.isSome then
      setHeader "Content-Type" "application/json" headers
    else headers
  let headers :=
    match opts.token with
    | none => headers
    | some token =>
        if token = "" then headers
        else setHeader "Authorization" ("Bearer " ++ token) headers
  let headers :=
    if opts.csrf then setHeader "X-Requested-With" "ticketwave-web" headers
    else headers
  ⟨method, path, headers, opts.body⟩

/-- The request of `refreshSession`. -/
def refreshWire : Wire :=
  send "POST" "/api/auth/refresh" { csrf := true }

/-- The closure of `api`. -/
def attempt (request : ApiRequest) (token : Option String) : Wire :=
  send request.method request.path
    { token := token, body := request.body, headers := request.headers }

/-- How `send` fails: with an `ApiError`, or while the body is read. -/
inductive Failure where
  | api (err : ApiError)
  | other
  deriving DecidableEq, Repr

def Failure.unauthorized : Failure → Bool
  | .api err => decide (err.status = 401)
  | .other => false

abbrev Result := Except Failure Payload

/-- A run of the body of `refreshSession`. -/
inductive Flight where
  | sending
  | settled (result : Bool)
  deriving DecidableEq, Repr

def Flight.isSending (flight : Flight) : Bool :=
  decide (flight = .sending)

/-- What a call of `api` waits for. -/
inductive Stage where
  | first
  | awaiting (flight : Nat)
  | second
  | done
  deriving DecidableEq, Repr

structure Call where
  request : ApiRequest
  stage : Stage
  deriving DecidableEq, Repr

/-- Another caller of `refreshSession`: the promise it was given, and the
result once it has looked. -/
structure Caller where
  flight : Nat
  result : Option Bool
  deriving DecidableEq, Repr

inductive Event where
  | refreshSent (flight : Nat)
  | refreshSettled (flight : Nat) (result : Bool)
  | attemptSent (call : Nat) (wire : Wire)
  | attemptFailed (call : Nat) (failure : Failure)
  | awaited (call flight : Nat)
  deriving DecidableEq

structure Client where
  accessToken : Option String
  inflight : Option Nat
  flights : Registry Flight
  calls : Registry Call
  callers : Registry Caller
  history : List Event

namespace Client

variable (client : Client)

def loaded (token : Option String) : Client where
  accessToken := token
  inflight := none
  flights := Registry.empty
  calls := Registry.empty
  callers := Registry.empty
  history := []

/-- The promise that is returned, and the client then. -/
def refreshSession : Nat × Client :=
  match client.inflight with
  | some flight => (flight, client)
  | none =>
      (client.flights.next,
        { client with
          inflight := some client.flights.next
          flights := client.flights.launch .sending
          history := .refreshSent client.flights.next :: client.history })

/-- Whether the body of `refreshSession` returns true. -/
def succeeded : Result → Bool
  | .ok (.session _) => true
  | .ok .other => false
  | .error _ => false

def refreshedToken : Result → Option String
  | .ok (.session session) => some session.accessToken
  | .ok .other => client.accessToken
  | .error failure => if failure.unauthorized then none else client.accessToken

/-- `send` of the refresh has ended, and the body runs to its end. -/
def settleRefresh (flight : Nat) (result : Result) : Client :=
  { client with
    accessToken := client.refreshedToken result
    inflight := none
    flights := client.flights.put flight (.settled (succeeded result))
    history :=
      .refreshSettled flight (succeeded result) :: client.history }

def putStage (id : Nat) (call : Call) (stage : Stage) : Client :=
  { client with calls := client.calls.put id { call with stage := stage } }

def note (event : Event) : Client :=
  { client with history := event :: client.history }

/-- The first attempt of a call has failed. -/
def failFirst (id : Nat) (call : Call) (failure : Failure) : Client :=
  let noted := client.note (.attemptFailed id failure)
  if failure.unauthorized then
    let awaited := noted.refreshSession
    (awaited.2.note (.awaited id awaited.1)).putStage id call
      (.awaiting awaited.1)
  else
    noted.putStage id call .done

/-- The refresh that a call awaits has settled. -/
def resume (id : Nat) (call : Call) (result : Bool) : Client :=
  if result then
    (client.note
      (.attemptSent id (attempt call.request client.accessToken))).putStage id
        call .second
  else
    client.putStage id call .done

end Client

inductive Label where
  /-- `api` is called -/
  | api (request : ApiRequest)
  /-- `refreshSession` is called by other code -/
  | refreshSession
  | attemptSettles (call : Nat) (result : Result)
  | refreshSettles (flight : Nat) (result : Result)
  | resumes (call : Nat)
  | reports (caller : Nat)
  | setsToken (token : Option String)

def step (client : Client) : Label → Option Client
  | .api request =>
      some
        { client with
          calls := client.calls.launch ⟨request, .first⟩
          history :=
            .attemptSent client.calls.next
              (attempt request client.accessToken) :: client.history }
  | .refreshSession =>
      let started := client.refreshSession
      some
        { started.2 with
          callers := started.2.callers.launch ⟨started.1, none⟩ }
  | .attemptSettles id result =>
      match client.calls.get id with
      | some ⟨request, .first⟩ =>
          match result with
          | .ok _ => some (client.putStage id ⟨request, .first⟩ .done)
          | .error failure =>
              some (client.failFirst id ⟨request, .first⟩ failure)
      | some ⟨request, .second⟩ =>
          some (client.putStage id ⟨request, .second⟩ .done)
      | _ => none
  | .refreshSettles flight result =>
      match client.flights.get flight with
      | some .sending => some (client.settleRefresh flight result)
      | _ => none
  | .resumes id =>
      match client.calls.get id with
      | some ⟨request, .awaiting flight⟩ =>
          match client.flights.get flight with
          | some (.settled result) =>
              some (client.resume id ⟨request, .awaiting flight⟩ result)
          | _ => none
      | _ => none
  | .reports id =>
      match client.callers.get id with
      | some ⟨flight, none⟩ =>
          match client.flights.get flight with
          | some (.settled result) =>
              some
                { client with
                  callers := client.callers.put id ⟨flight, some result⟩ }
          | _ => none
      | _ => none
  | .setsToken token => some { client with accessToken := token }

inductive Transition (client : Client) : Label → Client → Prop
  | called (request : ApiRequest) :
      Transition client (.api request)
        { client with
          calls := client.calls.launch ⟨request, .first⟩
          history :=
            .attemptSent client.calls.next
              (attempt request client.accessToken) :: client.history }
  | asked :
      Transition client .refreshSession
        { client.refreshSession.2 with
          callers :=
            client.refreshSession.2.callers.launch
              ⟨client.refreshSession.1, none⟩ }
  | answered
      {id : Nat} {call : Call} {result : Result}
      (found : client.calls.get id = some call) :
      Transition client (.attemptSettles id result)
        (client.putStage id call .done)
  | failed
      {id : Nat} {request : ApiRequest} {failure : Failure}
      (found : client.calls.get id = some ⟨request, .first⟩) :
      Transition client (.attemptSettles id (.error failure))
        (client.failFirst id ⟨request, .first⟩ failure)
  | settled
      {flight : Nat} {result : Result}
      (found : client.flights.get flight = some .sending) :
      Transition client (.refreshSettles flight result)
        (client.settleRefresh flight result)
  | resumed
      {id flight : Nat} {request : ApiRequest} {result : Bool}
      (found : client.calls.get id = some ⟨request, .awaiting flight⟩)
      (isSettled : client.flights.get flight = some (.settled result)) :
      Transition client (.resumes id)
        (client.resume id ⟨request, .awaiting flight⟩ result)
  | reported
      {id flight : Nat} {result : Bool}
      (found : client.callers.get id = some ⟨flight, none⟩)
      (isSettled : client.flights.get flight = some (.settled result)) :
      Transition client (.reports id)
        { client with
          callers := client.callers.put id ⟨flight, some result⟩ }
  | changed (token : Option String) :
      Transition client (.setsToken token) { client with accessToken := token }

theorem transition_of_step {client next : Client} {label : Label}
    (stepped : step client label = some next) :
    Transition client label next := by
  cases label with
  | api request =>
      cases stepped
      exact .called request
  | refreshSession =>
      cases stepped
      exact .asked
  | attemptSettles id result =>
      simp only [step] at stepped
      split at stepped
      · rename_i request found
        split at stepped
        · cases stepped
          exact .answered found
        · cases stepped
          exact .failed found
      · rename_i request found
        cases stepped
        exact .answered found
      · cases stepped
  | refreshSettles flight result =>
      simp only [step] at stepped
      split at stepped
      · rename_i found
        cases stepped
        exact .settled found
      · cases stepped
  | resumes id =>
      simp only [step] at stepped
      split at stepped
      · rename_i request flight found
        split at stepped
        · rename_i result isSettled
          cases stepped
          exact .resumed found isSettled
        · cases stepped
      · cases stepped
  | reports id =>
      simp only [step] at stepped
      split at stepped
      · rename_i flight found
        split at stepped
        · rename_i result isSettled
          cases stepped
          exact .reported found isSettled
        · cases stepped
      · cases stepped
  | setsToken token =>
      cases stepped
      exact .changed token

end TicketWave.Web.SingleFlight
