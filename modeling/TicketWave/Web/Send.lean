import TicketWave.Checkout.Page
import TicketWave.Gateway.Guards
import TicketWave.Web.Answers
import TicketWave.Web.Reactions

/-!
# The page and the gateway

`send` and `api` with the gateway at the other end of the line.
-/

namespace TicketWave.Web

open Library Library.Asking TicketWave.Gateway.Api
open SingleFlight (Client Failure Result Wire refreshWire wires)

/-- How far a request gets: `fetch` rejects before or after it was served, or
the body of the answer breaks off. -/
inductive Line where
  | up
  | unreached
  | unanswered
  | brokenOff

/-- A URL, taken apart. -/
structure Target where
  path : List String
  limit : String
  rawPath : List String
  rawQuery : String

/-- The line and what the browser adds to a request. -/
structure Connection where
  line : Line
  target : String → Target
  cookie : String → Option String
  remoteAddr : String

def fetched (connection : Connection) (wire : Wire) :
    Gateway.Api.Request where
  method := wire.method
  path := (connection.target wire.path).path
  header := fun name => (wire.header name).getD ""
  cookie := connection.cookie
  limit := (connection.target wire.path).limit
  remoteAddr := connection.remoteAddr
  body := wire.body.getD ""
  context := ⟨"", none⟩
  rawPath := (connection.target wire.path).rawPath
  rawQuery := (connection.target wire.path).rawQuery

def property (name : String) : Json → Option Json
  | .object members => members.lookup name
  | _ => none

def asText : Json → Option String
  | .string text => some text
  | _ => none

def envelope (payload : Json) : Option ErrorEnvelope :=
  (property "error" payload).map fun detail =>
    ⟨(property "code" detail).bind asText,
      (property "message" detail).bind asText⟩

abbrev Outcome := Except Checkout.Thrown (Option Json)

/-- What `send` returns or throws for an answer. -/
def settled (response : Response) : Outcome :=
  if response.status = 204 then
    .ok none
  else if 200 ≤ response.status ∧ response.status ≤ 299 then
    .ok response.body
  else
    .error (.api (apiError response.status (response.body.bind envelope)))

def arrived : Line → Response → Outcome
  | .up, response => settled response
  | .brokenOff, response =>
      if response.status = 204 then .ok none else .error .other
  | _, _ => .error (.api networkError)

section Sending

variable (gateway : API)

/-- `send`, once it has built its request. -/
def sent (connection : Connection) (wire : Wire) :
    Program Outcome :=
  match connection.line with
  | .unreached => pure (.error (.api networkError))
  | line => do
      let response ← serve gateway (fetched connection wire)
      pure (arrived line response)

/-- The access token of the store after a refresh; a body that is missing
makes `setSession` throw. -/
def refreshSession (connection : Connection) :
    Program (Option (Option String)) := do
  match ← sent gateway connection refreshWire with
  | .ok payload =>
      pure
        (payload.map fun session =>
          (property "access_token" session).bind asText)
  | .error _ => pure none

def attempt (call : ApiRequest) (connection : Connection)
    (token : Option String) : Program Outcome :=
  sent gateway connection (SingleFlight.attempt call token)

/-- What `api` makes of its first request. -/
def retried (call : ApiRequest) (renewal second : Connection) :
    Outcome → Program Outcome
  | .error (.api err) =>
      if err.status ≠ 401 then
        pure (.error (.api err))
      else do
        match ← refreshSession gateway renewal with
        | none => pure (.error (.api err))
        | some renewed => attempt gateway call second renewed
  | outcome => pure outcome

/-- `api`, with the token of the store and the connections of its requests. -/
def apiThrough (call : ApiRequest) (token : Option String)
    (first renewal second : Connection) : Program Outcome := do
  retried gateway call renewal second (← attempt gateway call first token)

end Sending

theorem settled_errorBody {response : Response} {err : Gateway.HttpError}
    (isStatus : response.status = err.status)
    (isBody : response.body = some (errorBody err))
    (failed : 400 ≤ err.status) :
    settled response = .error (.api (received err)) := by
  unfold settled
  rw [isStatus, isBody, if_neg (by omega), if_neg (by omega)]
  rfl

theorem failed_httpError (err : Status) :
    400 ≤ (Gateway.httpError err).status := by
  unfold Gateway.httpError
  split_ifs
  any_goals decide
  unfold Gateway.httpErrorOfCode
  cases err.code <;> exact Nat.le_of_ble_eq_true rfl

theorem deadline_of_status
    {fault : Status} (late : (Gateway.httpError fault).status = 504) :
    fault.code = .deadlineExceeded := by
  unfold Gateway.httpError at late
  split_ifs at late
  any_goals cases late
  unfold Gateway.httpErrorOfCode at late
  cases isCode : fault.code with
  | deadlineExceeded => rfl
  | _ =>
      rw [isCode] at late
      cases late

section Errors

variable {gateway : API} {r : Gateway.Api.Request} {history : List Exchange}
  {response : Response}

/-- Whatever goes wrong in the gateway or behind it, the page throws with the
status, the code and the message that the gateway chose.  It takes the outcome
for unknown only after a call of a service ran out of time. -/
theorem page_learns_what_went_wrong
    (ran : Runs (serve gateway r) history response)
    (taken : r.route.taken = true) :
    (∃ payload, settled response = .ok payload) ∨
      ∃ err : Gateway.HttpError,
        response.status = err.status ∧
        response.body = some (errorBody err) ∧
        settled response = .error (.api ⟨err.status, err.code, err.message⟩) ∧
        (400 ≤ err.status ∧ err.status < 500 ∨
          ∃ id rpc fault,
            (⟨.call id rpc, .error fault⟩ : Exchange) ∈ history ∧
              err = Gateway.httpError fault) ∧
        (Checkout.isUnknownOutcome
            (.api ⟨err.status, err.code, err.message⟩) = true →
          ∃ id rpc fault,
            (⟨.call id rpc, .error fault⟩ : Exchange) ∈ history ∧
              fault.code = .deadlineExceeded) := by
  obtain ⟨_, _, passable, _⟩ := good_of_runs ran
  have told := (passable.fitting taken).told
  generalize isStatus : response.status = status at told
  generalize isBody : response.body = body at told
  cases told with
  | well good =>
      refine Or.inl ?_
      unfold settled
      rw [isStatus]
      by_cases empty : status = 204
      · exact ⟨_, if_pos empty⟩
      · rw [if_neg empty]
        exact ⟨_, if_pos (by omega)⟩
  | own err client =>
      refine Or.inr
        ⟨err, rfl, rfl, settled_errorBody isStatus isBody client.1,
          Or.inl client, ?_⟩
      intro unknown
      have isUnknown := of_decide_eq_true unknown
      dsimp only at isUnknown
      omega
  | @service id rpc fault failed =>
      have least := failed_httpError fault
      refine Or.inr
        ⟨_, rfl, rfl, settled_errorBody isStatus isBody least,
          Or.inr ⟨id, rpc, fault, failed, rfl⟩, ?_⟩
      intro unknown
      have isUnknown := of_decide_eq_true unknown
      dsimp only at isUnknown
      exact ⟨id, rpc, fault, failed, deadline_of_status (by omega)⟩

/-- order-svc is down, and the page says so. -/
theorem page_learns_that_order_failed :
    ∃ history response,
      Runs (serve plainApi orderRequest) history response ∧
        ∃ err : Gateway.HttpError,
          err.status = 503 ∧ response.body = some (errorBody err) ∧
            settled response =
              .error (.api ⟨err.status, err.code, err.message⟩) := by
  have ran := runs_play plainAnswers [] (serve plainApi orderRequest)
  have isDown :
      (play plainAnswers [] (serve plainApi orderRequest)).2.status = 503 := by
    decide +kernel
  refine ⟨_, _, ran, ?_⟩
  rcases page_learns_what_went_wrong ran (by decide +kernel) with
    ⟨payload, isOk⟩ | ⟨err, isStatus, isBody, isThrown, _⟩
  · unfold settled at isOk
    rw [isDown] at isOk
    cases isOk
  · exact ⟨err, isStatus.symm.trans isDown, isBody, isThrown⟩

end Errors

/-- An order that order-svc was called for, with its answer. -/
abbrev OrderCall :=
  Order.CreateOrderRequest × Except Status Order.CreateOrderResponse

def orderCall : Exchange → Option OrderCall
  | ⟨.call _ (.createOrder req), answer⟩ => some (req, answer)
  | _ => none

def orderCalls (history : List Exchange) : List OrderCall :=
  history.filterMap orderCall

theorem of_orderCall {exchange : Exchange} {req : Order.CreateOrderRequest}
    {answer : Except Status Order.CreateOrderResponse}
    (called : orderCall exchange = some (req, answer)) :
    ∃ id, exchange = ⟨.call id (.createOrder req), answer⟩ := by
  match exchange, called with
  | ⟨.call id (.createOrder _), _⟩, called =>
      cases called
      exact ⟨id, rfl⟩

theorem follows_of_isCall {gateway : API} {r : Gateway.Api.Request}
    {id : String} {seen : List Exchange} {exchange : Exchange}
    (inOrder : InOrder gateway r id seen exchange.question)
    (isCalled : isCall exchange = true) :
    ∃ rpc, Gateway.Api.Follows seen rpc := by
  match exchange, inOrder, isCalled with
  | ⟨.call _ rpc, _⟩, inOrder, _ => exact ⟨rpc, inOrder.2.2.2⟩

section Retry

variable {gateway : API} {history : List Exchange} {r : Gateway.Api.Request}
  {response : Response} {call : ApiRequest} {connection : Connection}
  {outcome : Outcome}

theorem alone_of_order (ran : Runs (serve gateway r) history response)
    {before after : List Exchange} {id : String}
    {req : Order.CreateOrderRequest}
    {answer : Except Status Order.CreateOrderResponse}
    (split :
      history = before ++ ⟨.call id (.createOrder req), answer⟩ :: after) :
    ∀ exchange ∈ before ++ after, isCall exchange = false := by
  obtain ⟨_, _, _, inOrder⟩ := good_of_runs ran
  intro exchange member
  by_contra noCall
  have isCalled : isCall exchange = true := Bool.eq_true_of_not_eq_false noCall
  rcases List.mem_append.mp member with isBefore | isAfter
  · obtain ⟨_, _, _, follows⟩ := inOrder _ _ _ split
    obtain ⟨_, _, _, _, other⟩ := follows exchange isBefore isCalled
    cases other
  · obtain ⟨between, rest, rfl⟩ := List.append_of_mem isAfter
    rw [← List.cons_append, ← List.append_assoc] at split
    obtain ⟨rpc, follows⟩ := follows_of_isCall (inOrder _ _ _ split) isCalled
    obtain ⟨_, _, _, other, _⟩ :=
      follows ⟨.call id (.createOrder req), answer⟩
        (List.mem_append_right _ List.mem_cons_self) rfl
    cases other

theorem orderCall_of_noCall {exchange : Exchange}
    (noCall : isCall exchange = false) : orderCall exchange = none := by
  match exchange, noCall with
  | ⟨.newString, _⟩, _ => rfl
  | ⟨.verify _, _⟩, _ => rfl
  | ⟨.allow _ _ _, _⟩, _ => rfl

theorem unauthenticated_of_order (ran : Runs (serve gateway r) history response)
    {before after : List Exchange} {id : String}
    {req : Order.CreateOrderRequest}
    {answer : Except Status Order.CreateOrderResponse}
    (split : history = before ++ ⟨.call id (.createOrder req), answer⟩ :: after)
    (unauthenticated : response.status = 401) :
    ∃ fault, answer = .error fault ∧ fault.code = .unauthenticated := by
  have isOrder :
      (⟨.call id (.createOrder req), answer⟩ : Exchange) ∈ history := by
    rw [split]
    exact List.mem_append_right _ List.mem_cons_self
  obtain ⟨_, _, passable, _⟩ := good_of_runs ran
  have taken : r.route.taken = true := by
    by_contra notTaken
    have moved := passable.moved (Bool.eq_false_of_not_eq_true notTaken)
    cases moved.unasked _ isOrder
  have told := (passable.fitting taken).told
  rw [unauthenticated] at told
  generalize isStatus : (401 : Nat) = status at told
  generalize response.body = body at told
  cases told with
  | well good => omega
  | own err client early => cases early isStatus.symm _ isOrder
  | @service otherId rpc fault failed =>
      have isFault := unauthenticated_of_status isStatus.symm
      rw [split] at failed
      rcases List.mem_append.mp failed with isBefore | isAfter
      · have isOther :=
          alone_of_order ran split _ (List.mem_append_left _ isBefore)
        cases isOther
      · cases isAfter with
        | head => exact ⟨fault, rfl, isFault⟩
        | tail _ isAfter =>
            have isOther :=
              alone_of_order ran split _ (List.mem_append_right _ isAfter)
            cases isOther

/-- One order was placed at most, and a request that is unauthenticated after
it is so because order-svc said so. -/
def PlacesOne (history : List Exchange)
    (placed : Order.CreateOrderRequest → Prop) (unauthenticated : Prop) :
    Prop :=
  orderCalls history = [] ∨
    ∃ req answer, orderCalls history = [(req, answer)] ∧ placed req ∧
      (unauthenticated →
        ∃ fault, answer = .error fault ∧ fault.code = .unauthenticated)

theorem orders_of_serve (ran : Runs (serve gateway r) history response) :
    PlacesOne history
      (fun req => ∃ seen, Permits gateway r seen (.createOrder req))
      (response.status = 401) := by
  cases called : orderCalls history with
  | nil => exact Or.inl called
  | cons first rest =>
      obtain ⟨before, exchange, after, split, _, isOrder, isRest⟩ :=
        List.filterMap_eq_cons_iff.mp called
      obtain ⟨id, rfl⟩ := of_orderCall isOrder
      obtain ⟨_, _, _, inOrder⟩ := good_of_runs ran
      obtain ⟨_, _, permits, _⟩ := inOrder _ _ _ split
      have none : rest = [] := by
        rw [← isRest, List.filterMap_eq_nil_iff]
        intro exchange member
        exact orderCall_of_noCall
          (alone_of_order ran split exchange (List.mem_append_right _ member))
      rw [none] at called
      exact Or.inr
        ⟨first.1, first.2, called, ⟨before, permits⟩,
          unauthenticated_of_order ran split⟩

/-- The order is the one that the page asks for, under its key. -/
def Wanted (gateway : API) (call : ApiRequest)
    (req : Order.CreateOrderRequest) : Prop :=
  ∃ body, gateway.createOrderBody (call.body.getD "") = .ok body ∧
    req.eventId = body.eventId ∧ req.seatIds = body.seatIds ∧
    req.idempotencyKey = (call.headers.lookup "Idempotency-Key").getD ""

theorem decoded_of_decodeJSON {Struct : Type} {decoder : Decoder Struct}
    {body : Struct} (decoded : decodeJSON gateway decoder r = .ok body) :
    decoder r.body = .ok body := by
  unfold decodeJSON at decoded
  split at decoded
  · cases decoded
  · split at decoded
    · cases decoded
    · cases decoded
      assumption

theorem wanted_of_permits {token : Option String} {seen : List Exchange}
    {req : Order.CreateOrderRequest}
    (permits :
      Permits gateway
        (fetched connection (SingleFlight.attempt call token)) seen
        (.createOrder req)) : Wanted gateway call req := by
  obtain ⟨_, body, _, decoded, isEvent, areSeats, _, _, _, _, isKey, _⟩ :=
    permits
  refine ⟨body, decoded_of_decodeJSON decoded, isEvent, areSeats, ?_⟩
  rw [isKey]
  exact congrArg (Option.getD · "") (SingleFlight.header_attempt_key call token)

/-- `api` is to refresh. -/
def Expired (outcome : Outcome) : Prop :=
  ∃ err, outcome = .error (.api err) ∧ err.status = 401

theorem status_of_expired {line : Line}
    (expired : Expired (arrived line response)) : response.status = 401 := by
  obtain ⟨err, thrown, unauthenticated⟩ := expired
  unfold arrived at thrown
  split at thrown
  · unfold settled at thrown
    split at thrown
    · cases thrown
    · split at thrown
      · cases thrown
      · cases thrown
        exact unauthenticated
  · split at thrown
    · cases thrown
    · cases thrown
  · cases thrown
    cases unauthenticated

theorem orders_of_sent {wire : Wire}
    (ran : Runs (sent gateway connection wire) history outcome) :
    PlacesOne history
      (fun req =>
        ∃ seen,
          Permits gateway (fetched connection wire) seen (.createOrder req))
      (Expired outcome) := by
  unfold sent at ran
  split at ran
  · obtain ⟨rfl, _⟩ := runs_done_iff.mp ran
    exact Or.inl rfl
  · obtain ⟨first, second, response, rfl, served, done⟩ := runs_bind_iff.mp ran
    obtain ⟨rfl, rfl⟩ := runs_done_iff.mp done
    rw [List.append_nil]
    refine (orders_of_serve served).imp_right ?_
    rintro ⟨req, answer, isCalled, permits, told⟩
    exact ⟨req, answer, isCalled, permits, fun expired =>
      told (status_of_expired expired)⟩

theorem orders_of_attempt {token : Option String}
    (ran : Runs (attempt gateway call connection token) history outcome) :
    PlacesOne history (Wanted gateway call) (Expired outcome) := by
  refine (orders_of_sent ran).imp_right ?_
  rintro ⟨req, answer, isCalled, ⟨_, permits⟩, told⟩
  exact ⟨req, answer, isCalled, wanted_of_permits permits, told⟩

theorem sent_of_refreshSession {renewed : Option (Option String)}
    (ran : Runs (refreshSession gateway connection) history renewed) :
    ∃ outcome,
      Runs (sent gateway connection refreshWire) history
          outcome ∧
        ((∃ session, outcome = .ok (some session) ∧
            renewed = some ((property "access_token" session).bind asText)) ∨
          (∀ session, outcome ≠ .ok (some session)) ∧ renewed = none) := by
  obtain ⟨first, second, outcome, rfl, ranSent, rest⟩ := runs_bind_iff.mp ran
  refine ⟨outcome, ?_⟩
  match outcome with
  | .ok (some session) =>
      obtain ⟨rfl, rfl⟩ := runs_done_iff.mp rest
      rw [List.append_nil]
      exact ⟨ranSent, Or.inl ⟨session, rfl, rfl⟩⟩
  | .ok none =>
      obtain ⟨rfl, rfl⟩ := runs_done_iff.mp rest
      rw [List.append_nil]
      exact ⟨ranSent, Or.inr ⟨nofun, rfl⟩⟩
  | .error thrown =>
      obtain ⟨rfl, rfl⟩ := runs_done_iff.mp rest
      rw [List.append_nil]
      exact ⟨ranSent, Or.inr ⟨nofun, rfl⟩⟩

/-- A refresh carries no token, and so places no order. -/
theorem orders_of_refreshSession {renewed : Option (Option String)}
    (ran : Runs (refreshSession gateway connection) history renewed) :
    orderCalls history = [] := by
  obtain ⟨outcome, ranSent, _⟩ := sent_of_refreshSession ran
  rcases orders_of_sent ranSent with none | ⟨_, _, _, ⟨_, permits⟩, _⟩
  · exact none
  · obtain ⟨_, _, ⟨_, isToken, _⟩, _⟩ := permits
    cases isToken

theorem orderCalls_append (first second : List Exchange) :
    orderCalls (first ++ second) = orderCalls first ++ orderCalls second :=
  List.filterMap_append

theorem orders_of_retried {renewal second : Connection} {before : Outcome}
    (ran : Runs (retried gateway call renewal second before) history outcome) :
    orderCalls history = [] ∨
      Expired before ∧
        ∃ made, orderCalls history = [made] ∧ Wanted gateway call made.1 := by
  unfold retried at ran
  split at ran
  · rename_i err
    split at ran
    · exact Or.inl (congrArg orderCalls (runs_done_iff.mp ran).1)
    · rename_i is401
      obtain ⟨early, late, renewed, rfl, ranRefresh, rest⟩ :=
        runs_bind_iff.mp ran
      rw [orderCalls_append, orders_of_refreshSession ranRefresh]
      cases renewed with
      | none => exact Or.inl (congrArg orderCalls (runs_done_iff.mp rest).1)
      | some renewed =>
          refine (orders_of_attempt rest).imp_right ?_
          rintro ⟨req, answer, isCalled, wanted, _⟩
          exact ⟨⟨err, rfl, not_not.mp is401⟩, (req, answer), isCalled, wanted⟩
  · exact Or.inl (congrArg orderCalls (runs_done_iff.mp ran).1)

/-- `api` places the order that it was called for, and not again after a
refresh unless order-svc itself found the first call unauthenticated; then
with the key of the first. -/
theorem retry_repeats_no_order {call : ApiRequest} {token : Option String}
    {first renewal second : Connection} {outcome : Outcome}
    (ran :
      Runs (apiThrough gateway call token first renewal second) history
        outcome) :
    (∀ made ∈ orderCalls history, Wanted gateway call made.1) ∧
      ((orderCalls history).length ≤ 1 ∨
        ∃ req fault again,
          orderCalls history = [(req, .error fault), again] ∧
            fault.code = .unauthenticated) := by
  obtain ⟨early, late, before, rfl, ranFirst, rest⟩ := runs_bind_iff.mp ran
  rw [orderCalls_append]
  rcases orders_of_attempt ranFirst with
    noneFirst | ⟨req, answer, isFirst, wanted, told⟩
  · rw [noneFirst, List.nil_append]
    rcases orders_of_retried rest with none | ⟨_, made, isMade, wanted⟩
    · rw [none]
      exact ⟨List.forall_mem_nil _, Or.inl (Nat.zero_le 1)⟩
    · rw [isMade]
      exact ⟨List.forall_mem_singleton.mpr wanted, Or.inl (Nat.le_refl 1)⟩
  · rw [isFirst]
    rcases orders_of_retried rest with
      none | ⟨expired, made, isMade, wantedAgain⟩
    · rw [none]
      exact ⟨List.forall_mem_singleton.mpr wanted, Or.inl (Nat.le_refl 1)⟩
    · rw [isMade]
      obtain ⟨fault, rfl, isFault⟩ := told expired
      refine ⟨?_, Or.inr ⟨req, fault, made, rfl, isFault⟩⟩
      exact List.forall_mem_cons.mpr
        ⟨wanted, List.forall_mem_singleton.mpr wantedAgain⟩

end Retry

/-- These requests were sent one after the other and had these outcomes; the
exchanges are those of the gateway with whatever reached it. -/
inductive Carried (gateway : API) :
    List (Wire × Outcome) → List Exchange → Prop
  | nothing : Carried gateway [] []
  | next {connection : Connection} {wire : Wire}
      {outcome : Outcome} {later : List (Wire × Outcome)}
      {first rest : List Exchange}
      (ran : Runs (sent gateway connection wire) first outcome)
      (carried : Carried gateway later rest) :
      Carried gateway ((wire, outcome) :: later) (first ++ rest)

/-- What the continuation of an attempt is given. -/
def resultOf : Outcome → Result
  | .ok _ => .ok .other
  | .error (.api err) => .error (.api err)
  | .error .other => .error .other

/-- What that of the refresh is given; of a session only the token counts. -/
def renewalOf : Outcome → Result
  | .ok (some session) =>
      .ok
        (.session
          ⟨((property "access_token" session).bind asText).getD "", 0,
            ⟨0, "", .user⟩⟩)
  | outcome => resultOf outcome

/-- A call of `api` with these outcomes, continuation by continuation. -/
def labelsOf (call : ApiRequest) (id flight : Nat) :
    List Outcome → List SingleFlight.Label
  | [] => [.api call]
  | [first] => [.api call, .attemptSettles id (resultOf first)]
  | first :: renewal :: second =>
      [.api call, .attemptSettles id (resultOf first),
          .refreshSettles flight (renewalOf renewal), .resumes id] ++
        second.map fun outcome => .attemptSettles id (resultOf outcome)

section Client

variable {gateway : API} {client : Client} {call : ApiRequest}
  {history : List Exchange} {id flight : Nat}

theorem step_of_unexpired
    {outcome : Outcome} (found : client.calls.get id = some ⟨call, .first⟩)
    (isOver : ¬ Expired outcome) :
    ∃ next,
      SingleFlight.step client (.attemptSettles id (resultOf outcome)) =
          some next ∧
        next.calls.get id = some ⟨call, .done⟩ ∧
        wires next.history = wires client.history := by
  have fails (failure : Failure)
      (known : failure.unauthorized = false) :
      ∃ next,
        SingleFlight.step client (.attemptSettles id (.error failure)) =
            some next ∧
          next.calls.get id = some ⟨call, .done⟩ ∧
          wires next.history = wires client.history := by
    refine ⟨(client.note (.attemptFailed id failure)).putStage id ⟨call, .first⟩
        .done, ?_, Registry.get_put_self found, rfl⟩
    simp only [SingleFlight.step, found, Client.failFirst, known]
    rfl
  cases outcome with
  | ok payload =>
      refine ⟨client.putStage id ⟨call, .first⟩ .done, ?_,
        Registry.get_put_self found, rfl⟩
      simp only [SingleFlight.step, found, resultOf]
  | error thrown =>
      cases thrown with
      | other => exact fails _ rfl
      | api err =>
          exact fails _ (decide_eq_false fun is401 => isOver ⟨err, rfl, is401⟩)

theorem step_of_expired
    {err : ApiError} (found : client.calls.get id = some ⟨call, .first⟩)
    (idle : client.inflight = none) (is401 : err.status = 401) :
    ∃ next,
      SingleFlight.step client (.attemptSettles id (.error (.api err))) =
          some next ∧
        next.calls.get id = some ⟨call, .awaiting client.flights.next⟩ ∧
        next.flights.get client.flights.next = some .sending ∧
        wires next.history = refreshWire :: wires client.history := by
  have unauthorized : (Failure.api err).unauthorized = true :=
    decide_eq_true is401
  have idleNoted :
      (client.note (.attemptFailed id (.api err))).inflight = none := idle
  refine ⟨client.failFirst id ⟨call, .first⟩ (.api err), ?_, ?_, ?_, ?_⟩
  · simp only [SingleFlight.step, found]
  all_goals
    rw [Client.failFirst, if_pos unauthorized,
      Client.refreshSession_of_none idleNoted]
  · exact Registry.get_put_self found
  · exact Registry.get_launch_self _ _
  · rfl

theorem steps_of_renewal {renewal : Outcome}
    (found : client.calls.get id = some ⟨call, .awaiting flight⟩)
    (isSending : client.flights.get flight = some .sending) :
    ∃ next,
      run SingleFlight.step client
          [.refreshSettles flight (renewalOf renewal), .resumes id] =
        some next ∧
      ((∃ session, renewal = .ok (some session) ∧
          next.calls.get id = some ⟨call, .second⟩ ∧
          wires next.history =
            SingleFlight.attempt call
                ((property "access_token" session).bind asText) ::
              wires client.history) ∨
        (∀ session, renewal ≠ .ok (some session)) ∧
          next.calls.get id = some ⟨call, .done⟩ ∧
          wires next.history = wires client.history) := by
  have isSettled :
      (client.flights.put flight
          (.settled (Client.succeeded (renewalOf renewal)))).get flight =
        some (.settled (Client.succeeded (renewalOf renewal))) :=
    Registry.get_put_self isSending
  refine ⟨(client.settleRefresh flight (renewalOf renewal)).resume id
      ⟨call, .awaiting flight⟩
      (Client.succeeded (renewalOf renewal)), ?_, ?_⟩
  · simp only [run, SingleFlight.step, isSending, Option.bind_some,
      Client.settleRefresh, found, isSettled]
  · rcases renewal with thrown | _ | session
    · cases thrown <;>
        exact Or.inr ⟨by simp, Registry.get_put_self found, rfl⟩
    · exact Or.inr ⟨by simp, Registry.get_put_self found, rfl⟩
    · refine Or.inl ⟨session, rfl, Registry.get_put_self found, ?_⟩
      have same :
          SingleFlight.attempt call
              (some (((property "access_token" session).bind asText).getD "")) =
            SingleFlight.attempt call
              ((property "access_token" session).bind asText) := by
        cases (property "access_token" session).bind asText <;> rfl
      rw [← same]
      rfl

theorem step_of_second
    (found : client.calls.get id = some ⟨call, .second⟩) (outcome : Outcome) :
    SingleFlight.step client (.attemptSettles id (resultOf outcome)) =
      some (client.putStage id ⟨call, .second⟩ .done) := by
  simp only [SingleFlight.step, found]

theorem nothing_of_unexpired {renewal second : Connection}
    {outcome final : Outcome} (isOver : ¬ Expired outcome)
    (ran : Runs (retried gateway call renewal second outcome) history final) :
    history = [] := by
  unfold retried at ran
  split at ran
  · split at ran
    · exact (runs_done_iff.mp ran).1
    · rename_i err is401
      exact absurd ⟨err, rfl, not_not.mp is401⟩ isOver
  · exact (runs_done_iff.mp ran).1

/-- A run of `api` through the gateway is a run of the client, with the same
requests in the same order. -/
theorem client_of_apiThrough {first renewal second : Connection}
    {outcome : Outcome} (idle : client.inflight = none)
    (ran :
      Runs
        (apiThrough gateway call client.accessToken first renewal second)
        history outcome) :
    ∃ (carried : List (Wire × Outcome))
      (final : Client),
      Carried gateway carried history ∧
        run SingleFlight.step client
            (labelsOf call client.calls.next client.flights.next
              (carried.map Prod.snd)) = some final ∧
        final.calls.get client.calls.next = some ⟨call, .done⟩ ∧
        wires final.history =
          (carried.map Prod.fst).reverse ++ wires client.history := by
  obtain ⟨early, late, before, rfl, ranFirst, rest⟩ := runs_bind_iff.mp ran
  obtain ⟨called, isCalled, found, still, sameFlights, isSent⟩ :
      ∃ called,
        SingleFlight.step client (.api call) = some called ∧
          called.calls.get client.calls.next = some ⟨call, .first⟩ ∧
          called.inflight = none ∧ called.flights = client.flights ∧
          wires called.history =
            SingleFlight.attempt call client.accessToken ::
              wires client.history :=
    ⟨_, rfl, Registry.get_launch_self _ _, idle, rfl, rfl⟩
  by_cases expired : Expired before
  · obtain ⟨err, rfl, is401⟩ := expired
    rw [retried, if_neg (not_not.mpr is401)] at rest
    obtain ⟨middle, last, renewed, rfl, ranRefresh, ranSecond⟩ :=
      runs_bind_iff.mp rest
    obtain ⟨waits, isRefused, awaits, isSending, isWaiting⟩ :=
      step_of_expired found still is401
    rw [sameFlights] at awaits isSending
    have starts {labels : List SingleFlight.Label}
        {final : Client}
        (ends : run SingleFlight.step waits labels = some final) :
        run SingleFlight.step client
            (.api call ::
              .attemptSettles client.calls.next (.error (.api err)) ::
                labels) = some final :=
      run_cons_eq_some_iff.mpr
        ⟨called, isCalled, run_cons_eq_some_iff.mpr ⟨waits, isRefused, ends⟩⟩
    obtain ⟨reply, ranSent, isRenewed⟩ := sent_of_refreshSession ranRefresh
    obtain ⟨resumed, isResumed, went⟩ :=
      @steps_of_renewal waits call _ _ reply awaits isSending
    rcases went with
      ⟨session, rfl, isSecond, isAgain⟩ | ⟨none, isDone, isOver⟩
    · obtain ⟨_, same, rfl⟩ | ⟨other, _⟩ := isRenewed
      · cases same
        refine ⟨[(SingleFlight.attempt call client.accessToken,
            .error (.api err)),
            (refreshWire, .ok (some session)),
            (SingleFlight.attempt call
              ((property "access_token" session).bind asText), outcome)],
          resumed.putStage _ ⟨call, .second⟩ .done,
          List.append_nil last ▸
            .next ranFirst (.next ranSent (.next ranSecond .nothing)),
          ?_, Registry.get_put_self isSecond, ?_⟩
        · refine starts ?_
          refine (run_append waits [_, _] _).trans ?_
          rw [isResumed]
          exact
            run_cons_eq_some_iff.mpr ⟨_, step_of_second isSecond outcome, rfl⟩
        · show wires resumed.history = _
          rw [isAgain, isWaiting, isSent]
          rfl
      · exact absurd rfl (other session)
    · obtain ⟨session, same, _⟩ | ⟨_, rfl⟩ := isRenewed
      · exact absurd same (none session)
      · obtain ⟨rfl, _⟩ := runs_done_iff.mp ranSecond
        refine ⟨[(SingleFlight.attempt call client.accessToken,
            .error (.api err)), (refreshWire, reply)],
          resumed, .next ranFirst (.next ranSent .nothing), ?_, isDone, ?_⟩
        · exact starts isResumed
        · rw [isOver, isWaiting, isSent]
          rfl
  · obtain ⟨final, isSettled, isDone, isRest⟩ := step_of_unexpired found expired
    have nothing := nothing_of_unexpired expired rest
    refine ⟨[(SingleFlight.attempt call client.accessToken, before)], final,
      nothing ▸ .next ranFirst .nothing, ?_, isDone, ?_⟩
    · simp only [List.map, labelsOf, run, isCalled, isSettled, Option.bind_some]
    · rw [isRest, isSent]
      rfl

end Client

/-- An order of two seats, over a line that does not fail. -/
def orderCallOfPage : ApiRequest :=
  ⟨"POST", "/api/orders", some "e", [("Idempotency-Key", "k")]⟩

def plainTarget : String → Target
  | "/api/orders" => ⟨["api", "orders"], "", ["api", "orders"], ""⟩
  | _ => ⟨["api", "auth", "refresh"], "", ["api", "auth", "refresh"], ""⟩

def upConnection : Connection :=
  ⟨.up, plainTarget, fun _ => some "session", "10.0.0.1"⟩

/-- The first token has expired. -/
def expiredAnswers : Surroundings Ask.Answer
  | _, .newString => (0 : UUID)
  | _, .verify token =>
      if token = "old" then (none : Option Gateway.Claims)
      else some (⟨"u", "customer"⟩ : Gateway.Claims)
  | _, .allow _ _ _ => (⟨⟨true, 1, 0⟩, false⟩ : RateLimit.Reply)
  | _, .call _ (.refresh _) =>
      (.ok ⟨"new", "s", 900, "u", "u@example.org", "customer"⟩ :
        Except Status Tokens)
  | _, .call _ _ => .error (Status.error .unavailable "down")

theorem expired_token_places_one_order :
    ∃ history outcome,
      Runs
          (apiThrough plainApi orderCallOfPage (some "old") upConnection
            upConnection upConnection) history outcome ∧
        (orderCalls history).length = 1 ∧
        ∀ made ∈ orderCalls history,
          Wanted plainApi orderCallOfPage made.1 := by
  have ran :=
    runs_play expiredAnswers []
      (apiThrough plainApi orderCallOfPage (some "old") upConnection
        upConnection upConnection)
  exact ⟨_, _, ran, by decide +kernel, (retry_repeats_no_order ran).1⟩

end TicketWave.Web
