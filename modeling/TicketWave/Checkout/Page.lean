import TicketWave.Gateway.Orders
import TicketWave.Saga.System
import TicketWave.Web.Client

/-!
# The checkout of a page

`useCreateOrder`, the requests on their way through the gateway, and the three
services.  A request or a call may arrive at any later time or never, and an
answer may be lost; after a first 401 a mutation sends its request once more.
`drawn` records the keys that were drawn, and `mine` tells the keys of the
page: no other client sends one of them.
-/

namespace TicketWave.Checkout

open Library

/-- What the promise of `api` is rejected with: an `ApiError`, or the error of
a body that broke off. -/
inductive Thrown where
  | api (err : Web.ApiError)
  | other
  deriving DecidableEq, Repr

def isUnknownOutcome : Thrown → Bool
  | .api err => decide (err.status = 0 ∨ err.status = 504)
  | .other => false

structure Pending where
  seats : String
  key : String
  deriving DecidableEq, Repr

structure KeyKeeper where
  current : Option Pending
  deriving DecidableEq, Repr

namespace KeyKeeper

def sortedSeats (seatIds : List String) : String :=
  String.intercalate "," (seatIds.insertionSort (· ≤ ·))

/-- What `current` is after `keyFor`, which returns its key; `random` is the
next value of `crypto.randomUUID`. -/
def keyFor (keeper : KeyKeeper) (seatIds : List String) (random : String) :
    Pending :=
  match keeper.current with
  | some pending =>
      if pending.seats = sortedSeats seatIds then pending
      else ⟨sortedSeats seatIds, random⟩
  | none => ⟨sortedSeats seatIds, random⟩

/-- `settle`, with no error after a success -/
def settle (keeper : KeyKeeper) : Option Thrown → KeyKeeper
  | some err => if isUnknownOutcome err then keeper else ⟨none⟩
  | none => ⟨none⟩

end KeyKeeper

/-- How far a request has come. -/
inductive Phase where
  | sent
  /-- the gateway has answered it by itself -/
  | refused
  /-- the gateway has called `CreateOrder`, and the call is on its way -/
  | called (req : Order.CreateOrderRequest)
  /-- order-svc has taken the call -/
  | taken (req : Order.CreateOrderRequest) (run : Nat)
  /-- the gateway has got the answer of `CreateOrder` -/
  | answered
      (req : Order.CreateOrderRequest)
      (result : Except Status Order.CreateOrderResponse)
  deriving DecidableEq

structure Request where
  body : Gateway.CreateOrderBody
  key : String
  /-- the claims of its token, if it has one -/
  token : Option Gateway.Claims
  phase : Phase
  /-- the gateway's answer -/
  answer : Option Gateway.Reply
  deriving DecidableEq

namespace Request

/-- The request reaches the gateway.  What stands before the handler may refuse
it, and refuses it without a token. -/
def arrive (price : Int) (refusal : Option Gateway.HttpError)
    (request : Request) : Option Request :=
  match request.phase, refusal, request.token with
  | .sent, some err, _ =>
      some { request with phase := .refused, answer := some (.error err) }
  | .sent, none, some claims =>
      match
        Gateway.createOrderCall price claims request.body request.key with
      | .error err =>
          some
            { request with phase := .refused, answer := some (.error err) }
      | .ok req => some { request with phase := .called req }
  | _, _, _ => none

/-- The gateway's call ends with an error that order-svc did not send. -/
def giveUp (err : Status) (request : Request) : Option Request :=
  match request.phase, request.answer with
  | .called _, none | .taken _ _, none =>
      some { request with answer := some (Gateway.fail err) }
  | _, _ => none

end Request

inductive Stage where
  /-- for the answer to a request, the second one after a refresh -/
  | waiting (again : Bool)
  /-- for the refresh that follows the error -/
  | refreshing (err : Web.ApiError)
  deriving DecidableEq, Repr

structure Mutation where
  body : Gateway.CreateOrderBody
  key : String
  /-- the request that was sent last -/
  request : Nat
  stage : Stage
  deriving DecidableEq, Repr

/-- What a mutation hears of. -/
inductive Report where
  | answer
  /-- `fetch` throws -/
  | lost
  /-- the answer breaks off, and `res.text` throws -/
  | cut
  /-- the refresh is over, with the claims of the new token if it succeeded -/
  | refreshed (token : Option Gateway.Claims)
  deriving DecidableEq, Repr

inductive Reaction where
  | refresh (err : Web.ApiError)
  | resend (token : Gateway.Claims)
  | resolve
  | reject (err : Thrown)
  deriving DecidableEq, Repr

/-- `api` on an answer of the gateway. -/
def afterAnswer (again : Bool) : Gateway.Reply → Reaction
  | .order _ _ => .resolve
  | .error err =>
      if err.status = 401 ∧ again = false then
        .refresh (Web.received err)
      else
        .reject (.api (Web.received err))

/-- `api` on what it hears; `answer` is the answer to its last request. -/
def react (answer : Option Gateway.Reply) : Stage → Report → Option Reaction
  | .waiting again, .answer => answer.map (afterAnswer again)
  | .waiting _, .lost => some (.reject (.api Web.networkError))
  | .waiting _, .cut => answer.map fun _ => .reject .other
  | .refreshing _, .refreshed (some token) => some (.resend token)
  | .refreshing err, .refreshed none => some (.reject (.api err))
  | _, _ => none

structure Site (uuid : UuidText) where
  system : Saga.System uuid
  requests : Registry Request
  mutations : Registry Mutation
  keeper : KeyKeeper
  drawn : List String

namespace Site

variable {uuid : UuidText} (site : Site uuid)

def empty (uuid : UuidText) : Site uuid where
  system := Saga.System.empty uuid
  requests := Registry.empty
  mutations := Registry.empty
  keeper := ⟨none⟩
  drawn := []

/-- `CreateOrder` has returned to its caller. -/
def result (req : Order.CreateOrderRequest) (run : Nat) :
    Option (Except Status Order.CreateOrderResponse) :=
  match Order.validateCreateOrder uuid req with
  | some err => some (.error err)
  | none =>
      match site.system.order.runs.get run with
      | some ⟨_, _, .returned result, _⟩ => some result
      | _ => none

/-- `mutationFn` up to its request. -/
def buy (body : Gateway.CreateOrderBody) (random : String)
    (token : Option Gateway.Claims) : Site uuid :=
  let pending := site.keeper.keyFor body.seatIds random
  { site with
    requests := site.requests.launch ⟨body, pending.key, token, .sent, none⟩
    mutations :=
      site.mutations.launch
        ⟨body, pending.key, site.requests.next, .waiting false⟩
    keeper := ⟨some pending⟩
    drawn := random :: site.drawn }

/-- How the mutation reacts to what it hears. -/
def reaction (id : Nat) (report : Report) : Option Reaction :=
  match site.mutations.get id with
  | none => none
  | some mutation =>
      match site.requests.get mutation.request with
      | none => none
      | some request => react request.answer mutation.stage report

/-- `onSuccess` and `onError` -/
def settle (id : Nat) (err : Option Thrown) : Site uuid :=
  { site with
    mutations := site.mutations.finish id
    keeper := site.keeper.settle err }

def perform (id : Nat) (mutation : Mutation) : Reaction → Site uuid
  | .refresh err =>
      { site with
        mutations :=
          site.mutations.put id { mutation with stage := .refreshing err } }
  | .resend token =>
      { site with
        requests :=
          site.requests.launch
            ⟨mutation.body, mutation.key, some token, .sent, none⟩
        mutations :=
          site.mutations.put id
            { mutation with
              request := site.requests.next
              stage := .waiting true } }
  | .resolve => site.settle id none
  | .reject err => site.settle id (some err)

end Site

inductive Label where
  /-- the services by themselves, other clients included -/
  | system (label : Saga.Label)
  | buy
      (body : Gateway.CreateOrderBody) (random : String)
      (token : Option Gateway.Claims)
  | arrive (request : Nat) (refusal : Option Gateway.HttpError)
  | take (request : Nat) (orderId : UUID)
  | answer (request : Nat)
  | giveUp (request : Nat) (err : Status)
  | hear (mutation : Nat) (report : Report)

section Step

variable {uuid : UuidText} (ours : UUID → Bool) (mine : String → Bool)
  (price : Int)

/-- A request of another client has a key of that client's, or none. -/
def others : Saga.Label → Bool
  | .order (.start req _) => !mine req.idempotencyKey
  | _ => true

/-- The value can be one of `crypto.randomUUID`. -/
def fresh (drawn : List String) (random : String) : Prop :=
  mine random = true ∧ random ≠ "" ∧ random ∉ drawn

instance (drawn : List String) (random : String) :
    Decidable (fresh mine drawn random) :=
  inferInstanceAs (Decidable (_ ∧ _ ∧ _))

def step (site : Site uuid) : Label → Option (Site uuid)
  | .system label =>
      if others mine label then
        (Saga.step ours site.system label).map fun system =>
          { site with system := system }
      else
        none
  | .buy body random token =>
      if fresh mine site.drawn random then some (site.buy body random token)
      else none
  | .arrive id refusal =>
      ((site.requests.get id).bind (Request.arrive price refusal)).map
        fun request => { site with requests := site.requests.put id request }
  | .take id orderId =>
      match site.requests.get id with
      | some request =>
          match request.phase with
          | .called req =>
              (Saga.step ours site.system (.order (.start req orderId))).map
                fun system =>
                  { site with
                    system := system
                    requests :=
                      site.requests.put id
                        { request with
                          phase :=
                            .taken req site.system.order.runs.next } }
          | _ => none
      | none => none
  | .answer id =>
      match site.requests.get id with
      | some request =>
          match request.phase, request.answer with
          | .taken req run, none =>
              (site.result req run).map fun result =>
                { site with
                  requests :=
                    site.requests.put id
                      { request with
                        phase := .answered req result
                        answer := some (Gateway.createOrderReply result) } }
          | _, _ => none
      | none => none
  | .giveUp id err =>
      ((site.requests.get id).bind (Request.giveUp err)).map
        fun request => { site with requests := site.requests.put id request }
  | .hear id report =>
      match site.mutations.get id, site.reaction id report with
      | some mutation, some reaction => some (site.perform id mutation reaction)
      | _, _ => none

inductive Transition (site : Site uuid) : Label → Site uuid → Prop
  | system
      {label : Saga.Label} {system : Saga.System uuid}
      (foreign : others mine label = true)
      (stepped : Saga.step ours site.system label = some system) :
      Transition site (.system label) { site with system := system }
  | bought
      {body : Gateway.CreateOrderBody} {random : String}
      {token : Option Gateway.Claims}
      (isFresh : fresh mine site.drawn random) :
      Transition site (.buy body random token) (site.buy body random token)
  | arrived
      {id : Nat} {refusal : Option Gateway.HttpError}
      {request new : Request} (found : site.requests.get id = some request)
      (moved : request.arrive price refusal = some new) :
      Transition site (.arrive id refusal)
        { site with requests := site.requests.put id new }
  | taken
      {id : Nat} {orderId : UUID} {request : Request}
      {req : Order.CreateOrderRequest} {system : Saga.System uuid}
      (found : site.requests.get id = some request)
      (called : request.phase = .called req)
      (stepped :
        Saga.step ours site.system (.order (.start req orderId)) =
          some system) :
      Transition site (.take id orderId)
        { site with
          system := system
          requests :=
            site.requests.put id
              { request with
                phase := .taken req site.system.order.runs.next } }
  | answered
      {id : Nat} {request : Request} {req : Order.CreateOrderRequest}
      {run : Nat} {result : Except Status Order.CreateOrderResponse}
      (found : site.requests.get id = some request)
      (taken : request.phase = .taken req run)
      (returned : site.result req run = some result) :
      Transition site (.answer id)
        { site with
          requests :=
            site.requests.put id
              { request with
                phase := .answered req result
                answer := some (Gateway.createOrderReply result) } }
  | gaveUp
      {id : Nat} {err : Status} {request new : Request}
      (found : site.requests.get id = some request)
      (moved : request.giveUp err = some new) :
      Transition site (.giveUp id err)
        { site with requests := site.requests.put id new }
  | heard
      {id : Nat} {report : Report} {mutation : Mutation}
      {reaction : Reaction}
      (found : site.mutations.get id = some mutation)
      (reacts : site.reaction id report = some reaction) :
      Transition site (.hear id report) (site.perform id mutation reaction)

variable {ours mine price}

theorem transition_of_step {site next : Site uuid} {label : Label}
    (stepped : step ours mine price site label = some next) :
    Transition ours mine price site label next := by
  cases label with
  | system label =>
      simp only [step] at stepped
      split at stepped
      · rename_i foreign
        obtain ⟨system, moved, rfl⟩ := Option.map_eq_some_iff.mp stepped
        exact .system foreign moved
      · cases stepped
  | buy body random token =>
      simp only [step] at stepped
      split at stepped
      · rename_i isFresh
        cases stepped
        exact .bought isFresh
      · cases stepped
  | arrive id refusal =>
      obtain ⟨new, found, rfl⟩ := Option.map_eq_some_iff.mp stepped
      obtain ⟨request, stored, moved⟩ := Option.bind_eq_some_iff.mp found
      exact .arrived stored moved
  | take id orderId =>
      simp only [step] at stepped
      split at stepped
      · rename_i request found
        split at stepped
        · rename_i req called
          obtain ⟨system, moved, rfl⟩ := Option.map_eq_some_iff.mp stepped
          exact .taken found called moved
        · cases stepped
      · cases stepped
  | answer id =>
      simp only [step] at stepped
      split at stepped
      · rename_i request found
        split at stepped
        · rename_i req run taken unanswered
          obtain ⟨result, returned, rfl⟩ := Option.map_eq_some_iff.mp stepped
          exact .answered found taken returned
        · cases stepped
      · cases stepped
  | giveUp id err =>
      obtain ⟨new, found, rfl⟩ := Option.map_eq_some_iff.mp stepped
      obtain ⟨request, stored, moved⟩ := Option.bind_eq_some_iff.mp found
      exact .gaveUp stored moved
  | hear id report =>
      simp only [step] at stepped
      split at stepped
      · rename_i mutation reaction found reacts
        cases stepped
        exact .heard found reacts
      · cases stepped

end Step

end TicketWave.Checkout
