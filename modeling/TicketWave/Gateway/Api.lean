import TicketWave.Auth.Model
import TicketWave.Gateway.Allow
import TicketWave.Gateway.Analytics
import TicketWave.Gateway.Orders
import TicketWave.Library.Asking
import TicketWave.SeatMap.Page

/-!
# The API of the gateway

`services/gateway/internal/httpapi`, every route from the request to the
answer.  What the verifier, the limiter and the services answer is left open,
and so is what `encoding/json` reads from a body.  Panics, logs, spans and
metrics are not here.
-/

namespace TicketWave.Gateway.Api

open Library

/-- The tokens and the user in the answers of `Login` and `Refresh`. -/
structure Tokens where
  accessToken : String
  refreshToken : String
  expiresIn : Int
  userId : String
  email : String
  role : String
  deriving DecidableEq, Repr

inductive Rpc where
  | register (req : Auth.Credentials)
  | login (req : Auth.Credentials)
  | refresh (refreshToken : String)
  | logout (refreshToken : String)
  | createEvent (req : Inventory.CreateEventRequest)
  | getEvent (eventId : String)
  | listEvents (limit : Int)
  | listSeats (eventId : String)
  | createOrder (req : Order.CreateOrderRequest)
  | getOrder (orderId : String)
  | listEventStats (limit : Int)
  deriving DecidableEq, Repr

def Rpc.Reply : Rpc → Type
  | .register _ => String
  | .login _ => Tokens
  | .refresh _ => Tokens
  | .logout _ => Unit
  | .createEvent _ => String
  | .getEvent _ => Inventory.Event
  | .listEvents _ => List Inventory.Event
  | .listSeats _ => List Inventory.Seat
  | .createOrder _ => Order.CreateOrderResponse
  | .getOrder _ => Order.GetOrderResponse
  | .listEventStats _ => List Analytics.EventStats

inductive Ask where
  /-- `uuid.NewString` -/
  | newString
  | verify (token : String)
  /-- `Limiter.Allow` -/
  | allow (key : String) (limit window : Int)
  /-- a call of a service; the client interceptor sends the request ID -/
  | call (requestId : String) (rpc : Rpc)
  deriving DecidableEq, Repr

def Ask.Answer : Ask → Type
  | .newString => UUID
  | .verify _ => Option Claims
  | .allow _ _ _ => RateLimit.Reply
  | .call _ rpc => Except Status rpc.Reply

abbrev Program := Asking Ask Ask.Answer

abbrev Exchange := Asking.Exchange Ask.Answer

def ask (question : Ask) : Program question.Answer :=
  Asking.asked question

structure Context where
  requestId : String
  claims : Option Claims
  deriving DecidableEq, Repr

structure Request where
  method : String
  /-- the parts of the path, unescaped -/
  path : List String
  /-- `Header.Get`: the first value, or the empty text -/
  header : String → String
  /-- the value of the first cookie of the name -/
  cookie : String → Option String
  /-- the query parameter `limit` -/
  limit : String
  remoteAddr : String
  body : String
  context : Context
  /-- the parts of the path as they arrive -/
  rawPath : List String := path
  rawQuery : String := ""

structure Cookie where
  name : String
  value : String
  path : String
  maxAge : Int
  httpOnly : Bool
  secure : Bool
  sameSiteStrict : Bool
  deriving DecidableEq, Repr

/-- The headers that are set so far. -/
structure Writer where
  header : List (String × String)
  cookies : List Cookie
  deriving DecidableEq, Repr

def Writer.new : Writer := ⟨[], []⟩

/-- `Header().Set` -/
def Writer.set (w : Writer) (name value : String) : Writer :=
  { w with
    header :=
      w.header.filter (fun entry => decide (entry.1 ≠ name)) ++
        [(name, value)] }

def Writer.setAll (w : Writer) (headers : List (String × String)) : Writer :=
  headers.foldl (fun w entry => w.set entry.1 entry.2) w

/-- `http.SetCookie` -/
def Writer.setCookie (w : Writer) (cookie : Cookie) : Writer :=
  { w with cookies := w.cookies ++ [cookie] }

/-- What is written as JSON. -/
inductive Json where
  | string (text : String)
  | int (number : Int)
  | array (items : List Json)
  | object (members : List (String × Json))

structure Response where
  status : Nat
  header : List (String × String)
  cookies : List Cookie
  body : Option Json

def writeJSON (w : Writer) (status : Nat) (v : Json) : Response :=
  let w := w.set "Content-Type" "application/json; charset=utf-8"
  let w := w.set "Cache-Control" "no-store"
  ⟨status, w.header, w.cookies, some v⟩

def errorBody (err : HttpError) : Json :=
  .object
    [("error",
      .object
        [("code", .string err.code), ("message", .string err.message)])]

def writeError (w : Writer) (err : HttpError) : Response :=
  writeJSON w err.status (errorBody err)

/-- `API.fail` -/
def fail (w : Writer) (err : Status) : Response :=
  writeError w (httpError err)

abbrev Handler := Request → Writer → Program Response
abbrev Middleware := Handler → Handler

def chain (handler : Handler) (middlewares : List Middleware) : Handler :=
  middlewares.foldr (fun middleware next => middleware next) handler

/-- What is wrong with a body. -/
inductive BodyError where
  | tooLarge
  | empty
  /-- the message begins with `json: unknown field` -/
  | unknownField (message : String)
  | malformed
  /-- something comes after the value -/
  | trailing
  deriving DecidableEq, Repr

/-- `Decode` and the `Token` after it, of a `json.Decoder` that allows no
unknown fields, on what `MaxBytesReader` lets through. -/
abbrev Decoder (Struct : Type) := String → Except BodyError Struct

/-- The configuration, and what the handlers use of Go's library. -/
structure API where
  seatPriceCents : Int
  cookieSecure : Bool
  trustProxy : Bool
  /-- `net.ParseIP` finds an address -/
  parseIP : String → Bool
  /-- the host of `net.SplitHostPort` -/
  splitHost : String → Option String
  hashKey : String → String
  /-- `mime.ParseMediaType` -/
  mediaType : String → Option String
  credentials : Decoder Auth.Credentials
  createEventBody : Decoder Inventory.CreateEventRequest
  createOrderBody : Decoder CreateOrderBody
  /-- the JSON text of a time -/
  timeText : Nat → String
  /-- how `url.URL` writes a path -/
  escapePath : String → String
  /-- the status with which `ServeMux` redirects: 301, from Go 1.26 on 307 -/
  redirectStatus : Nat

/-- The pattern `^[A-Za-z0-9_-]{1,64}$`. -/
def validRequestID (id : String) : Bool :=
  decide (1 ≤ id.length ∧ id.length ≤ 64) && id.toList.all Order.keyChar

def requestID : Middleware := fun next r w =>
  let go := fun id =>
    next { r with context := { r.context with requestId := id } }
      (w.set "X-Request-ID" id)
  if validRequestID (r.header "X-Request-ID") then
    go (r.header "X-Request-ID")
  else do
    let id ← ask .newString
    go (standardString id)

def securityHeaders : Middleware := fun next r w =>
  next r
    ((w.set "X-Content-Type-Options" "nosniff").set
      "Referrer-Policy" "no-referrer")

/-- `strings.Cut` at the first space; a scheme in any letter case. -/
def bearerToken (r : Request) : Option String :=
  let header := (r.header "Authorization").toList
  let scheme := header.takeWhile (· ≠ ' ')
  match header.dropWhile (· ≠ ' ') with
  | [] => none
  | _ :: rest =>
      if scheme.map Char.toLower ≠ "bearer".toList then
        none
      else
        let token := Inventory.trimSpace (String.ofList rest)
        if token = "" then none else some token

def authenticate : Middleware := fun next r w =>
  match bearerToken r with
  | none =>
      pure
        (writeError (w.set "WWW-Authenticate" "Bearer")
          ⟨401, "unauthenticated", "sign in to continue"⟩)
  | some token => do
      match ← ask (.verify token) with
      | none =>
          pure
            (writeError
              (w.set "WWW-Authenticate" "Bearer error=\"invalid_token\"")
              ⟨401, "unauthenticated",
                "your session is not valid, sign in again"⟩)
      | some claims =>
          next { r with context := { r.context with claims := some claims } }
            w

def requireRole (min : String) : Middleware := fun next r w =>
  match r.context.claims with
  | none => pure (writeError w ⟨401, "unauthenticated", "sign in to continue"⟩)
  | some claims =>
      if atLeast claims.role min then
        next r w
      else
        pure
          (writeError w
            ⟨403, "permission_denied", "you do not have permission to do that"⟩)

def csrfHeader : String := "X-Requested-With"
def csrfValue : String := "ticketwave-web"

def csrf : Middleware := fun next r w =>
  if r.header csrfHeader ≠ csrfValue then
    pure
      (writeError w
        ⟨403, "csrf_check_failed",
          "missing or wrong " ++ csrfHeader ++ " header"⟩)
  else
    next r w

def clientIP (api : API) (r : Request) : String :=
  let real := Inventory.trimSpace (r.header "X-Real-IP")
  if api.trustProxy && api.parseIP real then real
  else (api.splitHost r.remoteAddr).getD r.remoteAddr

def byIP (api : API) (r : Request) : String :=
  clientIP api r

def byUser (api : API) (r : Request) : String :=
  match r.context.claims with
  | some claims => "user:" ++ claims.userId
  | none => byIP api r

def minute : Int := 60 * RateLimit.second

/-- `API.allow` after the limiter has answered: the writer with the headers of
the limit, or the answer to one who is above it.  The time of the attempt is
that of Redis. -/
def spend (w : Writer) (key : String) (limit window : Int)
    (reply : RateLimit.Reply) : Except Response Writer :=
  let done := allowance ⟨key, limit, window, 0⟩ reply
  let w := w.setAll done.headers
  match done.written with
  | none => .ok w
  | some err => .error (writeError w err)

/-- `API.allow` -/
def allow (w : Writer) (key : String) (limit window : Int) :
    Program (Except Response Writer) := do
  let reply ← ask (.allow key limit window)
  pure (spend w key limit window reply)

/-- Who is refused by `API.allow` has been answered. -/
def ifAllowed (next : Writer → Program Response) :
    Except Response Writer → Program Response
  | .error response => pure response
  | .ok w => next w

def limit (name : String) (count window : Int) (key : Request → String) :
    Middleware := fun next r w => do
  ifAllowed (next r) (← allow w (name ++ ":" ++ key r) count window)

def bodyError : BodyError → HttpError
  | .tooLarge => ⟨413, "body_too_large", "request body is too large"⟩
  | .empty => ⟨400, "invalid_json", "request body is empty"⟩
  | .unknownField message => ⟨400, "invalid_json", message⟩
  | .malformed =>
      ⟨400, "invalid_json", "request body is not valid JSON for this endpoint"⟩
  | .trailing =>
      ⟨400, "invalid_json", "request body must contain a single JSON object"⟩

def decodeJSON {Struct : Type} (api : API) (decoder : Decoder Struct)
    (r : Request) : Except HttpError Struct :=
  if api.mediaType (r.header "Content-Type") ≠ some "application/json" then
    .error
      ⟨415, "unsupported_media_type", "Content-Type must be application/json"⟩
  else
    match decoder r.body with
    | .error err => .error (bodyError err)
    | .ok struct => .ok struct

def refreshCookieName : String := "refresh_token"
def refreshCookieMaxAge : Int := 7 * 24 * 60 * 60
def refreshCookiePath : String := "/api/auth"

def refreshCookie (api : API) (value : String) (maxAge : Int) : Cookie where
  name := refreshCookieName
  value := value
  path := refreshCookiePath
  maxAge := maxAge
  httpOnly := true
  secure := api.cookieSecure
  sameSiteStrict := true

def setRefreshCookie (api : API) (w : Writer) (token : String) : Writer :=
  w.setCookie (refreshCookie api token refreshCookieMaxAge)

def clearRefreshCookie (api : API) (w : Writer) : Writer :=
  w.setCookie (refreshCookie api "" (-1))

/-- `sessionResponse` -/
def sessionResponse (resp : Tokens) : Json :=
  .object
    [("access_token", .string resp.accessToken),
      ("expires_in", .int resp.expiresIn),
      ("user",
        .object
          [("id", .string resp.userId), ("email", .string resp.email),
            ("role", .string resp.role)])]

/-- A call of a service on behalf of the request. -/
def call (r : Request) (rpc : Rpc) : Program (Except Status rpc.Reply) :=
  ask (.call r.context.requestId rpc)

def register (api : API) : Handler := fun r w =>
  match decodeJSON api api.credentials r with
  | .error err => pure (writeError w err)
  | .ok body => do
      match ← call r (.register body) with
      | .error err => pure (fail w err)
      | .ok userId =>
          pure (writeJSON w 201 (.object [("user_id", .string userId)]))

/-- The key for attempts on one account; the limiter does not get to see the
address. -/
def accountKey (api : API) (email : String) : String :=
  "login-email:" ++ api.hashKey email

def login (api : API) : Handler := fun r w =>
  match decodeJSON api api.credentials r with
  | .error err => pure (writeError w err)
  | .ok body => do
      let allowed ← allow w (accountKey api body.email) 5 minute
      allowed |> ifAllowed fun w => do
        match ← call r (.login body) with
        | .error err => pure (fail w err)
        | .ok (resp : Tokens) =>
            pure
              (writeJSON (setRefreshCookie api w resp.refreshToken) 200
                (sessionResponse resp))

/-- The cookie, unless it is missing or empty. -/
def sessionCookie (r : Request) : Option String :=
  match r.cookie refreshCookieName with
  | none => none
  | some value => if value = "" then none else some value

def refresh (api : API) : Handler := fun r w =>
  match sessionCookie r with
  | none => pure (writeError w ⟨401, "unauthenticated", "no session, sign in"⟩)
  | some token => do
      match ← call r (.refresh token) with
      | .error err =>
          if err.code = .unauthenticated then
            pure (fail (clearRefreshCookie api w) err)
          else
            pure (fail w err)
      | .ok (resp : Tokens) =>
          pure
            (writeJSON (setRefreshCookie api w resp.refreshToken) 200
              (sessionResponse resp))

/-- The end of `logout`, whatever auth-svc said. -/
def loggedOut (api : API) (w : Writer) : Response :=
  let w := (clearRefreshCookie api w).set "Cache-Control" "no-store"
  ⟨204, w.header, w.cookies, none⟩

def logout (api : API) : Handler := fun r w =>
  match sessionCookie r with
  | none => pure (loggedOut api w)
  | some token => do
      let _ ← call r (.logout token)
      pure (loggedOut api w)

def eventFrom (api : API) (e : Inventory.Event) : Json :=
  .object
    [("id", .string e.id), ("name", .string e.name),
      ("total_seats", .int e.totalSeats),
      ("available_seats", .int e.availableSeats),
      ("seat_price_cents", .int api.seatPriceCents),
      ("created_at", .string (api.timeText e.createdAt))]

def listEvents (api : API) : Handler := fun r w =>
  match queryLimit r.limit with
  | .error err => pure (writeError w err)
  | .ok limit => do
      match ← call r (.listEvents limit) with
      | .error err => pure (fail w err)
      | .ok (events : List Inventory.Event) =>
          pure
            (writeJSON w 200
              (.object [("events", .array (events.map (eventFrom api)))]))

def getEvent (api : API) (id : String) : Handler := fun r w => do
  match ← call r (.getEvent id) with
  | .error err => pure (fail w err)
  | .ok event =>
      pure (writeJSON w 200 (.object [("event", eventFrom api event)]))

def seatFrom (s : Inventory.Seat) : Json :=
  .object
    [("id", .string s.id), ("label", .string s.label),
      ("status", .string (SeatMap.seatStatusName s.status))]

def listSeats (id : String) : Handler := fun r w => do
  match ← call r (.listSeats id) with
  | .error err => pure (fail w err)
  | .ok (seats : List Inventory.Seat) =>
      pure
        (writeJSON w 200 (.object [("seats", .array (seats.map seatFrom))]))

def createEvent (api : API) : Handler := fun r w =>
  match decodeJSON api api.createEventBody r with
  | .error err => pure (writeError w err)
  | .ok body => do
      match ← call r (.createEvent body) with
      | .error err => pure (fail w err)
      | .ok eventId =>
          pure (writeJSON w 201 (.object [("event_id", .string eventId)]))

/-- `orderView`; empty fields other than the ID and the status are left
out. -/
def orderView (view : OrderView) : Json :=
  .object
    ([("order_id", .string view.orderId)] ++
      (if view.eventId = "" then [] else [("event_id", .string view.eventId)]) ++
      (if view.seatIds = [] then []
        else [("seat_ids", .array (view.seatIds.map .string))]) ++
      (if view.amountCents = 0 then []
        else [("amount_cents", .int view.amountCents)]) ++
      [("status", .string view.status)])

def writeReply (w : Writer) : Reply → Response
  | .error err => writeError w err
  | .order status view => writeJSON w status (orderView view)

def createOrder (api : API) : Handler := fun r w =>
  match r.context.claims with
  | none => pure (writeError w ⟨401, "unauthenticated", "sign in to continue"⟩)
  | some claims =>
      match decodeJSON api api.createOrderBody r with
      | .error err => pure (writeError w err)
      | .ok body =>
          match
            createOrderCall api.seatPriceCents claims body
              (r.header "Idempotency-Key")
          with
          | .error err => pure (writeError w err)
          | .ok req => do
              let resp ← call r (.createOrder req)
              pure (writeReply w (createOrderReply resp))

def getOrder (id : String) : Handler := fun r w =>
  match r.context.claims with
  | none => pure (writeError w ⟨401, "unauthenticated", "sign in to continue"⟩)
  | some claims => do
      let resp ← call r (.getOrder id)
      pure (writeReply w (orderReply claims resp))

def statsFrom (api : API) (view : StatsView) : Json :=
  .object
    [("event_id", .string view.eventId), ("event_name", .string view.eventName),
      ("tickets_sold", .int view.ticketsSold),
      ("revenue_cents", .int view.revenueCents),
      ("orders_confirmed", .int view.ordersConfirmed),
      ("orders_failed", .int view.ordersFailed),
      ("updated_at", .string (api.timeText view.updatedAt))]

def listAnalytics (api : API) : Handler := fun r w =>
  match queryLimit r.limit with
  | .error err => pure (writeError w err)
  | .ok limit => do
      match ← call r (.listEventStats limit) with
      | .error err => pure (fail w err)
      | .ok (stats : List Analytics.EventStats) =>
          let events ← call r (.listEvents 200)
          let names :=
            match events with
            | .error _ => fun _ => ""
            | .ok (events : List Inventory.Event) => eventNames events
          pure
            (writeJSON w 200
              (.object
                [("events",
                  .array
                    (stats.map fun row =>
                      statsFrom api (statsView names row)))]))

def healthz : Handler := fun _ w =>
  pure (writeJSON w 200 (.object [("status", .string "ok")]))

def notFound : Handler := fun _ w =>
  pure (writeError w ⟨404, "not_found", "no such endpoint"⟩)

/-- `path.Clean` on the parts of a path: empty parts and dots are dropped, and
two dots with the part before them. -/
def cleanParts (path : List String) : List String :=
  path.foldl
    (fun parts part =>
      if part = "" ∨ part = "." then parts
      else if part = ".." then parts.dropLast
      else parts ++ [part])
    []

/-- `cleanPath` of `net/http`: the slash at the end stays. -/
def cleanPath (path : List String) : List String :=
  if cleanParts path = [] then [""]
  else if path.getLast? = some "" then cleanParts path ++ [""]
  else cleanParts path

/-- `http.RedirectHandler`; the page that it writes for `GET` is left out. -/
def redirect (api : API) (path : List String) (rawQuery : String)
    (reads : Bool) : Handler := fun _ w =>
  let query := if rawQuery = "" then "" else "?" ++ rawQuery
  let w :=
    w.set "Location"
      (api.escapePath ("/" ++ String.intercalate "/" path) ++ query)
  let w := if reads then w.set "Content-Type" "text/html; charset=utf-8" else w
  pure ⟨api.redirectStatus, w.header, w.cookies, none⟩

inductive Route where
  | healthz
  | register
  | login
  | refresh
  | logout
  | listEvents
  | getEvent (id : String)
  | listSeats (id : String)
  | createOrder
  | getOrder (id : String)
  | createEvent
  | listAnalytics
  | unmatched
  /-- to the clean path; with a page for those who read -/
  | redirect (path : List String) (rawQuery : String) (reads : Bool)
  deriving DecidableEq, Repr

/-- The routes of `GET`, which are those of `HEAD`.  A path that ends in a
slash has an empty part, which is no ID. -/
def readRoute : List String → Route
  | ["healthz"] => .healthz
  | ["api", "events"] => .listEvents
  | ["api", "events", ""] => .unmatched
  | ["api", "events", id] => .getEvent id
  | ["api", "events", id, "seats"] => .listSeats id
  | ["api", "orders", ""] => .unmatched
  | ["api", "orders", id] => .getOrder id
  | ["api", "analytics", "events"] => .listAnalytics
  | _ => .unmatched

def postRoute : List String → Route
  | ["api", "auth", "register"] => .register
  | ["api", "auth", "login"] => .login
  | ["api", "auth", "refresh"] => .refresh
  | ["api", "auth", "logout"] => .logout
  | ["api", "orders"] => .createOrder
  | ["api", "events"] => .createEvent
  | _ => .unmatched

/-- The methods `GET` and `HEAD`. -/
def Request.reads (r : Request) : Bool :=
  r.method = "GET" || r.method = "HEAD"

def Request.route (r : Request) : Route :=
  if r.method ≠ "CONNECT" ∧ cleanPath r.rawPath ≠ r.rawPath then
    .redirect (cleanPath r.rawPath) r.rawQuery r.reads
  else if r.reads then readRoute r.path
  else if r.method = "POST" then postRoute r.path
  else .unmatched

section Routes

variable (api : API)

def perIP (name : String) (count : Int) : Middleware :=
  limit name count minute (byIP api)

def perUser (name : String) (count : Int) : Middleware :=
  limit name count minute (byUser api)

def roleOrganizer : String := "organizer"

def organizer : Middleware := requireRole roleOrganizer

def routes : Route → Handler
  | .healthz => healthz
  | .register => chain (register api) [perIP api "register" 5]
  | .login => chain (login api) [perIP api "login" 10]
  | .refresh => chain (refresh api) [csrf, perIP api "refresh" 30]
  | .logout => chain (logout api) [csrf, perIP api "logout" 30]
  | .listEvents => chain (listEvents api) [perIP api "browse" 120]
  | .getEvent id => chain (getEvent api id) [perIP api "browse" 120]
  | .listSeats id => chain (listSeats id) [perIP api "browse" 120]
  | .createOrder =>
      chain (createOrder api) [authenticate, perUser api "orders" 20]
  | .getOrder id => chain (getOrder id) [authenticate, perUser api "read" 120]
  | .createEvent =>
      chain (createEvent api)
        [authenticate, organizer, perUser api "write" 30]
  | .listAnalytics =>
      chain (listAnalytics api)
        [authenticate, organizer, perUser api "read" 120]
  | .unmatched => notFound
  | .redirect path rawQuery reads => redirect api path rawQuery reads

/-- The handler of `New`, for a request as it arrives. -/
def serve (r : Request) : Program Response :=
  chain (fun r w => routes api r.route r w) [requestID, securityHeaders]
    { r with context := ⟨"", none⟩ } Writer.new

end Routes

section Services

variable (api : API) (answers : ∀ question, Ask.Answer question)

def credentialsOf (r : Request) : Credentials :=
  match bearerToken r with
  | none => .missing
  | some token =>
      match (answers (.verify token) : Option Claims) with
      | none => .rejected
      | some claims => .verified claims

def limitOf (reply : RateLimit.Reply) : Limit :=
  if reply.failed then .broken
  else if reply.result.allowed then .allowed
  else .refused

/-- The limit of the users of the route. -/
def readLimit (credentials : Credentials) : Limit :=
  match credentials with
  | .verified claims =>
      limitOf
        (answers (.allow ("read" ++ ":" ++ ("user:" ++ claims.userId)) 120 minute))
  | _ => .allowed

theorem spend_of_limit (w : Writer) (key : String) (count window : Int)
    (reply : RateLimit.Reply) :
    ∃ next,
      spend w key count window reply =
        if limitOf reply = .refused then
          .error
            (writeError next
              ⟨429, "rate_limited", "too many requests, try again shortly"⟩)
        else .ok next := by
  obtain ⟨⟨allowed, remaining, resetIn⟩, failed⟩ := reply
  cases failed <;> cases allowed <;> exact ⟨_, rfl⟩

/-- With an order-svc that has the orders, what the route of an order writes
is the answer of `getOrderRoute`. -/
theorem getOrder_writes_getOrderRoute
    {uuid : UuidText} {db : Order.Db} {id : String}
    (orders : ∀ requestId,
      answers (.call requestId (.getOrder id)) = Order.getOrder uuid db id)
    {r : Request} {w : Writer} {history : List Exchange} {response : Response}
    (ran : Asking.Runs (routes api (.getOrder id) r w) history response)
    (each : ∀ exchange ∈ history, exchange.answer = answers exchange.question) :
    ∃ next,
      response =
        writeReply next
          (getOrderRoute uuid db (credentialsOf answers r)
            (readLimit answers (credentialsOf answers r)) id) := by
  rw [ran.eq_answered each]
  simp only [routes, chain, List.foldr_cons, List.foldr_nil, authenticate,
    credentialsOf]
  cases bearerToken r with
  | none => exact ⟨_, rfl⟩
  | some token =>
      simp only [Asking.answered_bind]
      have isAnswer :
          (ask (.verify token)).answered answers = answers (.verify token) :=
        rfl
      rw [isAnswer]
      cases answers (.verify token) with
      | none => exact ⟨_, rfl⟩
      | some claims =>
          simp only [perUser, limit, allow, byUser, Asking.answered_bind]
          generalize isKey : "read" ++ ":" ++ ("user:" ++ claims.userId) = key
          obtain ⟨next, isSpent⟩ :=
            spend_of_limit w key 120 minute (answers (.allow key 120 minute))
          refine ⟨next, ?_⟩
          change
            (ifAllowed _
              (spend w key 120 minute
                (answers (.allow key 120 minute)))).answered answers = _
          rw [isSpent, readLimit, isKey]
          cases limitOf (answers (.allow key 120 minute)) with
          | refused => rfl
          | allowed | broken =>
              exact
                congrArg (fun resp => writeReply next (orderReply claims resp))
                  (orders r.context.requestId)

/-- The rows of the sales list, or the error. -/
def writeAnalytics (w : Writer) : AnalyticsReply → Response
  | .error err => writeError w err
  | .events status views =>
      writeJSON w status
        (.object [("events", .array (views.map (statsFrom api)))])

theorem listAnalytics_writes_listAnalytics
    {r : Request} {w : Writer} {history : List Exchange} {response : Response}
    (ran : Asking.Runs (listAnalytics api r w) history response)
    (each : ∀ exchange ∈ history, exchange.answer = answers exchange.question) :
    response =
      writeAnalytics api w
        (Gateway.listAnalytics
          (fun limit =>
            answers (.call r.context.requestId (.listEventStats limit)))
          (fun limit =>
            answers (.call r.context.requestId (.listEvents limit)))
          r.limit) := by
  rw [ran.eq_answered each]
  unfold listAnalytics Gateway.listAnalytics
  cases queryLimit r.limit with
  | error err => rfl
  | ok limit =>
      simp only [Asking.answered_bind]
      have isAnswer (rpc : Rpc) :
          (call r rpc).answered answers =
            answers (.call r.context.requestId rpc) :=
        rfl
      rw [isAnswer]
      cases answers (.call r.context.requestId (.listEventStats limit)) with
      | error err => rfl
      | ok stats =>
          simp only [Asking.answered_bind, isAnswer]
          change List Analytics.EventStats at stats
          rw [writeAnalytics, List.map_map]
          rfl

end Services

end TicketWave.Gateway.Api
