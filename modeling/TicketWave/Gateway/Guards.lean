import TicketWave.Gateway.Api

/-!
# What the gateway lets through

What it has seen before it calls a service, and what its answer carries.
-/

namespace TicketWave.Gateway.Api

open Library Library.Asking

def isSpend : Exchange → Bool
  | ⟨.allow _ _ _, _⟩ => true
  | _ => false

def refused : Exchange → Bool
  | ⟨.allow key limit window, reply⟩ =>
      !(allowance ⟨key, limit, window, 0⟩ reply).passed
  | _ => false

/-- A limit was spent, and none was refused. -/
structure Cleared (seen : List Exchange) : Prop where
  spent : ∃ exchange ∈ seen, isSpend exchange = true
  unrefused : ∀ exchange ∈ seen, refused exchange = false

def isCall : Exchange → Bool
  | ⟨.call _ _, _⟩ => true
  | _ => false

/-- The token of the request was verified, with these claims. -/
def Verified (r : Request) (seen : List Exchange) (claims : Claims) : Prop :=
  ∃ token, bearerToken r = some token ∧
    (⟨.verify token, some claims⟩ : Exchange) ∈ seen

/-- The names of the limits, each with its count for a minute. -/
def limits : List (String × Int) :=
  [("register", 5), ("login", 10), ("refresh", 30), ("logout", 30),
    ("browse", 120), ("orders", 20), ("read", 120), ("write", 30),
    ("login-email", 5)]

/-- An attempt on one of the limits, for some subject. -/
def Keyed (key : String) (count window : Int) : Prop :=
  ∃ name subject, key = name ++ ":" ++ subject ∧ (name, count) ∈ limits ∧
    window = minute

/-- What a call of a service takes. -/
def Permits (api : API) (r : Request) (seen : List Exchange) : Rpc → Prop
  | .register req => decodeJSON api api.credentials r = .ok req
  | .login req =>
      decodeJSON api api.credentials r = .ok req ∧
        ∃ reply,
          (⟨.allow (accountKey api req.email) 5 minute, reply⟩ : Exchange) ∈
            seen
  | .getEvent _ | .listEvents _ | .listSeats _ => True
  | .refresh token | .logout token =>
      r.header csrfHeader = csrfValue ∧ sessionCookie r = some token
  | .createOrder req =>
      ∃ claims body, Verified r seen claims ∧
        decodeJSON api api.createOrderBody r = .ok body ∧
        req.eventId = body.eventId ∧ req.seatIds = body.seatIds ∧
        req.userId = claims.userId ∧
        1 ≤ req.seatIds.length ∧ req.seatIds.length ≤ maxSeatsPerOrder ∧
        req.amountCents = int64 (req.seatIds.length * api.seatPriceCents) ∧
        req.idempotencyKey = r.header "Idempotency-Key" ∧
        validIdempotencyKey req.idempotencyKey = true
  | .getOrder _ => ∃ claims, Verified r seen claims
  | .createEvent req =>
      ∃ claims, Verified r seen claims ∧
        atLeast claims.role roleOrganizer = true ∧
        decodeJSON api api.createEventBody r = .ok req
  | .listEventStats _ =>
      ∃ claims, Verified r seen claims ∧
        atLeast claims.role roleOrganizer = true

/-- No service was called before, but for that of the sales whose events are
looked up. -/
def Follows (seen : List Exchange) (rpc : Rpc) : Prop :=
  ∀ exchange ∈ seen, isCall exchange = true →
    ∃ id count limit, exchange.question = .call id (.listEventStats count) ∧
      rpc = .listEvents limit

/-- The rules for one question, of a request with this ID. -/
def InOrder (api : API) (r : Request) (id : String) (seen : List Exchange) :
    Ask → Prop
  | .newString => True
  | .verify token => bearerToken r = some token
  | .allow key count window =>
      Keyed key count window ∧ ∀ exchange ∈ seen, refused exchange = false
  | .call requestId rpc =>
      requestId = id ∧ Cleared seen ∧ Permits api r seen rpc ∧ Follows seen rpc

/-- The tokens came from auth-svc. -/
def Issued (seen : List Exchange) (tokens : Tokens) : Prop :=
  ∃ id, (∃ req,
      (⟨.call id (.login req), (.ok tokens : Except Status Tokens)⟩ :
        Exchange) ∈ seen) ∨
    ∃ token,
      (⟨.call id (.refresh token), (.ok tokens : Except Status Tokens)⟩ :
        Exchange) ∈ seen

/-- The cookie ends the session or carries the one that was issued. -/
def OfSession (api : API) (seen : List Exchange) (cookie : Cookie) : Prop :=
  cookie = refreshCookie api "" (-1) ∨
    ∃ tokens, Issued seen tokens ∧
      cookie = refreshCookie api tokens.refreshToken refreshCookieMaxAge

/-- What an answer tells: that all went well, an error of the gateway's own,
or the error of a service.  The gateway finds a request unauthenticated before
it calls a service. -/
inductive Told (seen : List Exchange) : Nat → Option Json → Prop
  | well {status : Nat} {body : Option Json}
      (good : status = 200 ∨ status = 201 ∨ status = 204) :
      Told seen status body
  | own (err : HttpError) (client : 400 ≤ err.status ∧ err.status < 500)
      (early : err.status = 401 → ∀ exchange ∈ seen, isCall exchange = false) :
      Told seen err.status (some (errorBody err))
  | service {id : String} {rpc : Rpc} {err : Status}
      (failed : (⟨.call id rpc, .error err⟩ : Exchange) ∈ seen) :
      Told seen (httpError err).status (some (errorBody (httpError err)))

/-- The rules for an answer. -/
structure Fitting (api : API) (id : String) (seen : List Exchange)
    (response : Response) : Prop where
  told : Told seen response.status response.body
  marked : ("X-Request-ID", id) ∈ response.header
  uncached : ("Cache-Control", "no-store") ∈ response.header
  limited : (∃ exchange ∈ seen, refused exchange = true) → response.status = 429
  cookies : ∀ cookie ∈ response.cookies, OfSession api seen cookie

abbrev Good (api : API) (r : Request) (id : String) :
    List Exchange → Program Response → Prop :=
  Guards (InOrder api r id) (Fitting api id)

section Rules

variable {api : API} {r : Request} {id : String} {seen : List Exchange}

def Unrefused (seen : List Exchange) : Prop :=
  ∀ exchange ∈ seen, refused exchange = false

theorem Unrefused.append {later : List Exchange} (first : Unrefused seen)
    (second : Unrefused later) : Unrefused (seen ++ later) := by
  intro exchange member
  rcases List.mem_append.mp member with before | after
  · exact first exchange before
  · exact second exchange after

theorem unrefused_singleton {exchange : Exchange}
    (passes : refused exchange = false) : Unrefused [exchange] := by
  intro other member
  rw [List.mem_singleton.mp member]
  exact passes

/-- No limit was refused yet, and no service called. -/
structure Quiet (seen : List Exchange) : Prop where
  unrefused : Unrefused seen
  uncalled : ∀ exchange ∈ seen, isCall exchange = false

theorem Quiet.add (quiet : Quiet seen) {exchange : Exchange}
    (passes : refused exchange = false) (noCall : isCall exchange = false) :
    Quiet (seen ++ [exchange]) where
  unrefused := quiet.unrefused.append (unrefused_singleton passes)
  uncalled := by
    intro other member
    rcases List.mem_append.mp member with before | last
    · exact quiet.uncalled other before
    · rw [List.mem_singleton.mp last]
      exact noCall

/-- The handler may call. -/
structure Opened (seen : List Exchange) : Prop extends Cleared seen where
  uncalled : ∀ exchange ∈ seen, isCall exchange = false

theorem Opened.follows (opened : Opened seen) (rpc : Rpc) :
    Follows seen rpc := by
  intro exchange member isCalled
  rw [opened.uncalled exchange member] at isCalled
  cases isCalled

theorem Opened.quiet (opened : Opened seen) : Quiet seen :=
  ⟨opened.unrefused, opened.uncalled⟩

theorem Cleared.after_call (cleared : Cleared seen) (id : String) (rpc : Rpc)
    (answer : Except Status rpc.Reply) :
    Cleared (seen ++ [⟨.call id rpc, answer⟩]) := by
  obtain ⟨⟨spend, isSeen, isSpend⟩, unrefused⟩ := cleared
  exact ⟨⟨spend, List.mem_append_left _ isSeen, isSpend⟩,
    Unrefused.append unrefused (unrefused_singleton rfl)⟩

theorem Verified.mono {claims : Claims} (verified : Verified r seen claims)
    (later : List Exchange) : Verified r (seen ++ later) claims := by
  obtain ⟨token, isToken, isSeen⟩ := verified
  exact ⟨token, isToken, List.mem_append_left _ isSeen⟩

end Rules

/-- The writer has the request ID and no cookie. -/
structure Ready (id : String) (w : Writer) : Prop where
  marked : ("X-Request-ID", id) ∈ w.header
  fresh : w.cookies = []

section Answers

variable {api : API} {id : String} {seen : List Exchange} {w : Writer}

theorem mem_set_self (w : Writer) (name value : String) :
    (name, value) ∈ (w.set name value).header :=
  List.mem_append_right _ (List.mem_singleton_self _)

theorem mem_set_of_ne {name value other : String}
    (stored : (name, value) ∈ w.header) (different : name ≠ other)
    (set : String) : (name, value) ∈ (w.set other set).header :=
  List.mem_append_left _
    (List.mem_filter.mpr ⟨stored, decide_eq_true different⟩)

theorem Ready.set
    (ready : Ready id w) {name : String} (different : "X-Request-ID" ≠ name)
    (value : String) : Ready id (w.set name value) :=
  ⟨mem_set_of_ne ready.marked different value, ready.fresh⟩

theorem Ready.setAll (ready : Ready id w) {headers : List (String × String)}
    (different : ∀ entry ∈ headers, "X-Request-ID" ≠ entry.1) :
    Ready id (w.setAll headers) := by
  induction headers generalizing w with
  | nil => exact ready
  | cons entry headers ih =>
      rw [List.forall_mem_cons] at different
      exact ih (ready.set different.1 _) different.2

theorem marked_writeJSON
    (marked : ("X-Request-ID", id) ∈ w.header) (status : Nat) (v : Json) :
    ("X-Request-ID", id) ∈ (writeJSON w status v).header :=
  mem_set_of_ne (mem_set_of_ne marked (by decide) _) (by decide) _

theorem uncached_writeJSON (w : Writer) (status : Nat) (v : Json) :
    ("Cache-Control", "no-store") ∈ (writeJSON w status v).header :=
  mem_set_self _ _ _

theorem limited_of_unrefused (unrefused : Unrefused seen) (status : Nat) :
    (∃ exchange ∈ seen, refused exchange = true) → status = 429 := by
  rintro ⟨exchange, isSeen, isRefused⟩
  rw [unrefused exchange isSeen] at isRefused
  cases isRefused

theorem Ready.fitting (ready : Ready id w) (unrefused : Unrefused seen)
    {status : Nat} {v : Json} (told : Told seen status (some v)) :
    Fitting api id seen (writeJSON w status v) where
  told := told
  marked := marked_writeJSON ready.marked status v
  uncached := uncached_writeJSON w status v
  limited := limited_of_unrefused unrefused status
  cookies := by
    intro cookie member
    have none : cookie ∈ w.cookies := member
    rw [ready.fresh] at none
    cases none

theorem Ready.well (ready : Ready id w) (unrefused : Unrefused seen)
    {status : Nat} (good : status = 200 ∨ status = 201 ∨ status = 204)
    (v : Json) : Fitting api id seen (writeJSON w status v) :=
  ready.fitting unrefused (.well good)

theorem Ready.refuses (ready : Ready id w) (quiet : Quiet seen)
    {err : HttpError} (client : 400 ≤ err.status ∧ err.status < 500) :
    Fitting api id seen (writeError w err) :=
  ready.fitting quiet.unrefused (.own err client fun _ => quiet.uncalled)

theorem Ready.fails (ready : Ready id w) (unrefused : Unrefused seen)
    {requestId : String} {rpc : Rpc} {err : Status}
    (failed : (⟨.call requestId rpc, .error err⟩ : Exchange) ∈ seen) :
    Fitting api id seen (fail w err) :=
  ready.fitting unrefused (.service failed)

theorem Ready.mem_setCookie (ready : Ready id w) {cookie other : Cookie}
    (member : other ∈ (w.setCookie cookie).cookies) : other = cookie := by
  rw [Writer.setCookie, ready.fresh] at member
  exact List.mem_singleton.mp member

theorem Ready.fitting_cookie (ready : Ready id w) (unrefused : Unrefused seen)
    {cookie : Cookie} (ofSession : OfSession api seen cookie) {status : Nat}
    {v : Json} (told : Told seen status (some v)) :
    Fitting api id seen (writeJSON (w.setCookie cookie) status v) where
  told := told
  marked := marked_writeJSON ready.marked status v
  uncached := uncached_writeJSON _ status v
  limited := limited_of_unrefused unrefused status
  cookies := by
    intro other member
    rw [ready.mem_setCookie member]
    exact ofSession

theorem mem_last (exchange : Exchange) : exchange ∈ seen ++ [exchange] :=
  List.mem_append_right _ (List.mem_singleton_self _)

theorem names_allowance (call : RateLimit.Call) (reply : RateLimit.Reply) :
    (allowance call reply).headers.map Prod.fst <+:
      ["X-RateLimit-Limit", "X-RateLimit-Remaining", "Retry-After"] := by
  obtain ⟨⟨allowed, remaining, resetIn⟩, failed⟩ := reply
  cases failed with
  | true => exact List.nil_prefix
  | false =>
      cases allowed with
      | true => exact ⟨["Retry-After"], rfl⟩
      | false => exact ⟨[], rfl⟩

theorem ready_allowance
    (ready : Ready id w) (call : RateLimit.Call) (reply : RateLimit.Reply) :
    Ready id (w.setAll (allowance call reply).headers) := by
  refine ready.setAll fun entry member same => ?_
  have name := (names_allowance call reply).subset (List.mem_map_of_mem member)
  rw [← same] at name
  revert name
  decide

end Answers

section Middlewares

variable {api : API} {origin r : Request} {id : String}
  {seen : List Exchange} {next : Handler} {w : Writer}

theorem spend_eq (w : Writer) (key : String) (count window : Int)
    (reply : RateLimit.Reply) :
    spend w key count window reply =
      if (allowance ⟨key, count, window, 0⟩ reply).passed then
        .ok (w.setAll (allowance ⟨key, count, window, 0⟩ reply).headers)
      else
        .error
          (writeError
            (w.setAll (allowance ⟨key, count, window, 0⟩ reply).headers)
            ⟨429, "rate_limited", "too many requests, try again shortly"⟩) := by
  obtain ⟨⟨allowed, remaining, resetIn⟩, failed⟩ := reply
  cases failed <;> cases allowed <;> rfl

/-- An attempt passes and leaves a limit that was spent, or the answer is a
429. -/
theorem spend_cases (ready : Ready id w) (quiet : Quiet seen) (key : String)
    (count window : Int) (reply : RateLimit.Reply) :
    (∃ passed, spend w key count window reply = .ok passed ∧
        Ready id passed ∧
        Opened (seen ++ [⟨.allow key count window, reply⟩])) ∨
      ∃ response, spend w key count window reply = .error response ∧
        Fitting api id (seen ++ [⟨.allow key count window, reply⟩])
          response := by
  have readyAfter := ready_allowance ready ⟨key, count, window, 0⟩ reply
  have spent :
      ∃ exchange ∈ seen ++ [⟨.allow key count window, reply⟩],
        isSpend exchange = true :=
    ⟨_, mem_last _, rfl⟩
  rw [spend_eq]
  cases passed : (allowance ⟨key, count, window, 0⟩ reply).passed with
  | true =>
      have isPassed :
          refused ⟨.allow key count window, reply⟩ = false := by
        show (!(allowance ⟨key, count, window, 0⟩ reply).passed) = false
        rw [passed]
        rfl
      have still := quiet.add isPassed rfl
      exact
        Or.inl ⟨_, rfl, readyAfter, ⟨spent, still.unrefused⟩, still.uncalled⟩
  | false =>
      refine Or.inr ⟨_, rfl, ?_⟩
      refine ⟨.own ⟨429, _, _⟩ (by decide : 400 ≤ 429 ∧ 429 < 500)
          (fun unauthenticated => nomatch unauthenticated),
        marked_writeJSON readyAfter.marked _ _, uncached_writeJSON _ _ _,
        fun _ => rfl, ?_⟩
      intro cookie member
      have none :
          cookie ∈
            (w.setAll (allowance ⟨key, count, window, 0⟩
              reply).headers).cookies := member
      rw [readyAfter.fresh] at none
      cases none

theorem good_limit {name : String} {count : Int} {key : Request → String}
    (known : (name, count) ∈ limits) (ready : Ready id w) (quiet : Quiet seen)
    (passes :
      ∀ later w, Ready id w → Opened (seen ++ later) →
        Good api origin id (seen ++ later) (next r w)) :
    Good api origin id seen (limit name count minute key next r w) := by
  refine ⟨⟨⟨name, key r, rfl, known, rfl⟩, quiet.unrefused⟩, fun reply => ?_⟩
  show Good api origin id _
    (ifAllowed (next r) (spend w (name ++ ":" ++ key r) count minute reply))
  rcases spend_cases ready quiet (name ++ ":" ++ key r) count minute
      reply with ⟨passed, isPassed, readyAfter, opened⟩ | ⟨_, isRefused, fits⟩
  · rw [isPassed]
    exact passes _ passed readyAfter opened
  · rw [isRefused]
    exact fits

theorem good_authenticate (ready : Ready id w) (quiet : Quiet seen)
    (same : bearerToken r = bearerToken origin)
    (passes :
      ∀ later claims, Verified origin (seen ++ later) claims →
        Quiet (seen ++ later) →
        Good api origin id (seen ++ later)
          (next { r with context := { r.context with claims := some claims } }
            w)) : Good api origin id seen (authenticate next r w) := by
  unfold authenticate
  cases isToken : bearerToken r with
  | none => exact (ready.set (by decide) _).refuses quiet (by decide)
  | some token =>
      rw [same] at isToken
      refine ⟨isToken, fun answer => ?_⟩
      have still : Quiet (seen ++ [⟨.verify token, answer⟩]) :=
        quiet.add rfl rfl
      cases answer with
      | none => exact (ready.set (by decide) _).refuses still (by decide)
      | some claims =>
          refine passes [⟨.verify token, some claims⟩] claims ?_ still
          exact ⟨token, isToken,
            List.mem_append_right _ (List.mem_singleton_self _)⟩

theorem good_requireRole
    {min : String} (ready : Ready id w) (quiet : Quiet seen)
    (passes :
      ∀ claims, r.context.claims = some claims →
        atLeast claims.role min = true →
        Good api origin id seen (next r w)) :
    Good api origin id seen (requireRole min next r w) := by
  unfold requireRole
  cases isClaims : r.context.claims with
  | none => exact ready.refuses quiet (by decide)
  | some claims =>
      by_cases ranked : atLeast claims.role min = true
      · simp only [if_pos ranked]
        exact passes claims isClaims ranked
      · simp only [if_neg ranked]
        exact ready.refuses quiet (by decide)

theorem good_csrf (ready : Ready id w) (quiet : Quiet seen)
    (passes :
      r.header csrfHeader = csrfValue → Good api origin id seen (next r w)) :
    Good api origin id seen (csrf next r w) := by
  unfold csrf
  by_cases shown : r.header csrfHeader = csrfValue
  · rw [if_neg (not_not.mpr shown)]
    exact passes shown
  · rw [if_pos shown]
    exact ready.refuses quiet (by decide)

end Middlewares

/-- The request as it reaches a handler. -/
def Request.inside (r : Request) (id : String) (claims : Option Claims) :
    Request :=
  { r with context := ⟨id, claims⟩ }

variable {err : HttpError}

theorem client_of_decodeJSON {api : API} {Struct : Type}
    {decoder : Decoder Struct} {r : Request}
    (refused : decodeJSON api decoder r = .error err) :
    400 ≤ err.status ∧ err.status < 500 := by
  unfold decodeJSON at refused
  split at refused
  · cases refused
    decide
  · split at refused
    · rename_i reason _
      cases refused
      cases reason <;> simp [bodyError]
    · cases refused

theorem client_of_queryLimit {raw : String}
    (refused : queryLimit raw = .error err) :
    400 ≤ err.status ∧ err.status < 500 := by
  unfold queryLimit at refused
  split at refused
  · cases refused
  · split at refused
    · cases refused
      decide
    · split at refused
      · cases refused
        decide
      · cases refused

theorem client_of_createOrderCall {price : Int} {claims : Claims}
    {body : CreateOrderBody} {key : String}
    (refused : createOrderCall price claims body key = .error err) :
    400 ≤ err.status ∧ err.status < 500 := by
  unfold createOrderCall at refused
  split at refused
  · cases refused
    decide
  · split at refused
    · cases refused
      decide
    · cases refused

section Handlers

variable {api : API} {origin : Request} {id : String} {seen : List Exchange}
  {w : Writer} {claims : Option Claims}

theorem good_call {rpc : Rpc}
    {answered : Except Status rpc.Reply → Program Response} (ready : Ready id w)
    (opened : Opened seen) (permits : Permits api origin seen rpc)
    (fails : ∀ err, answered (.error err) = pure (fail w err))
    (goesWell :
      ∀ reply, ∃ status v,
        answered (.ok reply) = pure (writeJSON w status v) ∧
          (status = 200 ∨ status = 201 ∨ status = 204)) :
    Good api origin id seen (.ask (.call id rpc) answered) := by
  refine ⟨⟨rfl, opened.toCleared, permits, opened.follows _⟩, fun answer => ?_⟩
  have still := (opened.after_call id rpc answer).unrefused
  cases answer with
  | error err =>
      rw [fails]
      exact ready.fails still (mem_last _)
  | ok reply =>
      obtain ⟨status, v, isWritten, good⟩ := goesWell reply
      rw [isWritten]
      exact ready.well still good v

theorem good_register (ready : Ready id w) (opened : Opened seen) :
    Good api origin id seen
      (register api (origin.inside id claims) w) := by
  unfold register
  split
  · rename_i refused
    exact ready.refuses opened.quiet (client_of_decodeJSON refused)
  · rename_i decoded
    exact good_call ready opened decoded (fun _ => rfl) fun _ =>
      ⟨201, _, rfl, by decide⟩

theorem good_login (ready : Ready id w) (opened : Opened seen) :
    Good api origin id seen
      (login api (origin.inside id claims) w) := by
  unfold login
  split
  · rename_i refused
    exact ready.refuses opened.quiet (client_of_decodeJSON refused)
  · rename_i body decoded
    have keyed : Keyed (accountKey api body.email) 5 minute :=
      ⟨"login-email", api.hashKey body.email, rfl, by decide, rfl⟩
    refine ⟨⟨keyed, opened.unrefused⟩, fun reply => ?_⟩
    rcases spend_cases ready opened.quiet
        (accountKey api body.email) 5 minute reply with
      ⟨passed, isPassed, readyAfter, openedAfter⟩ | ⟨_, isRefused, fits⟩
    · show Good api origin id _ (ifAllowed _ (spend w _ 5 minute reply))
      rw [isPassed]
      refine ⟨⟨rfl, openedAfter.toCleared, ⟨decoded, reply, mem_last _⟩,
        openedAfter.follows _⟩, fun answer => ?_⟩
      have still := (openedAfter.after_call id _ answer).unrefused
      cases answer with
      | error err => exact readyAfter.fails still (mem_last _)
      | ok tokens =>
          refine readyAfter.fitting_cookie still (Or.inr ⟨tokens, ?_, rfl⟩)
            (.well (by decide))
          exact ⟨id, Or.inl ⟨body, mem_last _⟩⟩
    · show Good api origin id _ (ifAllowed _ (spend w _ 5 minute reply))
      rw [isRefused]
      exact fits

theorem good_refresh (ready : Ready id w) (opened : Opened seen)
    (shown : origin.header csrfHeader = csrfValue) :
    Good api origin id seen
      (refresh api (origin.inside id claims) w) := by
  unfold refresh
  cases isCookie : sessionCookie (origin.inside id claims) with
  | none => exact ready.refuses opened.quiet (by decide)
  | some token =>
      refine ⟨⟨rfl, opened.toCleared, ⟨shown, isCookie⟩, opened.follows _⟩,
        fun answer => ?_⟩
      have still := (opened.after_call id _ answer).unrefused
      cases answer with
      | error err =>
          show Good api origin id _
            (if err.code = .unauthenticated then _ else _)
          split
          · exact ready.fitting_cookie still (Or.inl rfl)
              (.service (mem_last _))
          · exact ready.fails still (mem_last _)
      | ok tokens =>
          refine ready.fitting_cookie still (Or.inr ⟨tokens, ?_, rfl⟩)
            (.well (by decide))
          exact ⟨id, Or.inr ⟨token, mem_last _⟩⟩

theorem fitting_loggedOut (ready : Ready id w) (unrefused : Unrefused seen) :
    Fitting api id seen (loggedOut api w) where
  told := .well (Or.inr (Or.inr rfl))
  marked := mem_set_of_ne ready.marked (by decide) _
  uncached := mem_set_self _ _ _
  limited := limited_of_unrefused unrefused 204
  cookies := by
    intro cookie member
    rw [ready.mem_setCookie member]
    exact Or.inl rfl

theorem good_logout (ready : Ready id w) (opened : Opened seen)
    (shown : origin.header csrfHeader = csrfValue) :
    Good api origin id seen
      (logout api (origin.inside id claims) w) := by
  unfold logout
  cases isCookie : sessionCookie (origin.inside id claims) with
  | none => exact fitting_loggedOut ready opened.unrefused
  | some token =>
      refine ⟨⟨rfl, opened.toCleared, ⟨shown, isCookie⟩, opened.follows _⟩,
        fun answer => ?_⟩
      exact fitting_loggedOut ready (opened.after_call id _ answer).unrefused

theorem good_listEvents (ready : Ready id w) (opened : Opened seen) :
    Good api origin id seen
      (listEvents api (origin.inside id claims) w) := by
  unfold listEvents
  split
  · rename_i refused
    exact ready.refuses opened.quiet (client_of_queryLimit refused)
  · exact good_call ready opened trivial (fun _ => rfl) fun _ =>
      ⟨200, _, rfl, by decide⟩

theorem good_getEvent
    (ready : Ready id w) (opened : Opened seen) (eventId : String) :
    Good api origin id seen
      (getEvent api eventId (origin.inside id claims) w) :=
  good_call ready opened trivial (fun _ => rfl) fun _ =>
    ⟨200, _, rfl, by decide⟩

theorem good_listSeats
    (ready : Ready id w) (opened : Opened seen) (eventId : String) :
    Good api origin id seen
      (listSeats eventId (origin.inside id claims) w) :=
  good_call ready opened trivial (fun _ => rfl) fun _ =>
    ⟨200, _, rfl, by decide⟩

section Claims

variable {claims : Claims}

theorem permits_createOrder
    (verified : Verified origin seen claims) {body : CreateOrderBody}
    (decoded : decodeJSON api api.createOrderBody origin = .ok body)
    {req : Order.CreateOrderRequest}
    (called :
      createOrderCall api.seatPriceCents claims body
        (origin.header "Idempotency-Key") = .ok req) :
    Permits api origin seen (.createOrder req) := by
  unfold createOrderCall at called
  split at called
  · cases called
  · rename_i counted
    split at called
    · cases called
    · rename_i valid
      cases called
      rw [not_or, Nat.not_lt, Nat.not_lt] at counted
      refine ⟨claims, body, verified, decoded, rfl, rfl, rfl, counted.1,
        counted.2, rfl, rfl, ?_⟩
      rw [Bool.not_eq_true, Bool.not_eq_false'] at valid
      exact valid

theorem fitting_createOrderReply
    (ready : Ready id w) (unrefused : Unrefused seen) {requestId : String}
    {req : Order.CreateOrderRequest}
    {answer : Except Status Order.CreateOrderResponse}
    (called :
      (⟨.call requestId (.createOrder req), answer⟩ : Exchange) ∈ seen) :
    Fitting api id seen (writeReply w (createOrderReply answer)) := by
  cases answer with
  | error err => exact ready.fails unrefused called
  | ok resp => exact ready.well unrefused (by decide) _

theorem fitting_orderReply (ready : Ready id w) (unrefused : Unrefused seen)
    {requestId orderId : String} {answer : Except Status Order.GetOrderResponse}
    (called :
      (⟨.call requestId (.getOrder orderId), answer⟩ : Exchange) ∈ seen) :
    Fitting api id seen (writeReply w (orderReply claims answer)) := by
  cases answer with
  | error err => exact ready.fails unrefused called
  | ok resp =>
      unfold orderReply
      split
      · rename_i failed
        cases failed
      · rename_i found
        cases found
        split
        · refine ready.fitting unrefused (.own ⟨404, _, _⟩ ?_ ?_)
          · exact (by decide : 400 ≤ 404 ∧ 404 < 500)
          · exact fun unauthenticated => nomatch unauthenticated
        · exact ready.well unrefused (by decide) _

theorem good_createOrder (ready : Ready id w) (opened : Opened seen)
    (verified : Verified origin seen claims) :
    Good api origin id seen
      (createOrder api (origin.inside id (some claims)) w) := by
  unfold createOrder
  split
  · exact ready.refuses opened.quiet (by decide)
  · rename_i held isHeld
    cases isHeld
    split
    · rename_i refused
      exact ready.refuses opened.quiet (client_of_decodeJSON refused)
    · rename_i decoded
      split
      · rename_i refused
        exact ready.refuses opened.quiet (client_of_createOrderCall refused)
      · rename_i called
        refine
          ⟨⟨rfl, opened.toCleared, permits_createOrder verified decoded called,
              opened.follows _⟩, fun answer => ?_⟩
        exact fitting_createOrderReply ready
          (opened.after_call id _ answer).unrefused (mem_last _)

theorem good_getOrder (ready : Ready id w) (opened : Opened seen)
    (verified : Verified origin seen claims) (orderId : String) :
    Good api origin id seen
      (getOrder orderId (origin.inside id (some claims)) w) :=
  ⟨⟨rfl, opened.toCleared, ⟨claims, verified⟩, opened.follows _⟩,
    fun answer =>
    fitting_orderReply ready (opened.after_call id _ answer).unrefused
      (mem_last _)⟩

theorem good_createEvent (ready : Ready id w) (opened : Opened seen)
    (verified : Verified origin seen claims)
    (ranked : atLeast claims.role roleOrganizer = true) :
    Good api origin id seen
      (createEvent api (origin.inside id (some claims)) w) := by
  unfold createEvent
  split
  · rename_i refused
    exact ready.refuses opened.quiet (client_of_decodeJSON refused)
  · rename_i decoded
    exact good_call ready opened ⟨claims, verified, ranked, decoded⟩
      (fun _ => rfl) fun _ => ⟨201, _, rfl, by decide⟩

theorem good_listAnalytics (ready : Ready id w) (opened : Opened seen)
    (verified : Verified origin seen claims)
    (ranked : atLeast claims.role roleOrganizer = true) :
    Good api origin id seen
      (listAnalytics api (origin.inside id (some claims)) w) := by
  unfold listAnalytics
  split
  · rename_i refused
    exact ready.refuses opened.quiet (client_of_queryLimit refused)
  · refine ⟨⟨rfl, opened.toCleared, ⟨claims, verified, ranked⟩,
      opened.follows _⟩, fun answer => ?_⟩
    have still := opened.after_call id _ answer
    cases answer with
    | error err => exact ready.fails still.unrefused (mem_last _)
    | ok stats =>
        refine ⟨⟨rfl, still, trivial, ?_⟩, fun events => ?_⟩
        · intro exchange member isCalled
          rcases List.mem_append.mp member with before | last
          · rw [opened.uncalled exchange before] at isCalled
            cases isCalled
          · rw [List.mem_singleton.mp last]
            exact ⟨_, _, _, rfl, rfl⟩
        exact ready.well (still.after_call id _ events).unrefused (by decide) _

end Claims

end Handlers

section Routes

variable {api : API} {origin : Request} {id : String} {seen : List Exchange}
  {w : Writer} {handler : Handler}

theorem good_perIP {name : String} {count : Int}
    (known : (name, count) ∈ limits) (ready : Ready id w) (quiet : Quiet seen)
    (good :
      ∀ {seen w}, Ready id w → Opened seen →
        Good api origin id seen (handler (origin.inside id none) w)) :
    Good api origin id seen
      (perIP api name count handler (origin.inside id none) w) :=
  good_limit known ready quiet fun _ _ => good

theorem good_perUser {name : String} {count : Int} {claims : Claims}
    (known : (name, count) ∈ limits) (ready : Ready id w) (quiet : Quiet seen)
    (verified : Verified origin seen claims)
    (good :
      ∀ {seen w}, Ready id w → Opened seen → Verified origin seen claims →
        Good api origin id seen
          (handler (origin.inside id (some claims)) w)) :
    Good api origin id seen
      (perUser api name count handler (origin.inside id (some claims)) w) :=
  good_limit known ready quiet fun later _ ready opened =>
    good ready opened (verified.mono later)

theorem good_signedIn (ready : Ready id w) (quiet : Quiet seen)
    (good :
      ∀ {seen claims}, Quiet seen → Verified origin seen claims →
        Good api origin id seen
          (handler (origin.inside id (some claims)) w)) :
    Good api origin id seen
      (authenticate handler (origin.inside id none) w) :=
  good_authenticate ready quiet rfl fun _ _ verified quiet =>
    good quiet verified

theorem good_organizer {claims : Claims} (ready : Ready id w)
    (quiet : Quiet seen)
    (good :
      atLeast claims.role roleOrganizer = true →
        Good api origin id seen
          (handler (origin.inside id (some claims)) w)) :
    Good api origin id seen
      (organizer handler (origin.inside id (some claims)) w) := by
  refine good_requireRole ready quiet fun held isHeld ranked => ?_
  cases isHeld
  exact good ranked

/-- The path of the request is one that `ServeMux` takes as it is. -/
def Route.taken : Route → Bool
  | .redirect _ _ _ => false
  | _ => true

theorem good_routes (ready : Ready id w) (quiet : Quiet seen) {route : Route}
    (taken : route.taken = true) :
    Good api origin id seen
      (routes api route (origin.inside id none) w) := by
  cases route with
  | healthz => exact ready.well quiet.unrefused (by decide) _
  | register => exact good_perIP (by decide) ready quiet good_register
  | login => exact good_perIP (by decide) ready quiet good_login
  | refresh =>
      refine good_csrf ready quiet fun shown => ?_
      exact good_perIP (by decide) ready quiet fun ready opened =>
        good_refresh ready opened shown
  | logout =>
      refine good_csrf ready quiet fun shown => ?_
      exact good_perIP (by decide) ready quiet fun ready opened =>
        good_logout ready opened shown
  | listEvents => exact good_perIP (by decide) ready quiet good_listEvents
  | getEvent eventId =>
      exact good_perIP (by decide) ready quiet fun ready opened =>
        good_getEvent ready opened eventId
  | listSeats eventId =>
      exact good_perIP (by decide) ready quiet fun ready opened =>
        good_listSeats ready opened eventId
  | createOrder =>
      refine good_signedIn ready quiet fun quiet verified => ?_
      exact good_perUser (by decide) ready quiet verified good_createOrder
  | getOrder orderId =>
      refine good_signedIn ready quiet fun quiet verified => ?_
      exact good_perUser (by decide) ready quiet verified
        fun ready opened verified =>
          good_getOrder ready opened verified orderId
  | createEvent =>
      refine good_signedIn ready quiet fun quiet verified => ?_
      refine good_organizer ready quiet fun ranked => ?_
      exact good_perUser (by decide) ready quiet verified
        fun ready opened verified =>
          good_createEvent ready opened verified ranked
  | listAnalytics =>
      refine good_signedIn ready quiet fun quiet verified => ?_
      refine good_organizer ready quiet fun ranked => ?_
      exact good_perUser (by decide) ready quiet verified
        fun ready opened verified =>
          good_listAnalytics ready opened verified ranked
  | unmatched => exact ready.refuses quiet (by decide)
  | redirect path rawQuery reads => cases taken

/-- The request behind the outer middlewares. -/
def served (api : API) (r : Request) (id : String) : Program Response :=
  securityHeaders (fun r w => routes api r.route r w) (r.inside id none)
    (Writer.new.set "X-Request-ID" id)

theorem serve_eq (api : API) (r : Request) :
    serve api r =
      if validRequestID (r.header "X-Request-ID") then
        served api r (r.header "X-Request-ID")
      else
        .ask .newString fun id => served api r (standardString id) :=
  rfl

/-- Nothing was asked yet but for an ID of the request. -/
def Unasked (seen : List Exchange) : Prop :=
  ∀ exchange ∈ seen, exchange.question = .newString

theorem Unasked.quiet (unasked : Unasked seen) : Quiet seen where
  unrefused := by
    rintro ⟨question, answer⟩ member
    cases unasked _ member
    rfl
  uncalled := by
    rintro ⟨question, answer⟩ member
    cases unasked _ member
    rfl

/-- `ServeMux` has sent the request to the clean form of its path. -/
structure Moved (api : API) (seen : List Exchange) (response : Response) :
    Prop where
  status : response.status = api.redirectStatus
  bare : response.cookies = []
  unasked : Unasked seen

/-- The rules for an answer to any path. -/
structure Passable (api : API) (r : Request) (id : String)
    (seen : List Exchange) (response : Response) : Prop where
  marked : ("X-Request-ID", id) ∈ response.header
  fitting : r.route.taken = true → Fitting api id seen response
  moved : r.route.taken = false → Moved api seen response

theorem good_redirect (r : Request) (ready : Ready id w)
    (unasked : Unasked seen) {path : List String} {rawQuery : String}
    {reads : Bool} (moved : origin.route = .redirect path rawQuery reads) :
    Guards (InOrder api origin id) (Passable api origin id) seen
      (redirect api path rawQuery reads r w) := by
  have taken : origin.route.taken = false := by
    rw [moved]
    rfl
  refine ⟨?_, fun isTaken => ?_, fun _ => ⟨rfl, ?_, unasked⟩⟩
  · dsimp only
    split
    · exact
        mem_set_of_ne (mem_set_of_ne ready.marked (by decide) _) (by decide) _
    · exact mem_set_of_ne ready.marked (by decide) _
  · rw [taken] at isTaken
    cases isTaken
  · dsimp only
    split <;> exact ready.fresh

theorem good_served
    (api : API) (r : Request) (id : String) (unasked : Unasked seen) :
    Guards (InOrder api r id) (Passable api r id) seen
      (served api r id) := by
  have marked : Ready id (Writer.new.set "X-Request-ID" id) :=
    ⟨mem_set_self _ _ _, rfl⟩
  have ready :
      Ready id
        (((Writer.new.set "X-Request-ID" id).set "X-Content-Type-Options"
          "nosniff").set "Referrer-Policy" "no-referrer") :=
    (marked.set (by decide) _).set (by decide) _
  cases taken : r.route.taken with
  | true =>
      refine Guards.mono (good_routes ready unasked.quiet taken)
        fun seen response fits =>
          ⟨fits.marked, fun _ => fits, fun moved => ?_⟩
      rw [taken] at moved
      cases moved
  | false =>
      cases moved : r.route with
      | redirect path rawQuery reads =>
          unfold served securityHeaders
          dsimp only
          have isMoved : (r.inside id none).route = .redirect path rawQuery reads :=
            moved
          rw [isMoved]
          exact good_redirect (r.inside id none) ready unasked moved
      | _ =>
          rw [moved] at taken
          cases taken

end Routes

theorem length_writeMasked {mask : List Bool} {digits : List Nat}
    (enough : mask.count true = digits.length) :
    (writeMasked mask digits).length = mask.length := by
  induction mask generalizing digits with
  | nil => rfl
  | cons first mask ih =>
      cases first with
      | false =>
          rw [List.count_cons_of_ne (by decide)] at enough
          rw [writeMasked, List.length_cons, List.length_cons, ih enough]
      | true =>
          rw [List.count_cons_self] at enough
          cases digits with
          | nil => cases enough
          | cons digit digits =>
              rw [writeMasked, List.length_cons, List.length_cons,
                ih (Nat.succ.inj enough)]

theorem validRequestID_standardString (id : UUID) :
    validRequestID (standardString id) = true := by
  have length : (standardString id).length = 36 := by
    rw [standardString, String.length_ofList, length_writeMasked]
    · rfl
    · rw [hexDigits_length]
      rfl
  have digit : ∀ digit : Fin 16, Order.keyChar (hexDigit digit) = true := by
    decide
  rw [validRequestID, length, List.all_eq_true.mpr]
  · rfl
  · intro char member
    rcases standardText_plain id char member with rfl | ⟨value, small, rfl⟩
    · rfl
    · exact digit ⟨value, small⟩

/-- A request has one ID, and under it everything is in order. -/
theorem good_of_runs {api : API} {r : Request} {history : List Exchange}
    {response : Response} (ran : Runs (serve api r) history response) :
    ∃ id, validRequestID id = true ∧ Passable api r id history response ∧
      ∀ before exchange after, history = before ++ exchange :: after →
        InOrder api r id before exchange.question := by
  rw [serve_eq] at ran
  by_cases valid : validRequestID (r.header "X-Request-ID") = true
  · rw [if_pos valid] at ran
    have good :=
      good_served api r (r.header "X-Request-ID") fun _ none =>
        absurd none List.not_mem_nil
    refine ⟨_, valid, fitting_of_guards good ran, ?_⟩
    intro before exchange after split
    exact allowed_of_guards good ran split
  · rw [if_neg valid] at ran
    obtain ⟨id, later, rfl, ranLater⟩ := runs_ask_iff.mp ran
    have unasked : Unasked [⟨.newString, id⟩] := by
      intro exchange member
      rw [List.mem_singleton.mp member]
    have good := good_served api r (standardString id) unasked
    refine
      ⟨_, validRequestID_standardString id, fitting_of_guards good ranLater, ?_⟩
    intro before exchange after split
    cases before with
    | nil =>
        cases split
        trivial
    | cons head rest =>
        cases split
        exact allowed_of_guards good ranLater rfl

/-- Before a service is called, for whatever route and whatever it asks
afterwards. -/
theorem calls_are_permitted
    {api : API} {r : Request} {before after : List Exchange} {id : String}
    {rpc : Rpc} {answer : Except Status rpc.Reply} {response : Response}
    (ran :
      Runs (serve api r) (before ++ ⟨.call id rpc, answer⟩ :: after)
        response) :
    Permits api r before rpc ∧ Cleared before ∧ Follows before rpc ∧
      validRequestID id = true ∧
      ("X-Request-ID", id) ∈ response.header := by
  obtain ⟨requestId, valid, fits, inOrder⟩ := good_of_runs ran
  obtain ⟨rfl, cleared, permits, follows⟩ := inOrder before _ after rfl
  exact ⟨permits, cleared, follows, valid, fits.marked⟩

/-- A gateway whose library functions are as simple as can be. -/
def plainApi : API where
  seatPriceCents := 4500
  cookieSecure := true
  trustProxy := false
  parseIP := fun _ => false
  splitHost := some
  hashKey := id
  mediaType := some
  credentials := fun email => .ok ⟨email, ""⟩
  createEventBody := fun name => .ok ⟨name, 1⟩
  createOrderBody := fun id => .ok ⟨id, ["a", "b"]⟩
  timeText := fun _ => ""
  escapePath := id
  redirectStatus := 307

/-- Everything is allowed, the user is `u`, and the services know nothing. -/
def plainAnswers : Surroundings Ask.Answer
  | _, .newString => (0 : UUID)
  | _, .verify _ => some (⟨"u", "organizer"⟩ : Claims)
  | _, .allow _ _ _ => (⟨⟨true, 1, 0⟩, false⟩ : RateLimit.Reply)
  | _, .call _ _ => .error (Status.error .unavailable "down")

/-- Two seats, for whoever the token is of. -/
def orderRequest : Request where
  method := "POST"
  path := ["api", "orders"]
  header
    | "Authorization" => "bearer t"
    | "Content-Type" => "application/json"
    | _ => ""
  cookie := fun _ => none
  limit := ""
  remoteAddr := "10.0.0.1"
  body := "e"
  context := ⟨"", none⟩

def isOrderCall : Exchange → Bool
  | ⟨.call _ (.createOrder _), _⟩ => true
  | _ => false

theorem order_is_permitted :
    ∃ before after id req answer response,
      Runs (serve plainApi orderRequest)
          (before ++ ⟨.call id (.createOrder req), answer⟩ :: after)
          response ∧
        Permits plainApi orderRequest before (.createOrder req) := by
  have called :
      (play plainAnswers [] (serve plainApi orderRequest)).1.any isOrderCall =
        true := by
    decide +kernel
  obtain ⟨exchange, member, isOrder⟩ := List.any_eq_true.mp called
  obtain ⟨before, after, split⟩ := List.append_of_mem member
  have ran := runs_play plainAnswers [] (serve plainApi orderRequest)
  rw [split] at ran
  match exchange, isOrder with
  | ⟨.call id (.createOrder req), answer⟩, _ =>
      exact
        ⟨before, after, id, req, answer, _, ran, (calls_are_permitted ran).1⟩

/-- Somebody who tries a password. -/
def loginRequest : Request where
  method := "POST"
  path := ["api", "auth", "login"]
  header
    | "Content-Type" => "application/json"
    | _ => ""
  cookie := fun _ => none
  limit := ""
  remoteAddr := "10.0.0.1"
  body := "u@example.org"
  context := ⟨"", none⟩

/-- The password is right, and the limiter says what it is told to. -/
def loginAnswers (allowed : Bool) : Surroundings Ask.Answer
  | _, .newString => (0 : UUID)
  | _, .verify _ => (none : Option Claims)
  | _, .allow _ _ _ => (⟨⟨allowed, 0, 0⟩, false⟩ : RateLimit.Reply)
  | _, .call _ (.login _) =>
      (.ok ⟨"a", "r", 900, "u", "u@example.org", "user"⟩ : Except Status Tokens)
  | _, .call _ _ => .error (Status.error .unavailable "down")

end TicketWave.Gateway.Api
