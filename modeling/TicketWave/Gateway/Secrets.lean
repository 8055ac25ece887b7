import TicketWave.Gateway.Guards

/-!
# Where the secrets go

Two requests that are the same but for passwords and tokens are answered the
same but for the value of the cookie.
-/

namespace TicketWave.Gateway.Api

open Library Library.Asking

def blankPassword (req : Auth.Credentials) : Auth.Credentials :=
  { req with password := "" }

def blankToken (tokens : Tokens) : Tokens :=
  { tokens with refreshToken := "" }

/-- The question without the secrets in it. -/
def blank : Ask → Ask
  | .verify _ => .verify ""
  | .call id (.register req) => .call id (.register (blankPassword req))
  | .call id (.login req) => .call id (.login (blankPassword req))
  | .call id (.refresh _) => .call id (.refresh "")
  | .call id (.logout _) => .call id (.logout "")
  | question => question

/-- The tokens of an answer, without the one for the cookie. -/
def blankAnswer : Except Status Tokens → Except Status Tokens :=
  Except.map blankToken

def sight : Exchange → Exchange
  | ⟨.verify _, answer⟩ => ⟨.verify "", answer⟩
  | ⟨.call id (.register req), answer⟩ =>
      ⟨.call id (.register (blankPassword req)), answer⟩
  | ⟨.call id (.login req), answer⟩ =>
      ⟨.call id (.login (blankPassword req)), blankAnswer answer⟩
  | ⟨.call id (.refresh _), answer⟩ =>
      ⟨.call id (.refresh ""), blankAnswer answer⟩
  | ⟨.call id (.logout _), answer⟩ => ⟨.call id (.logout ""), answer⟩
  | exchange => exchange

def Cookie.blank (cookie : Cookie) : Cookie :=
  { cookie with value := "" }

/-- All of the answer to the browser but the value of its cookies. -/
def look (response : Response) : Response :=
  { response with cookies := response.cookies.map Cookie.blank }

/-- The bodies differ at most in the password that is read from them. -/
def SameBody (api : API) : Route → String → String → Prop
  | .register, left, right | .login, left, right =>
      (api.credentials left).map blankPassword =
        (api.credentials right).map blankPassword
  | _, left, right => left = right

/-- The requests for the route differ in their secrets only. -/
structure Twins (api : API) (route : Route) (left right : Request) :
    Prop where
  header : ∀ name ≠ "Authorization", left.header name = right.header name
  bearer : (bearerToken left).isSome = (bearerToken right).isSome
  cookie : (sessionCookie left).isSome = (sessionCookie right).isSome
  limit : left.limit = right.limit
  remoteAddr : left.remoteAddr = right.remoteAddr
  body : SameBody api route left.body right.body

abbrev Same (left right : Program Response) : Prop :=
  Alike blank sight look left right

def Request.within (r : Request) (context : Context) : Request :=
  { r with context := context }

/-- The handler does not show the secrets of its requests. -/
def Discreet (api : API) (route : Route) (handler : Handler) : Prop :=
  ∀ {left right : Request}, Twins api route left right →
    ∀ context w,
      Same (handler (left.within context) w)
        (handler (right.within context) w)

section Questions

variable {question : Ask} {left right : question.Answer → Program Response}

theorem same_ask
    (plain : ∀ answer, sight ⟨question, answer⟩ = ⟨question, answer⟩)
    (goesOn : ∀ answer, Same (left answer) (right answer)) :
    Same (.ask question left) (.ask question right) := by
  refine .ask rfl fun first second same => ?_
  rw [plain, plain] at same
  cases same
  exact goesOn first

theorem same_refl (response : Response) :
    Same (pure response) (pure response) :=
  .done rfl

end Questions

theorem cases_of_map_eq {Error Value Image : Type} {image : Value → Image}
    {left right : Except Error Value}
    (same : left.map image = right.map image) :
    (∃ err, left = .error err ∧ right = .error err) ∨
      ∃ first second, left = .ok first ∧ right = .ok second ∧
        image first = image second := by
  cases left with
  | error err =>
      cases right with
      | error other =>
          cases same
          exact Or.inl ⟨err, rfl, rfl⟩
      | ok second => cases same
  | ok first =>
      cases right with
      | error other => cases same
      | ok second => exact Or.inr ⟨first, second, rfl, rfl, Except.ok.inj same⟩

theorem cases_of_isSome_eq {Value : Type} {left right : Option Value}
    (same : left.isSome = right.isSome) :
    left = none ∧ right = none ∨
      ∃ first second, left = some first ∧ right = some second := by
  cases left with
  | none =>
      cases right with
      | none => exact Or.inl ⟨rfl, rfl⟩
      | some second => cases same
  | some first =>
      cases right with
      | none => cases same
      | some second => exact Or.inr ⟨first, second, rfl, rfl⟩

section Middlewares

variable {api : API} {route : Route} {next : Handler}
  {left right : Request}

theorem Twins.header_within (twins : Twins api route left right)
    (context : Context) (name : String) (different : name ≠ "Authorization") :
    (left.within context).header name = (right.within context).header name :=
  twins.header name different

theorem Twins.clientIP_eq
    (twins : Twins api route left right) (context : Context) :
    clientIP api (left.within context) =
      clientIP api (right.within context) := by
  have header := twins.header_within context "X-Real-IP" (by decide)
  have remote :
      (left.within context).remoteAddr = (right.within context).remoteAddr :=
    twins.remoteAddr
  unfold clientIP
  rw [header, remote]

theorem Twins.byUser_eq
    (twins : Twins api route left right) (context : Context) :
    byUser api (left.within context) = byUser api (right.within context) := by
  unfold byUser byIP
  rw [twins.clientIP_eq]
  rfl

theorem discreet_limit
    {name : String} {count window : Int} {key : Request → String}
    (sameKey :
      ∀ {left right}, Twins api route left right →
        ∀ context, key (left.within context) = key (right.within context))
    (discreet : Discreet api route next) :
    Discreet api route (limit name count window key next) := by
  intro left right twins context w
  have asks (r : Request) :
      limit name count window key next r w =
        .ask (.allow (name ++ ":" ++ key r) count window) fun reply =>
          ifAllowed (next r)
            (spend w (name ++ ":" ++ key r) count window reply) :=
    rfl
  rw [asks, asks, sameKey twins context]
  refine same_ask (fun _ => rfl) fun reply => ?_
  cases spend w (name ++ ":" ++ key (right.within context)) count window
    reply with
  | error response => exact same_refl response
  | ok w => exact discreet twins context w

theorem discreet_perIP
    {name : String} {count : Int} (discreet : Discreet api route next) :
    Discreet api route (perIP api name count next) :=
  discreet_limit Twins.clientIP_eq discreet

theorem discreet_perUser
    {name : String} {count : Int} (discreet : Discreet api route next) :
    Discreet api route (perUser api name count next) :=
  discreet_limit Twins.byUser_eq discreet

theorem discreet_authenticate (discreet : Discreet api route next) :
    Discreet api route (authenticate next) := by
  intro left right twins context w
  have both :
      (bearerToken (left.within context)).isSome =
        (bearerToken (right.within context)).isSome :=
    twins.bearer
  unfold authenticate
  rcases cases_of_isSome_eq both with
    ⟨isLeft, isRight⟩ | ⟨token, other, isLeft, isRight⟩
  · rw [isLeft, isRight]
    exact same_refl _
  · rw [isLeft, isRight]
    refine .ask rfl fun first second same => ?_
    cases Exchange.answer_inj same
    cases first with
    | none => exact same_refl _
    | some claims =>
        exact discreet twins { context with claims := some claims } w

theorem discreet_organizer (discreet : Discreet api route next) :
    Discreet api route (organizer next) := by
  intro left right twins context w
  have goesOn := discreet twins context w
  have claimsOf (r : Request) :
      (r.within context).context.claims = context.claims :=
    rfl
  unfold organizer requireRole
  rw [claimsOf, claimsOf]
  cases context.claims with
  | none => exact same_refl _
  | some claims =>
      by_cases ranked : atLeast claims.role roleOrganizer = true
      · simp only [if_pos ranked]
        exact goesOn
      · simp only [if_neg ranked]
        exact same_refl _

theorem discreet_csrf (discreet : Discreet api route next) :
    Discreet api route (csrf next) := by
  intro left right twins context w
  unfold csrf
  rw [twins.header_within context csrfHeader (by decide)]
  split
  · exact same_refl _
  · exact discreet twins context w

end Middlewares

section Handlers

variable {api : API} {route : Route} {left right : Request}

theorem Twins.decodeJSON_eq
    (twins : Twins api route left right) (bodies : left.body = right.body)
    {Struct : Type} (decoder : Decoder Struct) (context : Context) :
    decodeJSON api decoder (left.within context) =
      decodeJSON api decoder (right.within context) := by
  have sameBody : (left.within context).body = (right.within context).body :=
    bodies
  unfold decodeJSON
  rw [twins.header_within context "Content-Type" (by decide), sameBody]

/-- The credentials of the two bodies: the same error or the same e-mail. -/
theorem Twins.credentials_cases (twins : Twins api route left right)
    (account : route = .register ∨ route = .login) (context : Context) :
    (∃ err,
        decodeJSON api api.credentials (left.within context) = .error err ∧
        decodeJSON api api.credentials (right.within context) = .error err) ∨
      ∃ email first second,
        decodeJSON api api.credentials (left.within context) =
          .ok ⟨email, first⟩ ∧
        decodeJSON api api.credentials (right.within context) =
          .ok ⟨email, second⟩ := by
  have bodies := twins.body
  have read :
      (api.credentials (left.within context).body).map blankPassword =
        (api.credentials (right.within context).body).map blankPassword := by
    rcases account with rfl | rfl <;> exact bodies
  unfold decodeJSON
  rw [twins.header_within context "Content-Type" (by decide)]
  split
  · exact Or.inl ⟨_, rfl, rfl⟩
  · rcases cases_of_map_eq read with
      ⟨err, isLeft, isRight⟩ |
        ⟨⟨email, first⟩, ⟨other, second⟩, isLeft, isRight, same⟩
    · rw [isLeft, isRight]
      exact Or.inl ⟨_, rfl, rfl⟩
    · cases same
      rw [isLeft, isRight]
      exact Or.inr ⟨email, first, second, rfl, rfl⟩

theorem discreet_register : Discreet api .register (register api) := by
  intro left right twins context w
  unfold register
  rcases twins.credentials_cases (Or.inl rfl) context with
    ⟨err, isLeft, isRight⟩ | ⟨email, first, second, isLeft, isRight⟩
  · rw [isLeft, isRight]
    exact same_refl _
  · rw [isLeft, isRight]
    refine .ask rfl fun answer other same => ?_
    cases Exchange.answer_inj same
    cases answer <;> exact same_refl _

/-- What is written of the tokens differs in the cookie only. -/
theorem same_session {first second : Tokens}
    (same : blankToken first = blankToken second) (w : Writer) :
    Same
      (pure
        (writeJSON (setRefreshCookie api w first.refreshToken) 200
          (sessionResponse first)))
      (pure
        (writeJSON (setRefreshCookie api w second.refreshToken) 200
          (sessionResponse second))) := by
  obtain ⟨access, token, expires, user, email, role⟩ := first
  obtain ⟨_, other, _, _, _, _⟩ := second
  cases same
  refine .done ?_
  simp only [look, writeJSON, Writer.set, setRefreshCookie, Writer.setCookie,
    List.map_append]
  rfl

theorem discreet_login : Discreet api .login (login api) := by
  intro left right twins context w
  unfold login
  rcases twins.credentials_cases (Or.inr rfl) context with
    ⟨err, isLeft, isRight⟩ | ⟨email, first, second, isLeft, isRight⟩
  · rw [isLeft, isRight]
    exact same_refl _
  · rw [isLeft, isRight]
    refine same_ask (fun _ => rfl) fun reply => ?_
    show Same
      (ifAllowed _ (spend w (accountKey api email) 5 minute reply))
      (ifAllowed _ (spend w (accountKey api email) 5 minute reply))
    cases spend w (accountKey api email) 5 minute reply with
    | error response => exact same_refl response
    | ok w =>
        refine .ask rfl fun answer other same => ?_
        rcases cases_of_map_eq (Exchange.answer_inj same) with
          ⟨err, rfl, rfl⟩ | ⟨_, _, rfl, rfl, tokens⟩
        · exact same_refl _
        · exact same_session tokens w

theorem Twins.session_cases
    (twins : Twins api route left right) (context : Context) :
    sessionCookie (left.within context) = none ∧
        sessionCookie (right.within context) = none ∨
      ∃ first second, sessionCookie (left.within context) = some first ∧
        sessionCookie (right.within context) = some second :=
  cases_of_isSome_eq twins.cookie

theorem discreet_refresh : Discreet api .refresh (refresh api) := by
  intro left right twins context w
  unfold refresh
  rcases twins.session_cases context with
    ⟨isLeft, isRight⟩ | ⟨first, second, isLeft, isRight⟩
  · rw [isLeft, isRight]
    exact same_refl _
  · rw [isLeft, isRight]
    refine .ask rfl fun answer other same => ?_
    rcases cases_of_map_eq (Exchange.answer_inj same) with
      ⟨err, rfl, rfl⟩ | ⟨_, _, rfl, rfl, tokens⟩
    · show Same
        (if err.code = .unauthenticated then _ else _)
        (if err.code = .unauthenticated then _ else _)
      split <;> exact same_refl _
    · exact same_session tokens w

theorem discreet_logout : Discreet api .logout (logout api) := by
  intro left right twins context w
  unfold logout
  rcases twins.session_cases context with
    ⟨isLeft, isRight⟩ | ⟨first, second, isLeft, isRight⟩
  · rw [isLeft, isRight]
    exact same_refl _
  · rw [isLeft, isRight]
    exact .ask rfl fun _ _ _ => same_refl _

theorem Twins.limit_within
    (twins : Twins api route left right) (context : Context) :
    (left.within context).limit = (right.within context).limit :=
  twins.limit

theorem discreet_listEvents : Discreet api route (listEvents api) := by
  intro left right twins context w
  unfold listEvents
  rw [twins.limit_within context]
  split
  · exact same_refl _
  · refine same_ask (fun _ => rfl) fun answer => ?_
    cases answer <;> exact same_refl _

theorem discreet_getEvent (id : String) :
    Discreet api route (getEvent api id) := by
  intro left right twins context w
  refine same_ask (fun _ => rfl) fun answer => ?_
  cases answer <;> exact same_refl _

theorem discreet_listSeats (id : String) :
    Discreet api route (listSeats id) := by
  intro left right twins context w
  refine same_ask (fun _ => rfl) fun answer => ?_
  cases answer <;> exact same_refl _

theorem discreet_createEvent : Discreet api .createEvent (createEvent api) := by
  intro left right twins context w
  unfold createEvent
  rw [twins.decodeJSON_eq twins.body]
  split
  · exact same_refl _
  · refine same_ask (fun _ => rfl) fun answer => ?_
    cases answer <;> exact same_refl _

theorem discreet_createOrder : Discreet api .createOrder (createOrder api) := by
  intro left right twins context w
  have signedIn :
      (left.within context).context = (right.within context).context :=
    rfl
  unfold createOrder
  rw [twins.decodeJSON_eq twins.body, signedIn,
    twins.header_within context "Idempotency-Key" (by decide)]
  split
  · exact same_refl _
  · split
    · exact same_refl _
    · split
      · exact same_refl _
      · exact same_ask (fun _ => rfl) fun answer => same_refl _

theorem discreet_getOrder (id : String) : Discreet api route (getOrder id) := by
  intro left right twins context w
  have signedIn :
      (left.within context).context = (right.within context).context :=
    rfl
  unfold getOrder
  rw [signedIn]
  split
  · exact same_refl _
  · exact same_ask (fun _ => rfl) fun answer => same_refl _

theorem discreet_listAnalytics : Discreet api route (listAnalytics api) := by
  intro left right twins context w
  unfold listAnalytics
  rw [twins.limit_within context]
  split
  · exact same_refl _
  · refine same_ask (fun _ => rfl) fun answer => ?_
    cases answer with
    | error err => exact same_refl _
    | ok stats => exact same_ask (fun _ => rfl) fun events => same_refl _

end Handlers

section Serve

variable {api : API}

theorem discreet_routes (route : Route) :
    Discreet api route (routes api route) := by
  cases route with
  | healthz => exact fun _ _ _ => same_refl _
  | register => exact discreet_perIP discreet_register
  | login => exact discreet_perIP discreet_login
  | refresh => exact discreet_csrf (discreet_perIP discreet_refresh)
  | logout => exact discreet_csrf (discreet_perIP discreet_logout)
  | listEvents => exact discreet_perIP discreet_listEvents
  | getEvent id => exact discreet_perIP (discreet_getEvent id)
  | listSeats id => exact discreet_perIP (discreet_listSeats id)
  | createOrder =>
      exact discreet_authenticate (discreet_perUser discreet_createOrder)
  | getOrder id =>
      exact discreet_authenticate (discreet_perUser (discreet_getOrder id))
  | createEvent =>
      exact discreet_authenticate
        (discreet_organizer (discreet_perUser discreet_createEvent))
  | listAnalytics =>
      exact discreet_authenticate
        (discreet_organizer (discreet_perUser discreet_listAnalytics))
  | unmatched => exact fun _ _ _ => same_refl _
  | redirect path rawQuery reads => exact fun _ _ _ => same_refl _

theorem same_serve {left right : Request} (sameRoute : left.route = right.route)
    (twins : Twins api left.route left right) :
    Same (serve api left) (serve api right) := by
  have same (id : String) : Same (served api left id) (served api right id) := by
    have routed := discreet_routes left.route twins ⟨id, none⟩
    show Same
      (routes api left.route (left.within ⟨id, none⟩) _)
      (routes api right.route (right.within ⟨id, none⟩) _)
    rw [← sameRoute]
    exact routed _
  rw [serve_eq, serve_eq, twins.header "X-Request-ID" (by decide)]
  split
  · exact same _
  · exact same_ask (fun _ => rfl) fun id => same _

/-- Passwords, access tokens and refresh tokens are told to the verifier and
auth-svc only, and to the browser in its cookie. -/
theorem secrets_do_not_show
    {left right : Request} {first second : Surroundings Ask.Answer}
    (sameRoute : left.route = right.route)
    (twins : Twins api left.route left right)
    (likewise : Likewise blank sight first second) :
    (play first [] (serve api left)).1.map sight =
        (play second [] (serve api right)).1.map sight ∧
      look (play first [] (serve api left)).2 =
        look (play second [] (serve api right)).2 :=
  sight_eq_of_alike (same_serve sameRoute twins) likewise rfl

end Serve

/-- A page that asks for a new access token. -/
def refreshRequest (token : String) : Request where
  method := "POST"
  path := ["api", "auth", "refresh"]
  header
    | "X-Requested-With" => "ticketwave-web"
    | _ => ""
  cookie := fun _ => some token
  limit := ""
  remoteAddr := "10.0.0.1"
  body := ""
  context := ⟨"", none⟩

/-- Everything is allowed, and every session gets this token. -/
def issues (token : String) : Surroundings Ask.Answer
  | _, .newString => (0 : UUID)
  | _, .verify _ => (none : Option Claims)
  | _, .allow _ _ _ => (⟨⟨true, 1, 0⟩, false⟩ : RateLimit.Reply)
  | _, .call _ (.refresh _) =>
      (.ok ⟨"a", token, 900, "u", "u@example.org", "user"⟩ :
        Except Status Tokens)
  | _, .call _ _ => .error (Status.error .unavailable "down")

theorem sight_issues (token : String) (seen : List Exchange) (question : Ask) :
    sight ⟨question, issues token seen question⟩ =
      ⟨blank question, issues "" [] (blank question)⟩ := by
  cases question with
  | newString => rfl
  | verify token => rfl
  | allow key limit window => rfl
  | call id rpc => cases rpc <;> rfl

theorem new_session_does_not_show :
    (play (issues "a") [] (serve plainApi (refreshRequest "s"))).2.status =
        200 ∧
      look (play (issues "a") [] (serve plainApi (refreshRequest "s"))).2 =
        look (play (issues "b") []
          (serve plainApi (refreshRequest "t"))).2 := by
  have likewise : Likewise blank sight (issues "a") (issues "b") := by
    intro seen known question other _ same
    rw [sight_issues, sight_issues, same]
  have twins :
      Twins plainApi (refreshRequest "s").route (refreshRequest "s")
        (refreshRequest "t") :=
    ⟨fun _ _ => rfl, rfl, rfl, rfl, rfl, rfl⟩
  have sameRoute : (refreshRequest "s").route = (refreshRequest "t").route :=
    rfl
  exact ⟨by decide +kernel, (secrets_do_not_show sameRoute twins likewise).2⟩

end TicketWave.Gateway.Api
