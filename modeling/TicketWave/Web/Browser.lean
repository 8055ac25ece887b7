import TicketWave.Auth.Service
import TicketWave.Web.Client

/-!
# A browser, the gateway and auth-svc

Any number of pages that share the cookie.  A request takes the cookie along
as it is when it is sent; an answer changes it when it arrives.  auth-svc may
at any time get calls from elsewhere.
-/

namespace TicketWave.Web

open Library

inductive Phase where
  | sent
  /-- the gateway waits for this call of `Refresh` -/
  | calling (call : Nat)
  /-- the answer and its `Set-Cookie`, where `some none` clears the cookie -/
  | answered (reply : Reply) (setCookie : Option (Option String))
  deriving DecidableEq

structure Request where
  page : Nat
  fetch : Fetch
  cookie : Option String
  phase : Phase
  deriving DecidableEq

structure Browser where
  auth : Auth.State
  cookie : Option String
  pages : Registry Page
  requests : Registry Request

namespace Browser

variable (browser : Browser)

/-- A browser without pages. -/
def start (auth : Auth.State) (cookie : Option String) : Browser where
  auth := auth
  cookie := cookie
  pages := Registry.empty
  requests := Registry.empty

/-- A request of the page as it is sent. -/
def outgoing (page : Nat) (fetch : Fetch) : Request where
  page := page
  fetch := fetch
  cookie := if fetch.authentic then browser.cookie else none
  phase := .sent

/-- The page sends the requests, in this order. -/
def send (page : Nat) (fetches : List Fetch) : Browser :=
  { browser with
    requests :=
      fetches.foldl
        (fun requests fetch => requests.launch (browser.outgoing page fetch))
        browser.requests }

def putPage (id : Nat) (page : Page) : Browser :=
  { browser with pages := browser.pages.put id page }

def putPhase (id : Nat) (request : Request) (phase : Phase) : Browser :=
  { browser with
    requests := browser.requests.put id { request with phase := phase } }

/-- The cookie after an answer. -/
def applyCookie (cookie : Option String) :
    Option (Option String) → Option String
  | none => cookie
  | some changed => changed

/-- The page gets the reply to its request. -/
def deliver (id : Nat) (request : Request) (page : Page) (reply : Reply) :
    Browser :=
  let settled := page.settle browser.requests.next request.fetch reply
  ({ browser with requests := browser.requests.finish id }.putPage
    request.page settled.1).send request.page settled.2

end Browser

/-- `sessionResponse` -/
def sessionOf (response : Auth.TokenResponse) : Session where
  accessToken := response.accessToken
  expiresIn := response.expiresIn
  user := ⟨response.userId, response.email, response.role⟩

def answered (answer : Gateway.HttpError) : Phase :=
  .answered (.error (received answer)) none

/-- The answer of `API.login` to what auth-svc said. -/
def loginAnswered : Except Status Auth.TokenResponse → Phase
  | .error err => answered (Gateway.httpError err)
  | .ok response =>
      .answered (.ok (.session (sessionOf response)))
        (some (some response.refreshToken))

/-- The answer of `API.refresh` to what auth-svc said. -/
def refreshAnswered : Except Status Auth.TokenResponse → Phase
  | .error err =>
      .answered (.error (received (Gateway.httpError err)))
        (if err.code = .unauthenticated then some none else none)
  | .ok response =>
      .answered (.ok (.session (sessionOf response)))
        (some (some response.refreshToken))

def noSession : Gateway.HttpError :=
  ⟨401, "unauthenticated", "no session, sign in"⟩

/-- The value of the cookie, unless it is missing or empty. -/
def presented (cookie : Option String) : Option String :=
  cookie.filter fun token => decide (token ≠ "")

theorem presented_eq_some {cookie : Option String} {token : String}
    (given : presented cookie = some token) : cookie = some token := by
  unfold presented at given
  exact (Option.filter_eq_some_iff.mp given).1

inductive Label where
  /-- a page is loaded -/
  | opened
  /-- a page calls `refreshSession` -/
  | refresh (page : Nat)
  | api (page : Nat) (request : ApiRequest)
  | login (page : Nat) (credentials : Auth.Credentials)
  | logout (page : Nat)
  /-- a check in front of the handlers refuses a request -/
  | refuse (request : Nat) (answer : Gateway.HttpError)
  /-- some handler answers an attempt of `api` -/
  | serveApi (request : Nat) (reply : Reply)
  | serveRefresh (request : Nat)
  | serveLogin
      (request : Nat) (tokenId : UUID) (refreshToken : String) (now : Nat)
      (outcome : Outcome)
  | serveLogout (request : Nat) (outcome : Outcome)
  | auth (label : Auth.Label)
  /-- the call of `Refresh` has returned to the gateway -/
  | answer (request : Nat)
  /-- the gateway gives up on the call of `Refresh` -/
  | giveUp (request : Nat) (err : Status)
  /-- the answer reaches the browser -/
  | arrive (request : Nat)
  /-- the page loses the connection -/
  | disconnect (request : Nat)
  deriving DecidableEq

section Step

variable (deps : Auth.Deps) (browser : Browser)

def step : Label → Option Browser
  | .opened =>
      let loaded := Page.loaded browser.requests.next
      some
        ({ browser with pages := browser.pages.launch loaded.1 }.send
          browser.pages.next loaded.2)
  | .refresh id =>
      match browser.pages.get id with
      | none => none
      | some page =>
          let started := page.refreshSession browser.requests.next
          some ((browser.putPage id started.1).send id started.2)
  | .api id request =>
      match browser.pages.get id with
      | none => none
      | some page => some (browser.send id (page.api request))
  | .login id credentials =>
      match browser.pages.get id with
      | none => none
      | some _ => some (browser.send id [.login credentials])
  | .logout id =>
      match browser.pages.get id with
      | none => none
      | some _ => some (browser.send id [.logout])
  | .refuse id answer =>
      match browser.requests.get id with
      | some ⟨page, fetch, cookie, .sent⟩ =>
          -- only `authenticate` answers 401, and it guards no auth path
          if answer.status = 401 ∧ fetch.authentic = true then
            none
          else
            some
              (browser.putPhase id ⟨page, fetch, cookie, .sent⟩
                (answered answer))
      | _ => none
  | .serveApi id reply =>
      match browser.requests.get id with
      | some ⟨page, .api request token again, cookie, .sent⟩ =>
          some
            (browser.putPhase id
              ⟨page, .api request token again, cookie, .sent⟩
              (.answered reply none))
      | _ => none
  | .serveRefresh id =>
      match browser.requests.get id with
      | some ⟨page, .refresh, cookie, .sent⟩ =>
          match presented cookie with
          | none =>
              some
                (browser.putPhase id ⟨page, .refresh, cookie, .sent⟩
                  (answered noSession))
          | some token =>
              (Auth.step deps browser.auth (.refresh token)).map
                fun auth =>
                  { browser with auth := auth }.putPhase id
                    ⟨page, .refresh, cookie, .sent⟩
                    (.calling browser.auth.calls.next)
      | _ => none
  | .serveLogin id tokenId refreshToken now outcome =>
      match browser.requests.get id with
      | some ⟨page, .login credentials, cookie, .sent⟩ =>
          (Auth.step deps browser.auth
              (.login credentials tokenId refreshToken now outcome)).map
            fun auth =>
              { browser with auth := auth }.putPhase id
                ⟨page, .login credentials, cookie, .sent⟩
                (loginAnswered
                  (Auth.loginAnswer deps browser.auth credentials tokenId
                    refreshToken now outcome))
      | _ => none
  | .serveLogout id outcome =>
      match browser.requests.get id with
      | some ⟨page, .logout, cookie, .sent⟩ =>
          match presented cookie with
          | none =>
              some
                (browser.putPhase id ⟨page, .logout, cookie, .sent⟩
                  (.answered (.ok .other) (some none)))
          | some token =>
              (Auth.step deps browser.auth (.logout token outcome)).map
                fun auth =>
                  { browser with auth := auth }.putPhase id
                    ⟨page, .logout, cookie, .sent⟩
                    (.answered (.ok .other) (some none))
      | _ => none
  | .auth label =>
      (Auth.step deps browser.auth label).map fun auth =>
        { browser with auth := auth }
  | .answer id =>
      match browser.requests.get id with
      | some ⟨page, fetch, cookie, .calling call⟩ =>
          match (browser.auth.calls.get call).map Auth.Call.stage with
          | some (.returned result) =>
              some
                (browser.putPhase id ⟨page, fetch, cookie, .calling call⟩
                  (refreshAnswered result))
          | _ => none
      | _ => none
  | .giveUp id err =>
      match browser.requests.get id with
      | some ⟨page, fetch, cookie, .calling call⟩ =>
          -- this code comes from auth-svc only
          if err.code = .unauthenticated then
            none
          else
            some
              (browser.putPhase id ⟨page, fetch, cookie, .calling call⟩
                (refreshAnswered (.error err)))
      | _ => none
  | .arrive id =>
      match browser.requests.get id with
      | some ⟨pageId, fetch, cookie, .answered reply setCookie⟩ =>
          match browser.pages.get pageId with
          | none => none
          | some page =>
              some
                ({ browser with
                    cookie :=
                      Browser.applyCookie browser.cookie setCookie }.deliver
                  id ⟨pageId, fetch, cookie, .answered reply setCookie⟩ page
                  reply)
      | _ => none
  | .disconnect id =>
      match browser.requests.get id with
      | none => none
      | some request =>
          match browser.pages.get request.page with
          | none => none
          | some page =>
              some (browser.deliver id request page (.error networkError))

end Step

/-- The requests that the step sends. -/
def Browser.sends (browser : Browser) : Label → List Fetch
  | .opened => (Page.loaded browser.requests.next).2
  | .refresh id =>
      (browser.pages.get id).elim [] fun page =>
        (page.refreshSession browser.requests.next).2
  | .api id request =>
      (browser.pages.get id).elim [] fun page => page.api request
  | .login _ credentials => [.login credentials]
  | .logout _ => [.logout]
  | .arrive id =>
      (browser.requests.get id).elim [] fun request =>
        match request.phase with
        | .answered reply _ =>
            (browser.pages.get request.page).elim [] fun page =>
              (page.settle browser.requests.next request.fetch reply).2
        | _ => []
  | .disconnect id =>
      (browser.requests.get id).elim [] fun request =>
        (browser.pages.get request.page).elim [] fun page =>
          (page.settle browser.requests.next request.fetch
            (.error networkError)).2
  | .refuse _ _ | .serveApi _ _ | .serveRefresh _ | .serveLogin _ _ _ _ _
  | .serveLogout _ _ | .auth _ | .answer _ | .giveUp _ _ => []

section Transition

variable (deps : Auth.Deps) (browser : Browser)

/-- The gateway takes a request further. -/
inductive Serves :
    Label → Nat → Request → Auth.State → Phase → Prop
  | refused
      {id page : Nat} {fetch : Fetch} {cookie : Option String}
      {answer : Gateway.HttpError}
      (harmless : ¬ (answer.status = 401 ∧ fetch.authentic = true)) :
      Serves (.refuse id answer) id ⟨page, fetch, cookie, .sent⟩ browser.auth
        (answered answer)
  | api
      {id page : Nat} {request : ApiRequest} {token cookie : Option String}
      {again : Bool} {reply : Reply} :
      Serves (.serveApi id reply) id
        ⟨page, .api request token again, cookie, .sent⟩ browser.auth
        (.answered reply none)
  | noSession
      {id page : Nat} {cookie : Option String}
      (missing : presented cookie = none) :
      Serves (.serveRefresh id) id ⟨page, .refresh, cookie, .sent⟩
        browser.auth (answered noSession)
  | refreshing
      {id page : Nat} {cookie : Option String} {token : String}
      {auth : Auth.State} (given : presented cookie = some token)
      (called : Auth.step deps browser.auth (.refresh token) = some auth) :
      Serves (.serveRefresh id) id ⟨page, .refresh, cookie, .sent⟩ auth
        (.calling browser.auth.calls.next)
  | login
      {id page : Nat} {credentials : Auth.Credentials}
      {cookie : Option String} {tokenId : UUID} {refreshToken : String}
      {now : Nat} {outcome : Outcome} {auth : Auth.State}
      (called :
        Auth.step deps browser.auth
          (.login credentials tokenId refreshToken now outcome) = some auth) :
      Serves (.serveLogin id tokenId refreshToken now outcome) id
        ⟨page, .login credentials, cookie, .sent⟩ auth
        (loginAnswered
          (Auth.loginAnswer deps browser.auth credentials tokenId
            refreshToken now outcome))
  | signedOut
      {id page : Nat} {cookie : Option String} {outcome : Outcome} :
      Serves (.serveLogout id outcome) id ⟨page, .logout, cookie, .sent⟩
        browser.auth (.answered (.ok .other) (some none))
  | logout
      {id page : Nat} {cookie : Option String} {token : String}
      {outcome : Outcome} {auth : Auth.State}
      (called :
        Auth.step deps browser.auth (.logout token outcome) = some auth) :
      Serves (.serveLogout id outcome) id ⟨page, .logout, cookie, .sent⟩ auth
        (.answered (.ok .other) (some none))
  | returned
      {id page call : Nat} {fetch : Fetch} {cookie : Option String}
      {ended : Auth.Call} {result : Except Status Auth.TokenResponse}
      (found : browser.auth.calls.get call = some ended)
      (isOver : ended.stage = .returned result) :
      Serves (.answer id) id ⟨page, fetch, cookie, .calling call⟩
        browser.auth (refreshAnswered result)
  | gaveUp
      {id page call : Nat} {fetch : Fetch} {cookie : Option String}
      {err : Status} (broken : err.code ≠ .unauthenticated) :
      Serves (.giveUp id err) id ⟨page, fetch, cookie, .calling call⟩
        browser.auth (refreshAnswered (.error err))

/-- The reply that a page gets and the `Set-Cookie` that comes with it. -/
inductive Delivers :
    Label → Nat → Request → Reply → Option (Option String) → Prop
  | arrived
      {id page : Nat} {fetch : Fetch} {cookie : Option String}
      {reply : Reply} {setCookie : Option (Option String)} :
      Delivers (.arrive id) id
        ⟨page, fetch, cookie, .answered reply setCookie⟩ reply setCookie
  | lost {id : Nat} {request : Request} :
      Delivers (.disconnect id) id request (.error networkError) none

inductive Transition : Label → Browser → Prop
  | opened :
      Transition .opened
        ({ browser with
            pages :=
              browser.pages.launch
                (Page.loaded browser.requests.next).1 }.send
          browser.pages.next (browser.sends .opened))
  | refreshed
      {id : Nat} {page : Page} (shown : browser.pages.get id = some page) :
      Transition (.refresh id)
        ((browser.putPage id
            (page.refreshSession browser.requests.next).1).send id
          (browser.sends (.refresh id)))
  | called
      {id : Nat} {page : Page} {request : ApiRequest}
      (shown : browser.pages.get id = some page) :
      Transition (.api id request)
        (browser.send id (browser.sends (.api id request)))
  | loggingIn
      {id : Nat} {page : Page} {credentials : Auth.Credentials}
      (shown : browser.pages.get id = some page) :
      Transition (.login id credentials)
        (browser.send id (browser.sends (.login id credentials)))
  | loggingOut
      {id : Nat} {page : Page}
      (shown : browser.pages.get id = some page) :
      Transition (.logout id)
        (browser.send id (browser.sends (.logout id)))
  | served
      {label : Label} {id : Nat} {request : Request} {auth : Auth.State}
      {phase : Phase} (pending : browser.requests.get id = some request)
      (serves : Serves deps browser label id request auth phase) :
      Transition label
        ({ browser with auth := auth }.putPhase id request phase)
  | auth
      {label : Auth.Label} {auth : Auth.State}
      (stepped : Auth.step deps browser.auth label = some auth) :
      Transition (.auth label) { browser with auth := auth }
  | delivered
      {label : Label} {id : Nat} {request : Request} {page : Page}
      {reply : Reply} {setCookie : Option (Option String)}
      (pending : browser.requests.get id = some request)
      (shown : browser.pages.get request.page = some page)
      (delivers : Delivers label id request reply setCookie) :
      Transition label
        ({ browser with
            cookie := Browser.applyCookie browser.cookie setCookie
            pages :=
              browser.pages.put request.page
                (page.settle browser.requests.next request.fetch reply).1
            requests := browser.requests.finish id }.send request.page
          (browser.sends label))

end Transition

section Inversion

variable {deps : Auth.Deps} {browser next : Browser} {label : Label}

theorem sends_of_delivers {id : Nat} {request : Request} {page : Page}
    {reply : Reply} {setCookie : Option (Option String)}
    (pending : browser.requests.get id = some request)
    (shown : browser.pages.get request.page = some page)
    (delivers : Delivers label id request reply setCookie) :
    browser.sends label =
      (page.settle browser.requests.next request.fetch reply).2 := by
  cases delivers with
  | arrived => simp only [Browser.sends, pending, Option.elim_some, shown]
  | lost => simp only [Browser.sends, pending, Option.elim_some, shown]

theorem transition_of_step (stepped : step deps browser label = some next) :
    Transition deps browser label next := by
  cases label with
  | opened =>
      cases stepped
      exact .opened
  | refresh id =>
      simp only [step] at stepped
      split at stepped
      · cases stepped
      · rename_i page shown
        have fetches :
            browser.sends (.refresh id) =
              (page.refreshSession browser.requests.next).2 := by
          rw [Browser.sends, shown, Option.elim_some]
        cases stepped
        rw [← fetches]
        exact .refreshed shown
  | api id request =>
      simp only [step] at stepped
      split at stepped
      · cases stepped
      · rename_i page shown
        have fetches :
            browser.sends (.api id request) = page.api request := by
          rw [Browser.sends, shown, Option.elim_some]
        cases stepped
        rw [← fetches]
        exact .called shown
  | login id credentials =>
      simp only [step] at stepped
      split at stepped
      · cases stepped
      · rename_i page shown
        cases stepped
        exact .loggingIn shown
  | logout id =>
      simp only [step] at stepped
      split at stepped
      · cases stepped
      · rename_i page shown
        cases stepped
        exact .loggingOut shown
  | refuse id answer =>
      simp only [step] at stepped
      split at stepped
      · rename_i page fetch cookie pending
        split at stepped
        · cases stepped
        · rename_i harmless
          cases stepped
          exact .served pending (.refused harmless)
      · cases stepped
  | serveApi id reply =>
      simp only [step] at stepped
      split at stepped
      · rename_i page request token again cookie pending
        cases stepped
        exact .served pending .api
      · cases stepped
  | serveRefresh id =>
      simp only [step] at stepped
      split at stepped
      · rename_i page cookie pending
        split at stepped
        · rename_i missing
          cases stepped
          exact .served pending (.noSession missing)
        · rename_i token given
          obtain ⟨auth, called, rfl⟩ := Option.map_eq_some_iff.mp stepped
          exact .served pending (.refreshing given called)
      · cases stepped
  | serveLogin id tokenId refreshToken now outcome =>
      simp only [step] at stepped
      split at stepped
      · rename_i page credentials cookie pending
        obtain ⟨auth, called, rfl⟩ := Option.map_eq_some_iff.mp stepped
        exact .served pending (.login called)
      · cases stepped
  | serveLogout id outcome =>
      simp only [step] at stepped
      split at stepped
      · rename_i page cookie pending
        split at stepped
        · cases stepped
          exact .served pending .signedOut
        · rename_i token given
          obtain ⟨auth, called, rfl⟩ := Option.map_eq_some_iff.mp stepped
          exact .served pending (.logout called)
      · cases stepped
  | auth label =>
      obtain ⟨auth, called, rfl⟩ := Option.map_eq_some_iff.mp stepped
      exact .auth called
  | answer id =>
      simp only [step] at stepped
      split at stepped
      · rename_i page fetch cookie call pending
        split at stepped
        · rename_i result isOver
          obtain ⟨ended, found, stage⟩ := Option.map_eq_some_iff.mp isOver
          cases stepped
          exact .served pending (.returned found stage)
        · cases stepped
      · cases stepped
  | giveUp id err =>
      simp only [step] at stepped
      split at stepped
      · rename_i page fetch cookie call pending
        split at stepped
        · cases stepped
        · rename_i broken
          cases stepped
          exact .served pending (.gaveUp broken)
      · cases stepped
  | arrive id =>
      simp only [step] at stepped
      split at stepped
      · rename_i pageId fetch cookie reply setCookie pending
        split at stepped
        · cases stepped
        · rename_i page shown
          have delivered : Transition deps browser (.arrive id) _ :=
            .delivered pending shown .arrived
          rw [sends_of_delivers pending shown .arrived] at delivered
          cases stepped
          exact delivered
      · cases stepped
  | disconnect id =>
      simp only [step] at stepped
      split at stepped
      · cases stepped
      · rename_i request pending
        split at stepped
        · cases stepped
        · rename_i page shown
          have delivered : Transition deps browser (.disconnect id) _ :=
            .delivered pending shown .lost
          rw [sends_of_delivers pending shown .lost] at delivered
          cases stepped
          exact delivered

theorem auth_of_transition (transition : Transition deps browser label next) :
    ∃ inner, Auth.Transition deps browser.auth inner next.auth := by
  have still : Auth.Transition deps browser.auth (.refresh "") browser.auth :=
    .nothing fun _ advances => advances
  cases transition with
  | served pending serves =>
      cases serves with
      | refreshing given called => exact ⟨_, Auth.transition_of_step called⟩
      | login called => exact ⟨_, Auth.transition_of_step called⟩
      | logout called => exact ⟨_, Auth.transition_of_step called⟩
      | _ => exact ⟨_, still⟩
  | auth stepped => exact ⟨_, Auth.transition_of_step stepped⟩
  | _ => exact ⟨_, still⟩

end Inversion

section Send

variable {browser : Browser}

theorem cases_of_get_send
    {page id : Nat} {fetches : List Fetch} {request : Request}
    (found : (browser.send page fetches).requests.get id = some request) :
    (browser.requests.next ≤ id ∧
        ∃ fetch ∈ fetches, request = browser.outgoing page fetch) ∨
      browser.requests.get id = some request := by
  have general :
      ∀ (sent : List Fetch) (requests : Registry Request),
        (sent.foldl
            (fun requests fetch =>
              requests.launch (browser.outgoing page fetch))
            requests).get id = some request →
          (requests.next ≤ id ∧
              ∃ fetch ∈ sent, request = browser.outgoing page fetch) ∨
            requests.get id = some request := by
    intro sent
    induction sent with
    | nil =>
        intro requests isFound
        exact Or.inr isFound
    | cons fetch rest ih =>
        intro requests isFound
        rcases ih _ isFound with
          ⟨isLater, other, member, same⟩ | launched
        · exact Or.inl
            ⟨Nat.le_of_succ_le isLater, other,
              List.mem_cons_of_mem fetch member, same⟩
        · rcases Registry.cases_of_get_launch launched with
            ⟨isNext, same⟩ | stored
          · exact Or.inl
              ⟨Nat.le_of_eq isNext.symm, fetch, List.mem_cons_self, same⟩
          · exact Or.inr stored
  exact general fetches browser.requests found

theorem get_send_of_get {page id : Nat} {fetches : List Fetch}
    {request : Request} (found : browser.requests.get id = some request) :
    (browser.send page fetches).requests.get id = some request := by
  have general :
      ∀ (sent : List Fetch) (requests : Registry Request),
        requests.get id = some request →
          (sent.foldl
              (fun requests fetch =>
                requests.launch (browser.outgoing page fetch))
              requests).get id = some request := by
    intro sent
    induction sent with
    | nil => exact fun requests isFound => isFound
    | cons fetch rest ih =>
        intro requests isFound
        apply ih
        exact Registry.get_launch_of_get isFound
  exact general fetches browser.requests found

end Send

/-- All of the requests are attempts of `api`. -/
def Plain (fetches : List Fetch) : Prop :=
  ∀ fetch ∈ fetches, fetch.authentic = false

theorem refreshSession_sends (page : Page) (number : Nat) :
    (page.refreshSession number).2 = [.refresh] ∨
      Plain (page.refreshSession number).2 := by
  unfold Page.refreshSession
  split
  · exact Or.inr fun fetch member => nomatch member
  · exact Or.inl rfl

theorem settleRefresh_sends (page : Page) (reply : Reply) :
    Plain (page.settleRefresh reply).2 := by
  intro other member
  cases reply with
  | error err => cases member
  | ok payload =>
      cases payload with
      | session session =>
          obtain ⟨api, _, rfl⟩ := List.mem_map.mp member
          rfl
      | other => cases member

theorem settle_sends
    (page : Page) (number : Nat) (fetch : Fetch) (reply : Reply) :
    (page.settle number fetch reply).2 = [.refresh] ∨
      Plain (page.settle number fetch reply).2 := by
  cases fetch with
  | refresh => exact Or.inr (settleRefresh_sends page reply)
  | login credentials => exact Or.inr fun other member => nomatch member
  | logout => exact Or.inr fun other member => nomatch member
  | api request token again =>
      have nothing : Plain [] := fun other member => nomatch member
      change
        (page.settleApi number request again reply).2 = [.refresh] ∨
          Plain (page.settleApi number request again reply).2
      unfold Page.settleApi
      split
      · split
        · exact refreshSession_sends page number
        · exact Or.inr nothing
      · exact Or.inr nothing

theorem elim_sends {Value : Type} {sent : Value → List Fetch}
    (each : ∀ value, sent value = [.refresh] ∨ Plain (sent value))
    (found : Option Value) :
    found.elim [] sent = [.refresh] ∨ Plain (found.elim [] sent) := by
  cases found with
  | none => exact Or.inr fun other member => nomatch member
  | some value => exact each value

/-- A step other than a login or a logout sends a refresh or attempts of
`api`. -/
theorem sends_cases (browser : Browser) (label : Label) :
    (browser.sends label = [.refresh] ∨ Plain (browser.sends label)) ∨
      (∃ page credentials, label = .login page credentials) ∨
      ∃ page, label = .logout page := by
  have nothing : Plain [] := fun other member => nomatch member
  cases label with
  | opened => exact Or.inl (Or.inl rfl)
  | refresh id =>
      exact Or.inl (elim_sends (fun page => refreshSession_sends page _) _)
  | api id request =>
      refine Or.inl (elim_sends (fun page => Or.inr ?_) _)
      intro other member
      rw [List.mem_singleton.mp member]
      rfl
  | login page credentials => exact Or.inr (Or.inl ⟨page, credentials, rfl⟩)
  | logout page => exact Or.inr (Or.inr ⟨page, rfl⟩)
  | arrive id =>
      refine Or.inl (elim_sends (fun request => ?_) _)
      split
      · exact elim_sends (fun page => settle_sends page _ _ _) _
      · exact Or.inr nothing
  | disconnect id =>
      refine Or.inl (elim_sends (fun request => ?_) _)
      exact elim_sends (fun page => settle_sends page _ _ _) _
  | _ => exact Or.inl (Or.inr nothing)

end TicketWave.Web
