import TicketWave.Auth.Model
import TicketWave.Web.Format

/-!
# The client of a page

`web/src/api/client.ts` and `web/src/stores/auth.ts`; a reaction to a reply
runs to its end before the next one.
-/

namespace TicketWave.Web

structure User where
  id : UUID
  email : String
  role : Auth.Role
  deriving DecidableEq, Repr

structure Session where
  accessToken : String
  expiresIn : Nat
  user : User
  deriving DecidableEq, Repr

inductive AuthStatus where
  | unknown
  | anonymous
  | authenticated
  deriving DecidableEq, Repr

structure AuthState where
  status : AuthStatus
  user : Option User
  accessToken : Option String
  deriving DecidableEq, Repr

namespace AuthState

def initial : AuthState :=
  ⟨.unknown, none, none⟩

/-- `setSession` -/
def ofSession (session : Session) : AuthState :=
  ⟨.authenticated, some session.user, some session.accessToken⟩

/-- What `clear` leaves. -/
def cleared : AuthState :=
  ⟨.anonymous, none, none⟩

end AuthState

/-- The arguments of `api`. -/
structure ApiRequest where
  method : String
  path : String
  body : Option String
  headers : List (String × String)
  deriving DecidableEq, Repr

inductive Fetch where
  | refresh
  | login (credentials : Auth.Credentials)
  | logout
  /-- an attempt of `api`, the second one after a refresh -/
  | api (request : ApiRequest) (token : Option String) (again : Bool)
  deriving DecidableEq, Repr

/-- The request is for a path under `/api/auth`, where the cookie is sent. -/
def Fetch.authentic : Fetch → Bool
  | .refresh | .login _ | .logout => true
  | .api _ _ _ => false

/-- What `send` makes of an answer that is ok. -/
inductive Payload where
  | session (session : Session)
  | other
  deriving DecidableEq, Repr

abbrev Reply := Except ApiError Payload

/-- The error of `fetch` itself. -/
def networkError : ApiError :=
  ⟨0, "network_error", "Cannot reach the server. Check your connection."⟩

structure Page where
  store : AuthState
  /-- the refresh request that is shared -/
  inflight : Option Nat
  /-- the calls of `api` that wait for it -/
  waiting : List ApiRequest
  /-- the effect of `App` waits for it -/
  booting : Bool
  deriving DecidableEq, Repr

namespace Page

variable (page : Page)

/-- `refreshSession`; `number` is that of the next request. -/
def refreshSession (number : Nat) : Page × List Fetch :=
  match page.inflight with
  | some _ => (page, [])
  | none => ({ page with inflight := some number }, [.refresh])

/-- A page that has just been loaded, with the effect of `App`. -/
def loaded (number : Nat) : Page × List Fetch :=
  refreshSession
    { store := AuthState.initial
      inflight := none
      waiting := []
      booting := true }
    number

/-- The first attempt of `api`. -/
def api (request : ApiRequest) : List Fetch :=
  [.api request page.store.accessToken false]

/-- The store after the body of `refreshSession`. -/
def refreshedStore (reply : Reply) : AuthState :=
  match reply with
  | .ok (.session session) => AuthState.ofSession session
  | .ok .other => page.store
  | .error err => if err.status = 401 then AuthState.cleared else page.store

/-- What the effect of `App` does when its refresh is over. -/
def bootedStore (store : AuthState) : AuthState :=
  if page.booting ∧ store.status = .unknown then AuthState.cleared else store

/-- The refresh request is over. -/
def settleRefresh (reply : Reply) : Page × List Fetch :=
  let store := page.bootedStore (page.refreshedStore reply)
  ({ store := store
     inflight := none
     waiting := []
     booting := false },
    match reply with
    | .ok (.session _) =>
        page.waiting.map fun request => .api request store.accessToken true
    | .ok .other | .error _ => [])

/-- An attempt of `api` is over. -/
def settleApi (number : Nat) (request : ApiRequest) (again : Bool)
    (reply : Reply) : Page × List Fetch :=
  match reply, again with
  | .error err, false =>
      if err.status = 401 then
        let started := page.refreshSession number
        ({ started.1 with waiting := page.waiting ++ [request] }, started.2)
      else
        (page, [])
  | _, _ => (page, [])

def settleLogin (reply : Reply) : Page :=
  match reply with
  | .ok (.session session) => { page with store := AuthState.ofSession session }
  | .ok .other | .error _ => page

/-- `logout` clears the store whatever the answer. -/
def settleLogout : Page :=
  { page with store := AuthState.cleared }

/-- The reply to a request of the page; `number` is that of the next one. -/
def settle (number : Nat) (fetch : Fetch) (reply : Reply) : Page × List Fetch :=
  match fetch with
  | .refresh => page.settleRefresh reply
  | .login _ => (page.settleLogin reply, [])
  | .logout => (page.settleLogout, [])
  | .api request _ again => page.settleApi number request again reply

end Page

end TicketWave.Web
