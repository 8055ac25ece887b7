import TicketWave.Auth.Owners
import TicketWave.Web.Browser

/-! # What answers say -/

namespace TicketWave.Web

open Library

variable {deps : Auth.Deps} {browser next : Browser} {label : Label}

section Answers

variable (deps : Auth.Deps) (auth : Auth.State)

/-- The answer to a refresh renews the token that the cookie has, or it takes
the cookie away; a 401 leaves no token behind. -/
def Renewed (cookie : Option String) (reply : Reply)
    (setCookie : Option (Option String)) : Prop :=
  match reply with
  | .ok (.session session) =>
      ∃ old new, presented cookie = some old ∧
        setCookie = some (some new) ∧
        Auth.Owns deps auth session.user.id old ∧
        Auth.Owns deps auth session.user.id new
  | .ok .other => False
  | .error err =>
      (setCookie = none ∨ setCookie = some none) ∧
        (err.status = 401 →
          presented (Browser.applyCookie cookie setCookie) = none)

/-- The answer to a login that succeeds comes with a token of its user. -/
def Admitted (reply : Reply) (setCookie : Option (Option String)) : Prop :=
  match reply with
  | .ok (.session session) =>
      ∃ token, setCookie = some (some token) ∧
        Auth.Owns deps auth session.user.id token
  | .ok .other | .error _ => setCookie = none

def Honest (request : Request) : Prop :=
  match request.phase with
  | .sent => True
  | .calling id =>
      request.fetch = .refresh ∧
        ∃ call, auth.calls.get id = some call ∧
          presented request.cookie = some call.token
  | .answered reply setCookie =>
      match request.fetch with
      | .refresh => Renewed deps auth request.cookie reply setCookie
      | .login _ => Admitted deps auth reply setCookie
      | .logout => setCookie = none ∨ setCookie = some none
      | .api _ _ _ => setCookie = none

end Answers

theorem unauthenticated_of_status
    {err : Status} (is401 : (received (Gateway.httpError err)).status = 401) :
    err.code = .unauthenticated := by
  change (Gateway.httpError err).status = 401 at is401
  unfold Gateway.httpError at is401
  split at is401
  · cases is401
  split at is401
  · cases is401
  split at is401
  · cases is401
  split at is401
  · cases is401
  split at is401
  · cases is401
  unfold Gateway.httpErrorOfCode at is401
  split at is401 <;> first | assumption | cases is401

variable {auth : Auth.State} {cookie : Option String} {page : Nat}

theorem Renewed.of_transition {later : Auth.State} {inner : Auth.Label}
    {reply : Reply} {setCookie : Option (Option String)}
    (renewed : Renewed deps auth cookie reply setCookie)
    (transition : Auth.Transition deps auth inner later) :
    Renewed deps later cookie reply setCookie := by
  cases reply with
  | error err => exact renewed
  | ok payload =>
      cases payload with
      | other => exact renewed
      | session session =>
          obtain ⟨old, new, given, isSet, ownsOld, ownsNew⟩ := renewed
          exact ⟨old, new, given, isSet, ownsOld.of_transition transition,
            ownsNew.of_transition transition⟩

theorem Honest.of_transition {later : Auth.State} {inner : Auth.Label}
    {request : Request} (honest : Honest deps auth request)
    (transition : Auth.Transition deps auth inner later) :
    Honest deps later request := by
  obtain ⟨page, fetch, cookie, phase⟩ := request
  cases phase with
  | sent => trivial
  | calling id =>
      obtain ⟨isRefresh, call, found, given⟩ := honest
      obtain ⟨after, isFound, sameToken⟩ :=
        Auth.token_of_transition transition found
      refine ⟨isRefresh, after, isFound, ?_⟩
      rw [sameToken]
      exact given
  | answered reply setCookie =>
      cases fetch with
      | refresh => exact Renewed.of_transition honest transition
      | login credentials =>
          match reply with
          | .ok (.session session) =>
              obtain ⟨token, isSet, owns⟩ := honest
              exact ⟨token, isSet, owns.of_transition transition⟩
          | .ok .other | .error _ => exact honest
      | _ => exact honest

theorem honest_of_error {fetch : Fetch} {err : ApiError}
    (harmless : fetch = .refresh → err.status = 401 → presented cookie = none) :
    Honest deps auth ⟨page, fetch, cookie, .answered (.error err) none⟩ := by
  cases fetch with
  | refresh => exact ⟨Or.inl rfl, harmless rfl⟩
  | logout => exact Or.inl rfl
  | _ => rfl

theorem honest_of_failed_refresh (err : Status) :
    Honest deps auth
      ⟨page, .refresh, cookie, refreshAnswered (.error err)⟩ := by
  by_cases isDead : err.code = .unauthenticated
  · rw [refreshAnswered, if_pos isDead]
    exact ⟨Or.inr rfl, fun _ => rfl⟩
  · rw [refreshAnswered, if_neg isDead]
    refine honest_of_error ?_
    intro _ is401
    exact absurd (unauthenticated_of_status is401) isDead

theorem honest_of_served {id : Nat} {request : Request} {phase : Phase}
    (vouched : Auth.Vouched deps browser.auth)
    (honest : Honest deps browser.auth request)
    (serves : Serves deps browser label id request auth phase) :
    Honest deps auth { request with phase := phase } := by
  cases serves with
  | refused harmless =>
      refine honest_of_error ?_
      rintro rfl is401
      exact absurd ⟨is401, rfl⟩ harmless
  | api => rfl
  | noSession missing => exact honest_of_error fun _ _ => missing
  | refreshing given called =>
      cases called
      exact ⟨rfl, _, Registry.get_launch_self _ _, given⟩
  | @login _ _ credentials _ tokenId refreshToken now outcome _ called =>
      cases answer :
          Auth.loginAnswer deps browser.auth credentials tokenId
            refreshToken now outcome with
      | error err => exact honest_of_error fun isRefresh => nomatch isRefresh
      | ok response => exact ⟨_, rfl, Auth.owns_of_login called answer⟩
  | signedOut => exact Or.inr rfl
  | logout called => exact Or.inr rfl
  | @returned _ _ call fetch cookie ended result found isOver =>
      obtain ⟨rfl, known, isKnown, given⟩ := honest
      rw [found] at isKnown
      cases isKnown
      cases result with
      | ok response =>
          obtain ⟨ownsOld, ownsNew⟩ := vouched.owned found isOver
          exact ⟨_, _, given, rfl, ownsOld, ownsNew⟩
      | error err => exact honest_of_failed_refresh err
  | gaveUp broken =>
      obtain ⟨rfl, _⟩ := honest
      exact honest_of_failed_refresh _

/-- All requests on their way are honest. -/
structure Faithful (deps : Auth.Deps) (browser : Browser) : Prop where
  vouched : Auth.Vouched deps browser.auth
  honest :
    ∀ id request, browser.requests.get id = some request →
      Honest deps browser.auth request

theorem faithful_send {fetches : List Fetch}
    (faithful : Faithful deps browser) :
    Faithful deps (browser.send page fetches) where
  vouched := faithful.vouched
  honest := by
    intro id request found
    rcases cases_of_get_send found with ⟨_, fetch, _, rfl⟩ | stored
    · trivial
    · exact faithful.honest id request stored

theorem faithful_of_transition (faithful : Faithful deps browser)
    (transition : Transition deps browser label next) : Faithful deps next := by
  obtain ⟨inner, authSteps⟩ := auth_of_transition transition
  have vouched := Auth.vouched_of_transition faithful.vouched authSteps
  cases transition with
  | served pending serves =>
      refine ⟨vouched, ?_⟩
      intro id request found
      rcases Registry.cases_of_get_put found with ⟨rfl, rfl⟩ | ⟨_, stored⟩
      · exact honest_of_served faithful.vouched
          (faithful.honest _ _ pending) serves
      · exact (faithful.honest id request stored).of_transition authSteps
  | auth stepped =>
      refine ⟨vouched, ?_⟩
      intro id request found
      exact (faithful.honest id request found).of_transition authSteps
  | delivered pending shown delivers =>
      refine faithful_send ⟨faithful.vouched, ?_⟩
      intro id request found
      exact faithful.honest id request (Registry.get_of_get_finish found).2
  | _ => exact faithful_send ⟨faithful.vouched, faithful.honest⟩

end TicketWave.Web
