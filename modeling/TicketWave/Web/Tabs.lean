import TicketWave.Auth.Rotation
import TicketWave.Web.Browser

/-!
# The pages of one browser

The guard against two refreshes at a time is a variable of one page, while the
cookie belongs to all pages.
-/

namespace TicketWave.Web

open Library

variable {deps : Auth.Deps} {browser next : Browser} {label : Label}

/-- No page logs in or out, every request is answered, and auth-svc serves
nobody else. -/
def Label.ordinary : Label → Bool
  | .login _ _ | .logout _ | .disconnect _ => false
  | .auth label => label.internal
  | _ => true

/-- The label does not keep an exchange from the browser: no reply to a
`COMMIT` is lost and the gateway does not give up on a call. -/
def Label.reported : Label → Bool
  | .giveUp _ _ => false
  | .auth (.commit _ .lost) => false
  | _ => true

def Request.isRefresh (request : Request) : Bool :=
  decide (request.fetch = .refresh)

/-- A refresh is sent when no other one of the browser is unanswered. -/
def TakesTurns (browser : Browser) (label : Label) : Prop :=
  label.reported = true ∧
    (.refresh ∈ browser.sends label →
      browser.requests.any Request.isRefresh = false)

instance (browser : Browser) (label : Label) :
    Decidable (TakesTurns browser label) :=
  inferInstanceAs (Decidable (_ ∧ (_ → _)))

/-- The token of the cookie, if auth-svc knows it, is not revoked. -/
def Live
    (deps : Auth.Deps) (auth : Auth.State) (cookie : Option String) : Prop :=
  ∀ token ∈ cookie, ∀ row ∈ auth.db.refreshTokens,
    row.tokenHash = deps.hashToken token → row.revoked = false

/-- The token that the caller is left with when the call is over. -/
def yielded (call : Auth.Call) : String :=
  match call.stage with
  | .returned (.ok response) => response.refreshToken
  | _ => call.token

/-- What holds of a refresh on its way: its outcome leaves a cookie that is
alive.  `first` is the number of the first call in the run. -/
def Sane (deps : Auth.Deps) (first : Nat) (browser : Browser) :
    Request → Prop
  | ⟨_, _, cookie, .sent⟩ =>
      cookie = browser.cookie ∧ Live deps browser.auth browser.cookie
  | ⟨_, _, _, .calling id⟩ =>
      first ≤ id ∧ id + 1 = browser.auth.calls.next ∧
        ∃ call, browser.auth.calls.get id = some call ∧
          browser.cookie = some call.token ∧
          Live deps browser.auth (some (yielded call))
  | ⟨_, _, _, .answered _ setCookie⟩ =>
      Live deps browser.auth (Browser.applyCookie browser.cookie setCookie)

/-- What holds of the other requests: they are attempts of `api`, and their
answers leave the cookie alone. -/
def Harmless (request : Request) : Prop :=
  request.fetch.authentic = false ∧
    match request.phase with
    | .sent => True
    | .calling _ => False
    | .answered _ setCookie => setCookie = none

structure Safe (deps : Auth.Deps) (first : Nat) (browser : Browser) :
    Prop where
  rotated : Auth.Rotated deps browser.auth
  later : first ≤ browser.auth.calls.next
  alone : browser.requests.Exclusive Request.isRefresh
  others :
    ∀ {id request}, browser.requests.get id = some request →
      request.isRefresh = false → Harmless request
  sane :
    ∀ {id request}, browser.requests.get id = some request →
      request.isRefresh = true → Sane deps first browser request
  working :
    ∀ {id call}, browser.auth.calls.get id = some call →
      call.isOpen = true →
        ∃ number request, browser.requests.get number = some request ∧
          request.isRefresh = true ∧ request.phase = .calling id
  rest :
    browser.requests.any Request.isRefresh = false →
      Live deps browser.auth browser.cookie
  clean :
    ∀ {id call}, first ≤ id → browser.auth.calls.get id = some call →
      call.reuse = false ∧
        ∀ {earlier new}, earlier < id →
          .exchanged earlier (deps.hashToken call.token) new ∉
            browser.auth.history

variable {auth : Auth.State} {first id : Nat} {pages : Registry Page}
  {request : Request} {call : Auth.Call}

theorem safe_start {cookie : Option String} (rotated : Auth.Rotated deps auth)
    (idle : ∀ {id call}, auth.calls.get id = some call → call.isOpen = false)
    (live : Live deps auth cookie) :
    Safe deps auth.calls.next (Browser.start auth cookie) where
  rotated := rotated
  later := Nat.le_refl _
  alone := by
    intro left right leftRequest rightRequest found
    cases found
  others := by
    intro id request found
    cases found
  sane := by
    intro id request found
    cases found
  working := by
    intro id call found isOpen
    rw [idle found] at isOpen
    cases isOpen
  rest := fun _ => live
  clean := by
    intro id call isLater found
    have isOld : id < auth.calls.next := Registry.lt_next_of_get found
    omega

theorem safe_of_same_refreshes {requests : Registry Request}
    (safe : Safe deps first browser)
    (same :
      ∀ {id request}, request.isRefresh = true →
        (requests.get id = some request ↔
          browser.requests.get id = some request))
    (others :
      ∀ {id request}, requests.get id = some request →
        request.isRefresh = false → Harmless request) :
    Safe deps first
      { browser with pages := pages, requests := requests } where
  rotated := safe.rotated
  later := safe.later
  alone := by
    intro left right leftRequest rightRequest leftFound rightFound leftIs
      rightIs
    exact safe.alone ((same leftIs).mp leftFound) ((same rightIs).mp rightFound)
      leftIs rightIs
  others := others
  sane := by
    intro id request found isRefresh
    have was := safe.sane ((same isRefresh).mp found) isRefresh
    obtain ⟨_, _, _, phase⟩ := request
    cases phase <;> exact was
  working := by
    intro id call found isOpen
    obtain ⟨number, request, stored, isRefresh, isCalling⟩ :=
      safe.working found isOpen
    exact ⟨number, request, (same isRefresh).mpr stored, isRefresh, isCalling⟩
  rest := by
    intro none
    apply safe.rest
    cases some : browser.requests.any Request.isRefresh with
    | false => rfl
    | true =>
        obtain ⟨id, request, stored, isRefresh⟩ :=
          Registry.any_eq_true_iff.mp some
        have notRefresh :=
          Registry.test_of_not_any (Bool.eq_false_iff.mp none)
            ((same isRefresh).mpr stored)
        rw [isRefresh] at notRefresh
        cases notRefresh
  clean := safe.clean

theorem safe_of_pages (safe : Safe deps first browser) (pages : Registry Page) :
    Safe deps first { browser with pages := pages } :=
  safe_of_same_refreshes safe (fun _ => Iff.rfl) safe.others

theorem safe_send_plain {page : Nat} {fetches : List Fetch}
    (safe : Safe deps first browser) (isPlain : Plain fetches) :
    Safe deps first (browser.send page fetches) := by
  refine safe_of_same_refreshes safe ?_ ?_
  · intro id request isRefresh
    refine ⟨fun found => ?_, get_send_of_get⟩
    rcases cases_of_get_send found with ⟨_, fetch, member, rfl⟩ | stored
    · have notAuthentic := isPlain fetch member
      have isFetch : fetch = .refresh := of_decide_eq_true isRefresh
      rw [isFetch] at notAuthentic
      cases notAuthentic
    · exact stored
  · intro id request found notRefresh
    rcases cases_of_get_send found with ⟨_, fetch, member, rfl⟩ | stored
    · exact ⟨isPlain fetch member, trivial⟩
    · exact safe.others stored notRefresh

/-- While a refresh is on its way there is nothing to show of the cookie, and
all there is at work in auth-svc is the call of this refresh. -/
theorem safe_of_single {number : Nat} {requests : Registry Request}
    {current : Request} (found : requests.get number = some current)
    (isRefresh : current.isRefresh = true)
    (only : requests.Exclusive Request.isRefresh)
    (others :
      ∀ {id request}, requests.get id = some request →
        request.isRefresh = false → Harmless request)
    (rotated : Auth.Rotated deps auth) (later : first ≤ auth.calls.next)
    (sane :
      Sane deps first { browser with auth := auth, requests := requests }
        current)
    (working :
      ∀ {id call}, auth.calls.get id = some call → call.isOpen = true →
        current.phase = .calling id)
    (clean :
      ∀ {id call}, first ≤ id → auth.calls.get id = some call →
        call.reuse = false ∧
          ∀ {earlier new}, earlier < id →
            .exchanged earlier (deps.hashToken call.token) new ∉
              auth.history) :
    Safe deps first { browser with auth := auth, requests := requests } where
  rotated := rotated
  later := later
  alone := only
  others := others
  sane := by
    intro id request isFound isToo
    cases only isFound found isToo isRefresh
    rw [found] at isFound
    cases isFound
    exact sane
  working := fun isFound isOpen =>
    ⟨number, current, found, isRefresh, working isFound isOpen⟩
  rest := by
    intro none
    have notRefresh :=
      Registry.test_of_not_any (Bool.eq_false_iff.mp none) found
    rw [isRefresh] at notRefresh
    cases notRefresh
  clean := clean

theorem safe_send {page : Nat} {fetches : List Fetch}
    (safe : Safe deps first browser)
    (turns :
      fetches = [.refresh] ∧
          browser.requests.any Request.isRefresh = false ∨
        Plain fetches) : Safe deps first (browser.send page fetches) := by
  rcases turns with ⟨rfl, none⟩ | isPlain
  · refine safe_of_single (Registry.get_launch_self _ _) rfl
      (Registry.exclusive_launch_of_none none) ?_ safe.rotated safe.later
      ⟨rfl, safe.rest none⟩ ?_ safe.clean
    · intro id request found notRefresh
      rcases Registry.cases_of_get_launch found with ⟨_, rfl⟩ | stored
      · cases notRefresh
      · exact safe.others stored notRefresh
    · intro id call found isOpen
      obtain ⟨number, request, stored, isRefresh, _⟩ :=
        safe.working found isOpen
      have notRefresh :=
        Registry.test_of_not_any (Bool.eq_false_iff.mp none) stored
      rw [isRefresh] at notRefresh
      cases notRefresh
  · exact safe_send_plain safe isPlain

theorem Safe.phase_of_open {number : Nat} (safe : Safe deps first browser)
    (pending : browser.requests.get number = some request)
    (isRefresh : request.isRefresh = true)
    (found : browser.auth.calls.get id = some call)
    (isOpen : call.isOpen = true) : request.phase = .calling id := by
  obtain ⟨other, calling, isCalling, alsoRefresh, phase⟩ :=
    safe.working found isOpen
  cases safe.alone isCalling pending alsoRefresh isRefresh
  rw [pending] at isCalling
  cases isCalling
  exact phase

section Serve

variable {first id : Nat} {request : Request} {phase : Phase}

theorem Safe.alone_put (safe : Safe deps first browser)
    (pending : browser.requests.get id = some request) :
    (browser.requests.put id { request with phase := phase }).Exclusive
      Request.isRefresh := by
  apply safe.alone.put
  intro isRefresh other old notMe stored
  cases alsoRefresh : old.isRefresh with
  | false => rfl
  | true => exact absurd (safe.alone stored pending alsoRefresh isRefresh) notMe

theorem Safe.others_put (safe : Safe deps first browser)
    (harmless :
      request.isRefresh = false → Harmless { request with phase := phase }) :
    ∀ {other current},
      (browser.requests.put id { request with phase := phase }).get other =
        some current →
      current.isRefresh = false → Harmless current := by
  intro other current found notRefresh
  rcases Registry.cases_of_get_put found with ⟨_, rfl⟩ | ⟨_, stored⟩
  · exact harmless notRefresh
  · exact safe.others stored notRefresh

theorem ne_of_isRefresh {other : Nat} {current : Request}
    (pending : browser.requests.get id = some request)
    (notRefresh : request.isRefresh = false)
    (stored : browser.requests.get other = some current)
    (isRefresh : current.isRefresh = true) : other ≠ id := by
  rintro rfl
  rw [pending] at stored
  cases stored
  rw [notRefresh] at isRefresh
  cases isRefresh

theorem safe_phase (safe : Safe deps first browser)
    (pending : browser.requests.get id = some request)
    (isRefresh : request.isRefresh = true)
    (quiet :
      ∀ {call ended}, browser.auth.calls.get call = some ended →
        request.phase = .calling call → ended.isOpen = false)
    (sane :
      Sane deps first (browser.putPhase id request phase)
        { request with phase := phase }) :
    Safe deps first (browser.putPhase id request phase) := by
  refine safe_of_single (Registry.get_put_self pending) isRefresh
    (safe.alone_put pending) (safe.others_put ?_) safe.rotated safe.later
    sane ?_ safe.clean
  · intro notRefresh
    rw [isRefresh] at notRefresh
    cases notRefresh
  · intro call ended found isOpen
    have wasCalling := safe.phase_of_open pending isRefresh found isOpen
    rw [quiet found wasCalling] at isOpen
    cases isOpen

theorem safe_phase_of_other (safe : Safe deps first browser)
    (pending : browser.requests.get id = some request)
    (notRefresh : request.isRefresh = false)
    (harmless : Harmless { request with phase := phase }) :
    Safe deps first (browser.putPhase id request phase) := by
  refine safe_of_same_refreshes safe ?_ (safe.others_put fun _ => harmless)
  intro other current isRefresh
  constructor
  · intro found
    rcases Registry.cases_of_get_put found with ⟨_, rfl⟩ | ⟨_, stored⟩
    · exact absurd isRefresh (Bool.eq_false_iff.mp notRefresh)
    · exact stored
  · intro stored
    have notMe := ne_of_isRefresh pending notRefresh stored isRefresh
    exact (Registry.get_put_of_ne notMe).trans stored

variable {auth : Auth.State} {cookie : Option String}

theorem not_exchanged_of_live {token : String} {call : Nat} {new : String}
    (rotated : Auth.Rotated deps auth) (live : Live deps auth (some token)) :
    .exchanged call (deps.hashToken token) new ∉ auth.history := by
  intro exchanged
  obtain ⟨row, stored, isToken, isRevoked⟩ := rotated.spent exchanged
  rw [live token rfl row stored isToken] at isRevoked
  cases isRevoked

theorem safe_of_began {page : Nat} {token : String}
    (safe : Safe deps first browser)
    (pending : browser.requests.get id = some ⟨page, .refresh, cookie, .sent⟩)
    (given : presented cookie = some token)
    (called : Auth.step deps browser.auth (.refresh token) = some auth) :
    Safe deps first
      ({ browser with auth := auth }.putPhase id
        ⟨page, .refresh, cookie, .sent⟩
        (.calling browser.auth.calls.next)) := by
  obtain ⟨isCookie, live⟩ := safe.sane pending rfl
  have hasToken := presented_eq_some given
  rw [← isCookie, hasToken] at live
  cases called
  have began : Auth.Transition deps browser.auth (.refresh token) _ := .began
  have rotated := Auth.rotated_of_transition safe.rotated began
  have unexchanged :
      ∀ {earlier new},
        .exchanged earlier (deps.hashToken token) new ∉
          browser.auth.history :=
    not_exchanged_of_live safe.rotated live
  have later :
      first ≤ (browser.auth.calls.launch ⟨token, none, [], .selecting⟩).next :=
    Nat.le_succ_of_le safe.later
  refine safe_of_single (Registry.get_put_self pending) rfl
    (safe.alone_put pending) (safe.others_put ?_) rotated later
    ⟨safe.later, rfl, ⟨token, none, [], .selecting⟩, ?_,
      isCookie.symm.trans hasToken, live⟩ ?_ ?_
  · intro notRefresh
    cases notRefresh
  · exact Registry.get_launch_self _ _
  · intro call ended found isOpen
    rcases Registry.cases_of_get_launch found with ⟨rfl, _⟩ | stored
    · rfl
    · cases safe.phase_of_open pending rfl stored isOpen
  · intro call ended isLater found
    rcases Registry.cases_of_get_launch found with ⟨_, rfl⟩ | stored
    · exact ⟨rfl, fun _ => unexchanged⟩
    · exact safe.clean isLater stored

/-- The `Set-Cookie` of a refresh leaves a cookie that is alive: the new
token, no token, or the one that the call did not exchange. -/
theorem live_of_returned {ended : Auth.Call}
    {result : Except Status Auth.TokenResponse}
    (isOver : ended.stage = .returned result)
    (isCookie : cookie = some ended.token)
    (live : Live deps auth (some (yielded ended))) :
    match result with
    | .ok response => Live deps auth (some response.refreshToken)
    | .error err =>
        Live deps auth
          (Browser.applyCookie cookie
            (if err.code = .unauthenticated then some none else none)) := by
  cases result with
  | ok response =>
      have isYield : yielded ended = response.refreshToken := by
        rw [yielded, isOver]
      rw [isYield] at live
      exact live
  | error err =>
      have isYield : yielded ended = ended.token := by
        rw [yielded, isOver]
      rw [isYield, ← isCookie] at live
      dsimp only
      split
      · intro token isToken
        cases isToken
      · exact live

theorem safe_of_returned {page call : Nat} {fetch : Fetch} {ended : Auth.Call}
    {result : Except Status Auth.TokenResponse} (safe : Safe deps first browser)
    (pending :
      browser.requests.get id = some ⟨page, fetch, cookie, .calling call⟩)
    (found : browser.auth.calls.get call = some ended)
    (isOver : ended.stage = .returned result) :
    Safe deps first
      (browser.putPhase id ⟨page, fetch, cookie, .calling call⟩
        (refreshAnswered result)) := by
  cases isRefresh : Request.isRefresh ⟨page, fetch, cookie, .calling call⟩ with
  | false => exact (safe.others pending isRefresh).2.elim
  | true =>
      obtain ⟨_, _, known, isKnown, isCookie, live⟩ :=
        safe.sane pending isRefresh
      rw [found] at isKnown
      cases isKnown
      refine safe_phase safe pending isRefresh ?_ ?_
      · intro other otherCall otherFound isCalling
        cases isCalling
        rw [found] at otherFound
        cases otherFound
        rw [Auth.Call.isOpen, isOver]
      · have alive := live_of_returned isOver isCookie live
        cases result with
        | ok response => exact alive
        | error err => exact alive

theorem safe_of_served (safe : Safe deps first browser)
    (reported : label.reported = true)
    (pending : browser.requests.get id = some request)
    (serves : Serves deps browser label id request auth phase) :
    Safe deps first
      ({ browser with auth := auth }.putPhase id request phase) := by
  have notCalling :
      request.phase = .sent →
        ∀ {call ended}, browser.auth.calls.get call = some ended →
          request.phase = .calling call → ended.isOpen = false := by
    intro isSent call ended _ isCalling
    rw [isSent] at isCalling
    cases isCalling
  cases serves with
  | @refused _ page fetch cookie answer harmless =>
      cases isRefresh : Request.isRefresh ⟨page, fetch, cookie, .sent⟩ with
      | true =>
          have sane := safe.sane pending isRefresh
          exact safe_phase safe pending isRefresh (notCalling rfl) sane.2
      | false =>
          have was := safe.others pending isRefresh
          exact safe_phase_of_other safe pending isRefresh ⟨was.1, rfl⟩
  | api => exact safe_phase_of_other safe pending rfl ⟨rfl, rfl⟩
  | noSession missing =>
      have sane := safe.sane pending rfl
      exact safe_phase safe pending rfl (notCalling rfl) sane.2
  | refreshing given called => exact safe_of_began safe pending given called
  | login called => cases (safe.others pending rfl).1
  | signedOut => cases (safe.others pending rfl).1
  | logout called => cases (safe.others pending rfl).1
  | returned found isOver => exact safe_of_returned safe pending found isOver
  | gaveUp broken => cases reported

end Serve

section Moves

variable {auth : Auth.State} {step : Auth.Label} {id : Nat}
  {call after : Auth.Call}

theorem yielded_of_open (isOpen : call.isOpen = true) :
    yielded call = call.token := by
  unfold Auth.Call.isOpen at isOpen
  unfold yielded
  split
  · rename_i response stage
    rw [stage] at isOpen
    cases isOpen
  · rfl

theorem yielded_of_moves (moves : Auth.Moves deps auth step id call after) :
    after.token = call.token ∧ yielded after = call.token := by
  cases moves <;> exact ⟨rfl, rfl⟩

/-- A call whose token is alive does not find a reuse. -/
theorem noReuse_of_moves (moves : Auth.Moves deps auth step id call after)
    (before : call.reuse = false) (live : Live deps auth (some call.token)) :
    after.reuse = false := by
  cases moves with
  | reused stored free isRevoked =>
      have isAlive := live _ rfl _ (mem_of_lookup stored) (key_of_lookup stored)
      rw [isRevoked] at isAlive
      cases isAlive
  | expired stored isAlive => exact isAlive
  | accepted stored free isAlive => exact isAlive
  | _ => exact before

end Moves

theorem Safe.acting (safe : Safe deps first browser)
    (running : browser.auth.calls.get id = some call)
    (isOpen : call.isOpen = true) :
    ∃ number request, browser.requests.get number = some request ∧
      request.isRefresh = true ∧ request.phase = .calling id ∧
      first ≤ id ∧ id + 1 = browser.auth.calls.next ∧
      browser.cookie = some call.token ∧
      Live deps browser.auth (some call.token) := by
  obtain ⟨number, request, pending, isRefresh, isPhase⟩ :=
    safe.working running isOpen
  have sane := safe.sane pending isRefresh
  obtain ⟨page, fetch, cookie, phase⟩ := request
  cases isPhase
  obtain ⟨isLater, isLast, known, isKnown, isCookie, live⟩ := sane
  rw [running] at isKnown
  cases isKnown
  rw [yielded_of_open isOpen] at live
  exact ⟨number, _, pending, isRefresh, rfl, isLater, isLast, isCookie, live⟩

/-- The call at work takes its place in the registry with what it yields. -/
theorem safe_of_acting {after : Auth.Call} (safe : Safe deps first browser)
    (running : browser.auth.calls.get id = some call)
    (isOpen : call.isOpen = true) (rotated : Auth.Rotated deps auth)
    (calls : auth.calls = browser.auth.calls.put id after)
    (sameToken : after.token = call.token)
    (live : Live deps auth (some (yielded after)))
    (noReuse : after.reuse = false)
    (history :
      ∀ {earlier old new}, .exchanged earlier old new ∈ auth.history →
        .exchanged earlier old new ∈ browser.auth.history ∨ earlier = id) :
    Safe deps first { browser with auth := auth } := by
  obtain
    ⟨number, request, pending, isRefresh, isPhase, isLater, isLast,
      isCookie, _⟩ := safe.acting running isOpen
  have sameNext : auth.calls.next = browser.auth.calls.next := by
    rw [calls]
    rfl
  refine safe_of_single pending isRefresh safe.alone safe.others rotated
    (sameNext ▸ safe.later) ?_ ?_ ?_
  · obtain ⟨page, fetch, cookie, phase⟩ := request
    cases isPhase
    refine ⟨isLater, isLast.trans sameNext.symm, after, ?_, ?_, live⟩
    · rw [calls]
      exact Registry.get_put_self running
    · rw [sameToken]
      exact isCookie
  · intro other otherCall found stillOpen
    rw [calls] at found
    rcases Registry.cases_of_get_put found with ⟨rfl, _⟩ | ⟨_, stored⟩
    · exact isPhase
    · exact safe.phase_of_open pending isRefresh stored stillOpen
  · intro other otherCall otherLater found
    rw [calls] at found
    have fresh :
        otherCall.reuse = false ∧
          ∀ {earlier new}, earlier < other →
            .exchanged earlier (deps.hashToken otherCall.token) new ∉
              browser.auth.history := by
      rcases Registry.cases_of_get_put found with ⟨rfl, rfl⟩ | ⟨_, stored⟩
      · rw [sameToken]
        exact ⟨noReuse, (safe.clean isLater running).2⟩
      · exact safe.clean otherLater stored
    refine ⟨fresh.1, ?_⟩
    intro earlier new isEarlier exchanged
    rcases history exchanged with isOld | rfl
    · exact fresh.2 isEarlier isOld
    · have isOld := Registry.lt_next_of_get found
      have sameBound :
          (browser.auth.calls.put earlier after).next =
            browser.auth.calls.next :=
        rfl
      omega

theorem safe_of_auth {inner : Auth.Label} (safe : Safe deps first browser)
    (ordinary : inner.internal = true)
    (reported : (Label.auth inner).reported = true)
    (transition : Auth.Transition deps browser.auth inner auth) :
    Safe deps first { browser with auth := auth } := by
  have rotated := Auth.rotated_of_transition safe.rotated transition
  cases transition with
  | nothing atomic => exact safe
  | registered user => cases ordinary
  | loggedIn authentic committed isFresh => cases ordinary
  | loggedOut stored free => cases ordinary
  | began => cases ordinary
  | @moved _ id call after running moves =>
      have isOpen := Auth.open_of_moves moves
      obtain ⟨_, _, _, _, _, isLater, _, _, live⟩ := safe.acting running isOpen
      obtain ⟨sameToken, yields⟩ := yielded_of_moves moves
      refine safe_of_acting safe running isOpen rotated rfl sameToken ?_
        (noReuse_of_moves moves (safe.clean isLater running).1 live)
        (fun exchanged => Or.inl exchanged)
      rw [yields]
      exact live
  | @revoked id outcome token row updated running committed =>
      obtain ⟨_, _, _, _, _, isLater, _⟩ := safe.acting running rfl
      obtain ⟨read, isRead, isRevoked, _⟩ := safe.rotated.sound.shaped running
      cases isRead
      have noReuse := (safe.clean isLater running).1
      rw [Auth.Call.reuse, Option.any_some, isRevoked] at noReuse
      cases noReuse
  | @exchanged id outcome token row updated user issued running committed =>
      obtain ⟨_, _, _, _, _, isLater, _⟩ := safe.acting running rfl
      obtain ⟨_, _, _, _, _, tokenId, refreshToken, now, rfl⟩ :=
        Auth.alive_of_committing safe.rotated.sound running
      cases outcome with
      | failed => exact absurd rfl committed
      | lost => cases reported
      | done =>
          refine safe_of_acting safe running rfl rotated rfl rfl ?_
            (safe.clean isLater running).1 ?_
          · rintro _ ⟨⟩ other stored sameHash
            have isNew :
                other = (deps.issueTokens user tokenId refreshToken now).row :=
              row_unique rotated.sound.hashes stored
                (List.mem_append_right _ List.mem_cons_self) sameHash
            rw [isNew]
            rfl
          · intro earlier old new exchanged
            rcases List.mem_cons.mp exchanged with isNew | isOld
            · cases isNew
              exact Or.inr rfl
            · exact Or.inl isOld

theorem safe_of_answer {reply : Reply} {setCookie : Option (Option String)}
    (safe : Safe deps first browser)
    (pending : browser.requests.get id = some request)
    (isRefresh : request.isRefresh = true)
    (isPhase : request.phase = .answered reply setCookie) :
    Safe deps first
      { browser with
        cookie := Browser.applyCookie browser.cookie setCookie
        pages := pages
        requests := browser.requests.finish id } where
  rotated := safe.rotated
  later := safe.later
  alone := safe.alone.finish
  others := by
    intro other current found notRefresh
    exact safe.others (Registry.get_of_get_finish found).2 notRefresh
  sane := by
    intro other current found alsoRefresh
    obtain ⟨notMe, stored⟩ := Registry.get_of_get_finish found
    exact absurd (safe.alone stored pending alsoRefresh isRefresh) notMe
  working := by
    intro call ended found isOpen
    have isCalling := safe.phase_of_open pending isRefresh found isOpen
    rw [isPhase] at isCalling
    cases isCalling
  rest := by
    intro _
    have sane := safe.sane pending isRefresh
    obtain ⟨page, fetch, cookie, phase⟩ := request
    cases isPhase
    exact sane
  clean := safe.clean

theorem safe_of_other_answer (safe : Safe deps first browser)
    (pending : browser.requests.get id = some request)
    (notRefresh : request.isRefresh = false) :
    Safe deps first
      { browser with
        pages := pages
        requests := browser.requests.finish id } := by
  refine safe_of_same_refreshes safe ?_ ?_
  · intro other current isRefresh
    refine ⟨fun found => (Registry.get_of_get_finish found).2, ?_⟩
    intro stored
    have notMe := ne_of_isRefresh pending notRefresh stored isRefresh
    exact (Registry.get_finish_of_ne notMe).trans stored
  · intro other current found isOther
    exact safe.others (Registry.get_of_get_finish found).2 isOther

theorem safe_of_transition (safe : Safe deps first browser)
    (ordinary : label.ordinary = true) (turns : TakesTurns browser label)
    (transition : Transition deps browser label next) :
    Safe deps first next := by
  have sends :
      browser.sends label = [.refresh] ∧
          browser.requests.any Request.isRefresh = false ∨
        Plain (browser.sends label) := by
    rcases sends_cases browser label with
      (isRefresh | isPlain) | ⟨page, credentials, rfl⟩ | ⟨page, rfl⟩
    · refine Or.inl ⟨isRefresh, turns.2 ?_⟩
      rw [isRefresh]
      exact List.mem_cons_self
    · exact Or.inr isPlain
    · cases ordinary
    · cases ordinary
  cases transition with
  | opened => exact safe_send (safe_of_pages safe _) sends
  | refreshed shown => exact safe_send (safe_of_pages safe _) sends
  | called shown => exact safe_send safe sends
  | loggingIn shown => cases ordinary
  | loggingOut shown => cases ordinary
  | served pending serves => exact safe_of_served safe turns.1 pending serves
  | auth stepped =>
      exact safe_of_auth safe ordinary turns.1 (Auth.transition_of_step stepped)
  | @delivered _ id request page reply setCookie pending shown delivers =>
      have afterwards :
          browser.sends label = [.refresh] ∧
              (browser.requests.finish id).any Request.isRefresh = false ∨
            Plain (browser.sends label) := by
        rcases sends with ⟨isRefresh, none⟩ | isPlain
        · refine Or.inl ⟨isRefresh, ?_⟩
          cases some : (browser.requests.finish id).any Request.isRefresh with
          | false => rfl
          | true =>
              rw [Registry.any_of_any_finish some] at none
              cases none
        · exact Or.inr isPlain
      cases delivers with
      | @arrived _ pageId fetch cookie =>
          cases isRefresh :
              Request.isRefresh
                ⟨pageId, fetch, cookie, .answered reply setCookie⟩ with
          | true =>
              exact safe_send (safe_of_answer safe pending isRefresh rfl)
                afterwards
          | false =>
              have isNone : setCookie = none :=
                (safe.others pending isRefresh).2
              cases isNone
              exact safe_send (safe_of_other_answer safe pending isRefresh)
                afterwards
      | lost => cases ordinary

/-- The pages of a browser never present a token that an earlier call has
exchanged, and never trip the detection of theft, if each refresh of the
browser waits for the answer of the one before and every exchange is
reported. -/
theorem tabs_never_trip_theft_detection {earlier : List Auth.Label}
    {auth : Auth.State} {cookie : Option String}
    (reached : run (Auth.step deps) Auth.State.empty earlier = some auth)
    (idle : ∀ id call, auth.calls.get id = some call → call.isOpen = false)
    (alive : Live deps auth cookie) {labels : List Label} {final : Browser}
    (ordinary : ∀ label ∈ labels, label.ordinary = true)
    (turns :
      EveryStep (step deps) TakesTurns (Browser.start auth cookie) labels)
    (ran : run (step deps) (Browser.start auth cookie) labels = some final) :
    ∀ id call, auth.calls.next ≤ id →
      final.auth.calls.get id = some call →
        call.reuse = false ∧
          ∀ before new, before < id →
            .exchanged before (deps.hashToken call.token) new ∉
              final.auth.history := by
  have both :
      EveryStep (step deps)
        (fun browser label =>
          label.ordinary = true ∧ TakesTurns browser label)
        (Browser.start auth cookie) labels :=
    everyStep_and (everyStep_of_mem ordinary _) turns
  have rotated := Auth.rotated_of_run Auth.rotated_empty reached
  have safe : Safe deps auth.calls.next final :=
    invariant_of_restricted_run
      (fun held allowed stepped =>
        safe_of_transition held allowed.1 allowed.2
          (transition_of_step stepped))
      (safe_start rotated (fun found => idle _ _ found) alive) both ran
  intro id call isLater found
  obtain ⟨noReuse, unexchanged⟩ := safe.clean isLater found
  exact ⟨noReuse, fun before new isEarlier => unexchanged isEarlier⟩

/-- A user has logged in and got this token. -/
def signedInLabels (token : String) : List Auth.Label :=
  .register Auth.ann "bcrypt:correct horse" 1 :: Auth.signInLabels 10 token

/-- The request for a refresh is served and answered with a new token. -/
def exchangeLabels (request call : Nat) (rowId : UUID) (token : String) :
    List Label :=
  [.serveRefresh request] ++
    (Auth.rotateLabels call rowId token).map Label.auth ++
    [.auth (.commit call .done), .answer request, .arrive request]

theorem live_of_all_alive
    (alive : ∀ row ∈ auth.db.refreshTokens, row.revoked = false)
    (cookie : Option String) : Live deps auth cookie :=
  fun _ _ row stored _ => alive row stored

theorem idle_of_no_open (none : auth.calls.any Auth.Call.isOpen = false) :
    ∀ id call, auth.calls.get id = some call → call.isOpen = false :=
  fun _ _ found =>
    Registry.test_of_not_any (Bool.eq_false_iff.mp none) found

-- A second page is opened after the first one has its answer.
private def inTurnLabels : List Label :=
  [.opened] ++ exchangeLabels 0 0 11 "two" ++ [.opened] ++
    exchangeLabels 1 1 12 "three"

theorem tabs_never_trip_theft_detection_in_turn :
    ∃ (auth : Auth.State) (final : Browser),
      run (Auth.step Auth.sampleDeps) Auth.State.empty
          (signedInLabels "one") = some auth ∧
        run (step Auth.sampleDeps) (Browser.start auth (some "one"))
          inTurnLabels = some final ∧
        final.cookie = some "three" ∧
        ∀ id call, auth.calls.next ≤ id →
          final.auth.calls.get id = some call →
            call.reuse = false ∧
              ∀ before new, before < id →
                .exchanged before (Auth.sampleDeps.hashToken call.token)
                  new ∉ final.auth.history := by
  have ends :
      (run (Auth.step Auth.sampleDeps) Auth.State.empty
          (signedInLabels "one")).any
        (fun auth =>
          decide
              (auth.calls.any Auth.Call.isOpen = false ∧
                (∀ row ∈ auth.db.refreshTokens, row.revoked = false) ∧
                EveryStep (step Auth.sampleDeps) TakesTurns
                  (Browser.start auth (some "one")) inTurnLabels) &&
            (run (step Auth.sampleDeps) (Browser.start auth (some "one"))
              inTurnLabels).any fun final =>
                decide (final.cookie = some "three")) = true := by
    decide +kernel
  obtain ⟨auth, reached, checked⟩ := (Option.any_eq_true _ _).mp ends
  obtain ⟨isStart, someFinal⟩ := Bool.and_eq_true_iff.mp checked
  obtain ⟨idle, alive, turns⟩ := of_decide_eq_true isStart
  obtain ⟨final, ran, isCookie⟩ := (Option.any_eq_true _ _).mp someFinal
  exact ⟨auth, final, reached, ran, of_decide_eq_true isCookie,
    tabs_never_trip_theft_detection reached (idle_of_no_open idle)
      (live_of_all_alive alive _) (by decide) turns ran⟩

-- Two pages are opened at the same time.
private def atOnceLabels : List Label :=
  [.opened, .opened] ++ exchangeLabels 0 0 11 "two" ++
    [.serveRefresh 1, .auth (.select 1 2), .auth (.revokeAll 1),
      .auth (.revokeRow 1 10), .auth (.revokeRow 1 11),
      .auth (.commit 1 .done), .answer 1, .arrive 1]

theorem tabs_opened_at_once_trip_theft_detection :
    ∃ (auth : Auth.State) (final : Browser) (call : Auth.Call)
      (new : String),
      run (Auth.step Auth.sampleDeps) Auth.State.empty
          (signedInLabels "one") = some auth ∧
        (∀ id call, auth.calls.get id = some call → call.isOpen = false) ∧
        Live Auth.sampleDeps auth (some "one") ∧
        (∀ label ∈ atOnceLabels, label.ordinary = true) ∧
        run (step Auth.sampleDeps) (Browser.start auth (some "one"))
          atOnceLabels = some final ∧
        auth.calls.next ≤ 1 ∧ final.auth.calls.get 1 = some call ∧
        call.reuse = true ∧
        .exchanged 0 (Auth.sampleDeps.hashToken call.token) new ∈
          final.auth.history ∧
        ∀ row ∈ final.auth.db.refreshTokens, row.revoked = true := by
  have ends :
      (run (Auth.step Auth.sampleDeps) Auth.State.empty
          (signedInLabels "one")).any
        (fun auth =>
          decide
              (auth.calls.any Auth.Call.isOpen = false ∧
                (∀ row ∈ auth.db.refreshTokens, row.revoked = false) ∧
                auth.calls.next ≤ 1) &&
            (run (step Auth.sampleDeps) (Browser.start auth (some "one"))
              atOnceLabels).any fun final =>
                (final.auth.calls.get 1).any fun call =>
                  decide
                    (call.reuse = true ∧
                      .exchanged 0 (Auth.sampleDeps.hashToken call.token)
                          "sha256:two" ∈ final.auth.history ∧
                      ∀ row ∈ final.auth.db.refreshTokens,
                        row.revoked = true)) = true := by
    decide +kernel
  obtain ⟨auth, reached, checked⟩ := (Option.any_eq_true _ _).mp ends
  obtain ⟨isStart, someFinal⟩ := Bool.and_eq_true_iff.mp checked
  obtain ⟨idle, alive, isFirst⟩ := of_decide_eq_true isStart
  obtain ⟨final, ran, someCall⟩ := (Option.any_eq_true _ _).mp someFinal
  obtain ⟨call, found, facts⟩ := (Option.any_eq_true _ _).mp someCall
  obtain ⟨isReuse, exchanged, allRevoked⟩ := of_decide_eq_true facts
  exact ⟨auth, final, call, _, reached, idle_of_no_open idle,
    live_of_all_alive alive _, by decide, ran, isFirst, found, isReuse,
    exchanged, allRevoked⟩

end TicketWave.Web
