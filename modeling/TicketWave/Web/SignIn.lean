import TicketWave.Web.Answers
import TicketWave.Web.Tabs

/-!
# Signing in and out in one page

After the reply to the last call only two things can undo it: the reply to a
request that was on its way at that time, and a refresh that ends the session
or, after a logout that the gateway has not seen, goes on with it.
-/

namespace TicketWave.Web

open Library

/-- What the reply to a request writes to the store. -/
def written : Fetch → Reply → Option AuthState
  | .refresh, .ok (.session session) | .login _, .ok (.session session) =>
      some (AuthState.ofSession session)
  | .refresh, .error err =>
      if err.status = 401 then some AuthState.cleared else none
  | .logout, _ => some AuthState.cleared
  | _, _ => none

/-- The request that the step ends and what its reply writes. -/
def Browser.writes (browser : Browser) : Label → Option (Nat × AuthState)
  | .arrive id =>
      (browser.requests.get id).bind fun request =>
        (browser.pages.get request.page).bind fun _ =>
          match request.phase with
          | .answered reply _ => (written request.fetch reply).map (Prod.mk id)
          | _ => none
  | .disconnect id =>
      (browser.requests.get id).bind fun request =>
        (browser.pages.get request.page).bind fun _ =>
          (written request.fetch (.error networkError)).map (Prod.mk id)
  | _ => none

/-- A reply that writes to the store is one that may. -/
def Writes (may : Nat → AuthState → Prop) (browser : Browser) (label : Label) :
    Prop :=
  ∀ write ∈ browser.writes label, may write.1 write.2

instance
    {may : Nat → AuthState → Prop} [∀ id, DecidablePred (may id)]
    (browser : Browser) (label : Label) :
    Decidable (Writes may browser label) :=
  decidable_of_iff
    (∀ write ∈ (browser.writes label).toList, may write.1 write.2)
    (by simp [Writes])

/-- The store of every page is like this. -/
def Stores (wanted : AuthState → Prop) (browser : Browser) : Prop :=
  ∀ id page, browser.pages.get id = some page → wanted page.store

def After (deps : Auth.Deps) (wanted : AuthState → Prop) (browser : Browser)
    (label : Label) : Prop :=
  ∀ next, step deps browser label = some next → Stores wanted next

/-- The store has this user. -/
def Shows (user : UUID) (store : AuthState) : Prop :=
  store.status = .authenticated ∧ store.user.map User.id = some user

instance (user : UUID) : DecidablePred (Shows user) :=
  fun _ => inferInstanceAs (Decidable (_ ∧ _))

/-- A page is loaded, or calls `login` or `logout`. -/
def Label.calls : Label → Bool
  | .opened | .login _ _ | .logout _ => true
  | _ => false

variable {deps : Auth.Deps} {browser next : Browser} {label : Label}

section Store

variable {page : Page} {fetch : Fetch} {reply : Reply} {number : Nat}
  {store : AuthState}

theorem bootedStore_of_known (known : store.status ≠ .unknown) :
    page.bootedStore store = store := by
  unfold Page.bootedStore
  exact if_neg fun unknown => known unknown.2

theorem refreshedStore_eq :
    page.refreshedStore reply = (written .refresh reply).getD page.store := by
  match reply with
  | .ok (.session _) | .ok .other => rfl
  | .error err =>
      by_cases is401 : err.status = 401
      · rw [Page.refreshedStore, if_pos is401, written, if_pos is401]
        rfl
      · rw [Page.refreshedStore, if_neg is401, written, if_neg is401]
        rfl

theorem store_of_refreshSession (page : Page) (number : Nat) :
    (page.refreshSession number).1.store = page.store := by
  unfold Page.refreshSession
  split <;> rfl

theorem store_of_settleApi (page : Page) (number : Nat) (call : ApiRequest)
    (again : Bool) (reply : Reply) :
    (page.settleApi number call again reply).1.store = page.store := by
  unfold Page.settleApi
  split
  · split
    · exact store_of_refreshSession page number
    · rfl
  · rfl

theorem store_of_settle
    (known : ((written fetch reply).getD page.store).status ≠ .unknown) :
    (page.settle number fetch reply).1.store =
      (written fetch reply).getD page.store := by
  cases fetch with
  | refresh =>
      rw [← refreshedStore_eq] at known ⊢
      exact bootedStore_of_known known
  | login credentials =>
      match reply with
      | .ok (.session _) | .ok .other | .error _ => rfl
  | logout => rfl
  | api call token again =>
      exact store_of_settleApi page number call again reply

theorem known_of_written (isWritten : written fetch reply = some store) :
    store.status ≠ .unknown := by
  unfold written at isWritten
  split at isWritten
  · cases isWritten
    exact nofun
  · cases isWritten
    exact nofun
  · split at isWritten
    · cases isWritten
      exact nofun
    · cases isWritten
  · cases isWritten
    exact nofun
  · cases isWritten

theorem cleared_of_error {err : ApiError}
    (isWritten : written .refresh (.error err) = some store) :
    store = AuthState.cleared := by
  rw [written] at isWritten
  split at isWritten
  · exact (Option.some.inj isWritten).symm
  · cases isWritten

end Store

variable {id : Nat} {request : Request}

theorem writes_of_delivers {page : Page} {reply : Reply}
    {setCookie : Option (Option String)}
    (pending : browser.requests.get id = some request)
    (shown : browser.pages.get request.page = some page)
    (delivers : Delivers label id request reply setCookie) :
    browser.writes label = (written request.fetch reply).map (Prod.mk id) := by
  cases delivers with
  | arrived =>
      rw [Browser.writes, pending, Option.bind_some, shown, Option.bind_some]
  | lost =>
      rw [Browser.writes, pending, Option.bind_some, shown, Option.bind_some]

theorem step_of_writes {id : Nat} {store : AuthState}
    (writes : browser.writes label = some (id, store)) :
    ∃ next, step deps browser label = some next ∧
      ∃ number page, next.pages.get number = some page ∧
        page.store = store := by
  have delivered
      {request : Request} {page : Page} {reply : Reply} {after : Browser}
      (shown : browser.pages.get request.page = some page)
      (isWritten : written request.fetch reply = some store)
      (isPages :
        after.pages =
          browser.pages.put request.page
            (page.settle browser.requests.next request.fetch reply).1) :
      ∃ number page, after.pages.get number = some page ∧
        page.store = store := by
    refine ⟨request.page,
      (page.settle browser.requests.next request.fetch reply).1, ?_, ?_⟩
    · rw [isPages]
      exact Registry.get_put_self shown
    · have isStore : (written request.fetch reply).getD page.store = store := by
        rw [isWritten, Option.getD_some]
      rw [store_of_settle, isStore]
      rw [isStore]
      exact known_of_written isWritten
  cases label with
  | arrive number =>
      obtain ⟨request, pending, inPage⟩ := Option.bind_eq_some_iff.mp writes
      obtain ⟨page, shown, isWritten⟩ := Option.bind_eq_some_iff.mp inPage
      obtain ⟨pageId, fetch, cookie, phase⟩ := request
      cases phase with
      | answered reply setCookie =>
          obtain ⟨_, isStore, same⟩ := Option.map_eq_some_iff.mp isWritten
          cases same
          refine ⟨{ browser with
              cookie :=
                Browser.applyCookie browser.cookie setCookie }.deliver
              id ⟨pageId, fetch, cookie, .answered reply setCookie⟩
              page reply, ?_, delivered shown isStore rfl⟩
          simp only [step, pending, shown]
      | _ => cases isWritten
  | disconnect number =>
      obtain ⟨request, pending, inPage⟩ := Option.bind_eq_some_iff.mp writes
      obtain ⟨page, shown, isWritten⟩ := Option.bind_eq_some_iff.mp inPage
      obtain ⟨_, isStore, same⟩ := Option.map_eq_some_iff.mp isWritten
      cases same
      refine ⟨browser.deliver id request page (.error networkError), ?_,
        delivered shown isStore rfl⟩
      simp only [step, pending, shown]
  | _ => cases writes

theorem honest_of_delivers {reply : Reply} {setCookie : Option (Option String)}
    (faithful : Faithful deps browser)
    (pending : browser.requests.get id = some request)
    (delivers : Delivers label id request reply setCookie) :
    Honest deps browser.auth
      { request with phase := .answered reply setCookie } := by
  cases delivers with
  | arrived => exact faithful.honest id _ pending
  | lost => exact honest_of_error fun _ is401 => nomatch is401

/-- The stores are as wanted, and the cookie is one that keeps them so, also
that of each refresh that was sent since. -/
structure Heeds
    (bar : Nat) (wanted : AuthState → Prop)
    (fits : Auth.State → Option String → Prop) (browser : Browser) :
    Prop where
  stores : Stores wanted browser
  cookie : fits browser.auth browser.cookie
  later :
    ∀ id request, browser.requests.get id = some request → bar ≤ id →
      request.fetch.authentic = true →
        request.fetch = .refresh ∧ fits browser.auth request.cookie

section Heeds

variable {bar : Nat} {wanted : AuthState → Prop}
  {fits : Auth.State → Option String → Prop}
  {may : Nat → AuthState → Prop}

theorem heeds_send {page : Nat} {fetches : List Fetch}
    (heeds : Heeds bar wanted fits browser)
    (sent : fetches = [.refresh] ∨ Plain fetches) :
    Heeds bar wanted fits (browser.send page fetches) := by
  refine ⟨heeds.stores, heeds.cookie, ?_⟩
  intro id request found isLater isSession
  rcases cases_of_get_send found with ⟨_, fetch, member, rfl⟩ | stored
  · rcases sent with rfl | isPlain
    · rw [List.mem_singleton.mp member]
      exact ⟨rfl, heeds.cookie⟩
    · have notSession := isPlain fetch member
      rw [show fetch.authentic = true from isSession] at notSession
      cases notSession
  · exact heeds.later id request stored isLater isSession

/-- A reply leaves a store that is wanted and a cookie that fits. -/
def Answering (deps : Auth.Deps) (bar : Nat) (wanted : AuthState → Prop)
    (fits : Auth.State → Option String → Prop) (may : Nat → AuthState → Prop) :
    Prop :=
  ∀ {browser : Browser} {id : Nat} {request : Request} {reply : Reply}
    {setCookie : Option (Option String)},
    Auth.Sound deps browser.auth →
      Heeds bar wanted fits browser →
      browser.requests.get id = some request →
      Honest deps browser.auth
        { request with phase := .answered reply setCookie } →
      (∀ store, written request.fetch reply = some store → may id store) →
        fits browser.auth
            (Browser.applyCookie browser.cookie setCookie) ∧
          ∀ store, written request.fetch reply = some store → wanted store

theorem heeds_of_transition
    (known : ∀ store, wanted store → store.status ≠ .unknown)
    (kept :
      ∀ {auth later inner cookie}, Auth.Transition deps auth inner later →
        fits auth cookie → fits later cookie)
    (answering : Answering deps bar wanted fits may)
    (faithful : Faithful deps browser) (heeds : Heeds bar wanted fits browser)
    (noCall : label.calls = false) (allowed : Writes may browser label)
    (transition : Transition deps browser label next) :
    Heeds bar wanted fits next := by
  have sent :
      browser.sends label = [.refresh] ∨ Plain (browser.sends label) := by
    rcases sends_cases browser label with
      ordinary | ⟨_, _, rfl⟩ | ⟨_, rfl⟩
    · exact ordinary
    · cases noCall
    · cases noCall
  obtain ⟨inner, authSteps⟩ := auth_of_transition transition
  cases transition with
  | opened => cases noCall
  | loggingIn shown => cases noCall
  | loggingOut shown => cases noCall
  | @refreshed id page shown =>
      refine heeds_send ⟨?_, heeds.cookie, heeds.later⟩ sent
      intro other current found
      rcases Registry.cases_of_get_put found with ⟨rfl, rfl⟩ | ⟨_, stored⟩
      · rw [store_of_refreshSession]
        exact heeds.stores _ page shown
      · exact heeds.stores other current stored
  | called shown => exact heeds_send heeds sent
  | served pending serves =>
      refine ⟨heeds.stores, kept authSteps heeds.cookie, ?_⟩
      intro id request found isLater isSession
      have was :
          request.fetch = .refresh ∧ fits browser.auth request.cookie := by
        rcases Registry.cases_of_get_put found with
          ⟨rfl, rfl⟩ | ⟨_, stored⟩
        · have before := heeds.later _ _ pending isLater isSession
          exact before
        · exact heeds.later id request stored isLater isSession
      exact ⟨was.1, kept authSteps was.2⟩
  | auth stepped =>
      refine ⟨heeds.stores, kept authSteps heeds.cookie, ?_⟩
      intro id request found isLater isSession
      have was := heeds.later id request found isLater isSession
      exact ⟨was.1, kept authSteps was.2⟩
  | @delivered _ id request page reply setCookie pending shown delivers =>
      have writes := writes_of_delivers pending shown delivers
      obtain ⟨isFitting, isWanted⟩ :=
        answering faithful.vouched.sound heeds pending
          (honest_of_delivers faithful pending delivers)
          (fun store isWritten =>
            allowed (id, store) (by rw [writes, isWritten]; rfl))
      refine heeds_send ⟨?_, isFitting, ?_⟩ sent
      · intro other current found
        rcases Registry.cases_of_get_put found with
          ⟨rfl, rfl⟩ | ⟨_, stored⟩
        · have wantedStore :
              wanted ((written request.fetch reply).getD page.store) := by
            cases isWritten : written request.fetch reply with
            | none => exact heeds.stores _ page shown
            | some store => exact isWanted store isWritten
          rw [store_of_settle (known _ wantedStore)]
          exact wantedStore
        · exact heeds.stores other current stored
      · intro other current found isLater isSession
        exact heeds.later other current (Registry.get_of_get_finish found).2
          isLater isSession

/-- As long as nothing is called, the stores stay as wanted exactly if every
reply that writes to them may do so. -/
theorem stores_stay_iff
    (known : ∀ store, wanted store → store.status ≠ .unknown)
    (kept :
      ∀ {auth later inner cookie}, Auth.Transition deps auth inner later →
        fits auth cookie → fits later cookie)
    (answering : Answering deps bar wanted fits may)
    (harmless : ∀ id store, wanted store → may id store)
    (faithful : Faithful deps browser) (heeds : Heeds bar wanted fits browser)
    {later : List Label} (noCall : ∀ label ∈ later, label.calls = false) :
    EveryStep (step deps) (Writes may) browser later ↔
      EveryStep (step deps) (After deps wanted) browser later := by
  have keeps {state after : Browser} {moved : Label}
      (held : Faithful deps state ∧ Heeds bar wanted fits state)
      (allowed : moved.calls = false ∧ Writes may state moved)
      (stepped : step deps state moved = some after) :
      Faithful deps after ∧ Heeds bar wanted fits after := by
    have transition := transition_of_step stepped
    exact ⟨faithful_of_transition held.1 transition,
      heeds_of_transition known kept answering held.1 held.2 allowed.1
        allowed.2 transition⟩
  constructor
  · intro allowed
    exact everyStep_of_invariant keeps
      (fun held may next stepped => (keeps held may stepped).2.stores)
      ⟨faithful, heeds⟩ (everyStep_and (everyStep_of_mem noCall _) allowed)
  · intro always
    refine @everyStep_of_invariant _ _ _ _ _ (fun _ => True)
      (fun _ _ _ => trivial) ?_ _ _ trivial always
    intro state moved _ stays write writes
    obtain ⟨after, stepped, number, page, shown, isStore⟩ :=
      @step_of_writes deps _ _ _ _ writes
    rw [← isStore]
    exact harmless _ _ (stays after stepped number page shown)

end Heeds

section Calls

variable {bar : Nat}

/-- A logout that the gateway has not seen: the cookie may be any. -/
theorem answering_unheard :
    Answering deps bar (· = AuthState.cleared) (fun _ _ => True)
      (fun _ store => store = AuthState.cleared) :=
  fun _ _ _ _ allowed => ⟨trivial, allowed⟩

/-- Without a token a refresh brings no session. -/
theorem answering_heard :
    Answering deps bar (· = AuthState.cleared)
      (fun _ cookie => presented cookie = none)
      (fun id store => id < bar → store = AuthState.cleared) := by
  intro browser id request reply setCookie _ heeds pending honest allowed
  obtain ⟨page, fetch, cookie, phase⟩ := request
  have taken
      (isSet : setCookie = none ∨ setCookie = some none) :
      presented (Browser.applyCookie browser.cookie setCookie) = none := by
    rcases isSet with rfl | rfl
    · exact heeds.cookie
    · rfl
  have noSession {session : Session} (isOld : id < bar)
      (isWritten :
        written fetch reply = some (AuthState.ofSession session)) : False :=
    nomatch allowed _ isWritten isOld
  cases fetch with
  | refresh =>
      match reply with
      | .ok (.session session) =>
          by_cases isOld : id < bar
          · exact (noSession isOld rfl).elim
          · obtain ⟨old, _, given, _⟩ := honest
            have none : presented cookie = none :=
              (heeds.later id _ pending (Nat.le_of_not_lt isOld) rfl).2
            rw [none] at given
            cases given
      | .ok .other => exact honest.elim
      | .error err =>
          refine ⟨taken honest.1, ?_⟩
          intro store isWritten
          exact cleared_of_error isWritten
  | login credentials =>
      match reply with
      | .ok (.session session) =>
          by_cases isOld : id < bar
          · exact (noSession isOld rfl).elim
          · have isRefresh :=
              (heeds.later id _ pending (Nat.le_of_not_lt isOld) rfl).1
            cases isRefresh
      | .ok .other | .error _ => exact ⟨taken (Or.inl honest), nofun⟩
  | logout =>
      exact ⟨taken honest, fun _ isWritten => (Option.some.inj isWritten).symm⟩
  | api call token again => exact ⟨taken (Or.inl honest), nofun⟩

theorem answering_login {user : UUID} :
    Answering deps bar (Shows user)
      (fun auth cookie => ∀ token ∈ cookie, Auth.Owns deps auth user token)
      (fun id store =>
        store ≠ AuthState.cleared ∧ (id < bar → Shows user store)) := by
  intro browser id request reply setCookie sound heeds pending honest allowed
  obtain ⟨page, fetch, cookie, phase⟩ := request
  have taken
      (isSet : setCookie = none ∨ setCookie = some none) :
      ∀ token ∈ Browser.applyCookie browser.cookie setCookie,
        Auth.Owns deps browser.auth user token := by
    rcases isSet with rfl | rfl
    · exact heeds.cookie
    · exact nofun
  have renewed {session : Session} {new : String}
      (isWritten : written fetch reply = some (AuthState.ofSession session))
      (isUser : session.user.id = user) (isSet : setCookie = some (some new))
      (owns : Auth.Owns deps browser.auth session.user.id new) :
      (∀ token ∈ Browser.applyCookie browser.cookie setCookie,
          Auth.Owns deps browser.auth user token) ∧
        ∀ store, written fetch reply = some store → Shows user store := by
    cases isUser
    cases isSet
    refine ⟨?_, ?_⟩
    · rintro token ⟨⟩
      exact owns
    · intro store isStore
      rw [isWritten] at isStore
      cases isStore
      exact ⟨rfl, rfl⟩
  have isUser {session : Session} (isOld : id < bar)
      (isWritten : written fetch reply = some (AuthState.ofSession session)) :
      session.user.id = user :=
    Option.some.inj ((allowed _ isWritten).2 isOld).2
  cases fetch with
  | refresh =>
      match reply with
      | .ok (.session session) =>
          obtain ⟨old, new, given, isSet, ownsOld, ownsNew⟩ := honest
          refine renewed rfl ?_ isSet ownsNew
          by_cases isOld : id < bar
          · exact isUser isOld rfl
          · have mine :=
              (heeds.later id _ pending (Nat.le_of_not_lt isOld) rfl).2
            exact Auth.owner_unique sound ownsOld
              (mine old (presented_eq_some given))
      | .ok .other => exact honest.elim
      | .error err =>
          refine ⟨taken honest.1, ?_⟩
          intro store isWritten
          exact absurd (cleared_of_error isWritten) (allowed store isWritten).1
  | login credentials =>
      match reply with
      | .ok (.session session) =>
          obtain ⟨new, isSet, owns⟩ := honest
          by_cases isOld : id < bar
          · exact renewed rfl (isUser isOld rfl) isSet owns
          · have isRefresh :=
              (heeds.later id _ pending (Nat.le_of_not_lt isOld) rfl).1
            cases isRefresh
      | .ok .other | .error _ => exact ⟨taken (Or.inl honest), nofun⟩
  | logout => exact absurd rfl (allowed _ rfl).1
  | api call token again => exact ⟨taken (Or.inl honest), nofun⟩

end Calls

/-- There is one page. -/
def Single (browser : Browser) : Prop :=
  ∀ id page, browser.pages.get id = some page → id = 0

theorem single_of_transition
    (single : Single browser) (notOpened : label ≠ .opened)
    (transition : Transition deps browser label next) : Single next := by
  cases transition with
  | opened => exact absurd rfl notOpened
  | refreshed shown | delivered _ shown _ =>
      intro other current found
      rcases Registry.cases_of_get_put found with ⟨rfl, _⟩ | ⟨_, stored⟩
      · exact single _ _ shown
      · exact single other current stored
  | _ => exact single

theorem faithful_of_run {auth : Auth.State} {cookie : Option String}
    {before : List Label} (vouched : Auth.Vouched deps auth)
    (onePage : .opened ∉ before)
    (ran :
      run (step deps) (Browser.start auth cookie) (.opened :: before) =
        some browser) : Faithful deps browser ∧ Single browser := by
  obtain ⟨loaded, opened, ranOn⟩ := run_cons_eq_some_iff.mp ran
  have faithful : Faithful deps (Browser.start auth cookie) :=
    ⟨vouched, fun id request found => nomatch found⟩
  have single : Single loaded := by
    cases opened
    intro id page found
    rcases Registry.cases_of_get_launch found with ⟨rfl, rfl⟩ | stored
    · rfl
    · cases stored
  have keeps {state after : Browser} {moved : Label}
      (held : Faithful deps state ∧ Single state) (notOpened : moved ≠ .opened)
      (stepped : step deps state moved = some after) :
      Faithful deps after ∧ Single after := by
    have transition := transition_of_step stepped
    exact ⟨faithful_of_transition held.1 transition,
      single_of_transition held.2 notOpened transition⟩
  have neverAgain :
      EveryStep (step deps) (fun _ label => label ≠ .opened) loaded before := by
    apply everyStep_of_mem
    rintro moved member rfl
    exact onePage member
  exact invariant_of_restricted_run keeps
    ⟨faithful_of_transition faithful (transition_of_step opened), single⟩
    neverAgain ranOn

theorem delivered_of_step (pending : browser.requests.get id = some request)
    (ends : label = .arrive id ∨ label = .disconnect id)
    (stepped : step deps browser label = some next) :
    ∃ page reply setCookie,
      browser.pages.get request.page = some page ∧
        Delivers label id request reply setCookie ∧
        next.auth = browser.auth ∧
        next.cookie = Browser.applyCookie browser.cookie setCookie ∧
        next.pages =
          browser.pages.put request.page
            (page.settle browser.requests.next request.fetch reply).1 := by
  have transition := transition_of_step stepped
  cases transition with
  | served _ serves => rcases ends with rfl | rfl <;> cases serves
  | @delivered _ other asked page reply setCookie isAsked shown delivers =>
      have same : other = id := by
        rcases ends with rfl | rfl <;> cases delivers <;> rfl
      cases same
      rw [pending] at isAsked
      cases isAsked
      exact ⟨page, reply, setCookie, shown, delivers, rfl, rfl, rfl⟩
  | _ => rcases ends with same | same <;> cases same

theorem heeds_of_reply {wanted : AuthState → Prop}
    {fits : Auth.State → Option String → Prop} {request : Request} {page : Page}
    {reply : Reply} {store : AuthState} (single : Single browser)
    (shown : browser.pages.get request.page = some page)
    (isPages :
      next.pages =
        browser.pages.put request.page
          (page.settle browser.requests.next request.fetch reply).1)
    (isWritten : written request.fetch reply = some store)
    (isWanted : wanted store) (cookie : fits next.auth next.cookie) :
    Heeds next.requests.next wanted fits next := by
  refine ⟨?_, cookie, ?_⟩
  · intro id current found
    rw [isPages] at found
    rcases Registry.cases_of_get_put found with ⟨rfl, rfl⟩ | ⟨notMe, stored⟩
    · have isStore : (written request.fetch reply).getD page.store = store := by
        rw [isWritten, Option.getD_some]
      rw [store_of_settle, isStore]
      · exact isWanted
      · rw [isStore]
        exact known_of_written isWritten
    · exact absurd ((single _ _ stored).trans (single _ _ shown).symm) notMe
  · intro id request found isLater
    exact absurd (Registry.lt_next_of_get found) (Nat.not_lt.mpr isLater)

theorem owns_of_loginReply {auth : Auth.State} {request : Request}
    {reply : Reply} {cookie : Option String} {setCookie : Option (Option String)}
    {credentials : Auth.Credentials} {session : Session}
    (honest :
      Honest deps auth { request with phase := .answered reply setCookie })
    (isLogin : request.fetch = .login credentials)
    (isWritten : written request.fetch reply = some (.ofSession session)) :
    ∀ token ∈ Browser.applyCookie cookie setCookie,
      Auth.Owns deps auth session.user.id token := by
  obtain ⟨_, fetch, _, _⟩ := request
  cases isLogin
  match reply with
  | .ok (.session same) =>
      obtain ⟨new, isSet, owns⟩ := honest
      have sameUser : same.user = session.user :=
        Option.some.inj (congrArg AuthState.user (Option.some.inj isWritten))
      rw [isSet, ← sameUser]
      rintro token ⟨⟩
      exact owns
  | .ok .other | .error _ => cases isWritten

/-- A user has registered. -/
def registeredLabels : List Auth.Label :=
  [.register Auth.ann "bcrypt:correct horse" 1]

-- A page of a browser without a cookie, after a run and after one more step.
private def reaches (before : List Label) (label : Label) (id : Nat)
    (check : Browser → Request → Browser → Bool) : Bool :=
  (run (Auth.step Auth.sampleDeps) Auth.State.empty registeredLabels).any
    fun auth =>
      (run (step Auth.sampleDeps) (Browser.start auth none)
          (.opened :: before)).any fun browser =>
        (browser.requests.get id).any fun request =>
          (step Auth.sampleDeps browser label).any fun settled =>
            check browser request settled

private theorem exists_of_reaches {before : List Label} {label : Label}
    {id : Nat} {check : Browser → Request → Browser → Bool}
    (ends : reaches before label id check = true) :
    ∃ auth browser request settled,
      run (Auth.step Auth.sampleDeps) Auth.State.empty registeredLabels =
          some auth ∧
        run (step Auth.sampleDeps) (Browser.start auth none)
          (.opened :: before) = some browser ∧
        browser.requests.get id = some request ∧
        step Auth.sampleDeps browser label = some settled ∧
        check browser request settled = true := by
  obtain ⟨auth, reached, someBrowser⟩ := (Option.any_eq_true _ _).mp ends
  obtain ⟨browser, ran, someRequest⟩ := (Option.any_eq_true _ _).mp someBrowser
  obtain ⟨request, pending, someSettled⟩ :=
    (Option.any_eq_true _ _).mp someRequest
  obtain ⟨settled, stepped, checked⟩ := (Option.any_eq_true _ _).mp someSettled
  exact ⟨auth, browser, request, settled, reached, ran, pending, stepped,
    checked⟩

/-- The first refresh finds no cookie, and the user logs in. -/
def enterLabels : List Label :=
  [.serveRefresh 0, .arrive 0, .login 0 Auth.ann,
    .serveLogin 1 10 "one" 0 .done, .arrive 1]

-- The user logs in while the first refresh is on its way, and that refresh
-- fails later.  A call of `api` finds the access token expired and renews it.
private def patientLabels : List Label :=
  [.disconnect 0, .api 0 ⟨"GET", "/api/orders", none, []⟩,
      .serveApi 2 (.error ⟨401, "unauthenticated", "invalid token"⟩),
      .arrive 2] ++
    exchangeLabels 3 0 11 "two" ++ [.serveApi 4 (.ok .other), .arrive 4]

/-- The login or logout that is called last. -/
def lastCall (labels : List Label) : Option Label :=
  (labels.filter Label.calls).getLast?

/-- In a page of a browser without a cookie, the run ends without a request
on its way, and in the end the page is like this. -/
def Leads (labels : List Label) (like : Page → Prop) : Prop :=
  ∃ (auth : Auth.State) (final : Browser) (page : Page),
    run (Auth.step Auth.sampleDeps) Auth.State.empty registeredLabels =
        some auth ∧
      run (step Auth.sampleDeps) (Browser.start auth none)
        (.opened :: labels) = some final ∧
      (∀ id, final.requests.get id = none) ∧
      final.pages.get 0 = some page ∧ like page

theorem leads_of_check {labels : List Label} {like : Page → Prop}
    [DecidablePred like]
    (ends :
      ((run (Auth.step Auth.sampleDeps) Auth.State.empty
          registeredLabels).any fun auth =>
        (run (step Auth.sampleDeps) (Browser.start auth none)
          (.opened :: labels)).any fun final =>
            decide (final.requests.any (fun _ => true) = false) &&
              (final.pages.get 0).any fun page => decide (like page)) =
        true) : Leads labels like := by
  obtain ⟨auth, reached, someFinal⟩ := (Option.any_eq_true _ _).mp ends
  obtain ⟨final, ran, ended⟩ := (Option.any_eq_true _ _).mp someFinal
  obtain ⟨quiet, somePage⟩ := Bool.and_eq_true_iff.mp ended
  obtain ⟨page, shown, isLike⟩ := (Option.any_eq_true _ _).mp somePage
  refine ⟨auth, final, page, reached, ran, ?_, shown, of_decide_eq_true isLike⟩
  intro id
  have noneLeft := Bool.eq_false_iff.mp (of_decide_eq_true quiet)
  cases found : final.requests.get id with
  | none => rfl
  | some request => cases Registry.test_of_not_any noneLeft found

-- The answer to the logout overtakes that to a refresh.
private def overtakenLabels : List Label :=
  enterLabels ++ [.refresh 0, .logout 0, .serveRefresh 2] ++
    (Auth.rotateLabels 0 11 "two").map Label.auth ++
    [.auth (.commit 0 .done), .answer 2, .serveLogout 3 .done, .arrive 3,
      .arrive 2]

-- The logout does not get through and a refresh does.
private def unheardLabels : List Label :=
  enterLabels ++ [.logout 0, .disconnect 2, .refresh 0] ++
    exchangeLabels 3 0 11 "two"

-- The refresh token has expired.
private def expiredLabels : List Label :=
  enterLabels ++
    [.refresh 0, .serveRefresh 2,
      .auth (.select 0 (Auth.refreshTokenTTL + 1)), .answer 2, .arrive 2]

end TicketWave.Web
