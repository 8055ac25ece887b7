import TicketWave.Web.SingleFlight

/-!
# Reactions of a page as runs of its client

Whatever a page does its client can do, with the same requests in the same
order.
-/

namespace TicketWave.Web.SingleFlight

open Library

def Event.wire : Event → Option Wire
  | .refreshSent _ => some refreshWire
  | .attemptSent _ wire => some wire
  | _ => none

/-- The requests that were sent, newest first. -/
def wires (history : List Event) : List Wire :=
  history.filterMap Event.wire

/-- The request of a fetch that `refreshSession` or `api` makes. -/
def wireOf : Fetch → Option Wire
  | .refresh => some refreshWire
  | .api request token _ => some (attempt request token)
  | .login _ | .logout => none

/-- The client has sent these fetches, in this order. -/
def Sends (before after : Client) (fetches : List Fetch) : Prop :=
  wires after.history =
    (fetches.filterMap wireOf).reverse ++ wires before.history

def ofReply : Reply → Result
  | .ok payload => .ok payload
  | .error err => .error (.api err)

/-- These calls await the promise and have these requests. -/
def Await (client : Client) (flight : Nat) :
    List Nat → List ApiRequest → Prop :=
  List.Forall₂ fun id request =>
    client.calls.get id = some ⟨request, .awaiting flight⟩

/-- The page is in the state of the client, and `waiters` are the calls that
wait for its refresh. -/
structure Mirrors
    (client : Client) (page : Page) (waiters : List Nat) : Prop where
  token : client.accessToken = page.store.accessToken
  inflight : client.inflight.isSome = page.inflight.isSome
  distinct : waiters.Nodup
  idle : client.inflight = none → waiters = [] ∧ page.waiting = []
  waiting :
    ∀ {flight}, client.inflight = some flight →
      Await client flight waiters page.waiting

variable {client : Client} {page : Page} {waiters : List Nat} {flight : Nat}
  {requests : List ApiRequest}

theorem forall₂_of_mem {Left Right : Type} {before after : Left → Right → Prop}
    {lefts : List Left} {rights : List Right}
    (related : List.Forall₂ before lefts rights)
    (keeps : ∀ left ∈ lefts, ∀ right, before left right → after left right) :
    List.Forall₂ after lefts rights := by
  induction related with
  | nil => exact .nil
  | cons head _ ih =>
      obtain ⟨keepsHead, keepsRest⟩ := List.forall_mem_cons.mp keeps
      exact .cons (keepsHead _ head) (ih keepsRest)

theorem exists_of_forall₂ {Left Right : Type} {related : Left → Right → Prop}
    {lefts : List Left} {rights : List Right} {left : Left}
    (aligned : List.Forall₂ related lefts rights) (member : left ∈ lefts) :
    ∃ right, related left right := by
  induction aligned with
  | nil => cases member
  | cons head _ ih =>
      rcases List.mem_cons.mp member with rfl | later
      · exact ⟨_, head⟩
      · exact ih later

theorem exists_of_eraseIdx {Left Right : Type} {related : Left → Right → Prop}
    {lefts : List Left} {rights : List Right} {right : Right} {place : Nat}
    (aligned : List.Forall₂ related lefts rights)
    (found : rights[place]? = some right) :
    ∃ left rest,
      lefts.Perm (left :: rest) ∧ related left right ∧
        List.Forall₂ related rest (rights.eraseIdx place) := by
  induction aligned generalizing place with
  | nil => cases found
  | @cons left _ lefts _ head tail ih =>
      cases place with
      | zero =>
          cases found
          exact ⟨left, lefts, .refl _, head, tail⟩
      | succ place =>
          obtain ⟨taken, rest, perm, isTaken, aligned⟩ := ih found
          exact ⟨taken, left :: rest,
            (perm.cons left).trans (.swap taken left rest), isTaken,
            .cons head aligned⟩

/-- The calls are as they were. -/
def Keeps (client next : Client) (ids : List Nat) : Prop :=
  ∀ id ∈ ids, next.calls.get id = client.calls.get id

variable {next : Client} {id : Nat} {call : Call}

theorem Await.of_keeps (await : Await client flight waiters requests)
    (keeps : Keeps client next waiters) : Await next flight waiters requests :=
  forall₂_of_mem await fun id member _ found => (keeps id member).trans found

theorem Await.append_singleton {request : ApiRequest}
    (await : Await client flight waiters requests)
    (found : client.calls.get id = some ⟨request, .awaiting flight⟩) :
    Await client flight (waiters ++ [id]) (requests ++ [request]) := by
  induction await with
  | nil => exact List.Forall₂.cons found List.Forall₂.nil
  | cons head _ ih => exact List.Forall₂.cons head ih

/-- What a resumed call sends. -/
def resent (client : Client) (result : Bool) (requests : List ApiRequest) :
    List Wire :=
  if result then
    requests.map fun request => attempt request client.accessToken
  else []

theorem wires_resume (result : Bool) :
    wires (client.resume id call result).history =
      resent client result [call.request] ++ wires client.history := by
  cases result <;> rfl

theorem reverse_resent_cons (request : ApiRequest) (result : Bool) :
    (resent client result (request :: requests)).reverse =
      (resent client result requests).reverse ++
        resent client result [request] := by
  cases result with
  | false => rfl
  | true => exact List.reverse_cons

theorem Client.resume_same (id : Nat) (call : Call) (result : Bool) :
    (client.resume id call result).accessToken = client.accessToken ∧
      (client.resume id call result).inflight = client.inflight ∧
      (client.resume id call result).flights = client.flights := by
  cases result <;> exact ⟨rfl, rfl, rfl⟩

theorem Client.resume_get_of_ne {other : Nat} {result : Bool}
    (different : other ≠ id) :
    (client.resume id call result).calls.get other =
      client.calls.get other := by
  cases result <;> exact Registry.get_put_of_ne different

/-- The attempts of these calls are on their way, the second one or the
first. -/
def Carried (client : Client) : List Nat → List (ApiRequest × Bool) → Prop :=
  List.Forall₂ fun id attempt =>
    client.calls.get id =
      some ⟨attempt.1, if attempt.2 then .second else .first⟩

theorem Carried.of_keeps {ids : List Nat} {attempts : List (ApiRequest × Bool)}
    (carried : Carried client ids attempts) (keeps : Keeps client next ids) :
    Carried next ids attempts :=
  forall₂_of_mem carried fun id member _ found => (keeps id member).trans found

theorem run_resumes {result : Bool}
    (settled : client.flights.get flight = some (.settled result))
    (distinct : waiters.Nodup) (await : Await client flight waiters requests) :
    ∃ next,
      run step client (waiters.map .resumes) = some next ∧
        next.accessToken = client.accessToken ∧
        next.inflight = client.inflight ∧
        wires next.history =
          (resent client result requests).reverse ++ wires client.history ∧
        (∀ id, id ∉ waiters → next.calls.get id = client.calls.get id) ∧
        (result = true →
          Carried next waiters (requests.map fun request => (request, true))) := by
  induction waiters generalizing client requests with
  | nil =>
      cases await
      refine ⟨client, rfl, rfl, rfl, ?_, fun _ _ => rfl, fun _ => .nil⟩
      cases result <;> rfl
  | cons id ids ih =>
      cases await with
      | @cons _ request _ rest found awaitRest =>
          obtain ⟨fresh, distinctRest⟩ := List.nodup_cons.mp distinct
          have stepped :
              step client (.resumes id) =
                some (client.resume id ⟨request, .awaiting flight⟩ result) := by
            simp only [step, found, settled]
          obtain ⟨sameToken, sameInflight, sameFlights⟩ :=
            @Client.resume_same client id ⟨request, .awaiting flight⟩ result
          have keeps :
              Keeps client
                (client.resume id ⟨request, .awaiting flight⟩ result) ids := by
            intro other member
            exact Client.resume_get_of_ne fun same => fresh (same ▸ member)
          obtain ⟨next, ran, token, inflight, sent, others, carried⟩ :=
            ih (sameFlights ▸ settled) distinctRest
              (Await.of_keeps awaitRest keeps)
          refine ⟨next, run_cons_eq_some_iff.mpr ⟨_, stepped, ran⟩,
            token.trans sameToken, inflight.trans sameInflight, ?_, ?_, ?_⟩
          · have sameResent :
                resent (client.resume id ⟨request, .awaiting flight⟩ result)
                    result rest =
                  resent client result rest := by
              unfold resent
              rw [sameToken]
            rw [sent, sameResent, wires_resume, reverse_resent_cons,
              List.append_assoc]
          · intro other absent
            obtain ⟨different, notLater⟩ :=
              not_or.mp fun found => absent (List.mem_cons.mpr found)
            rw [others other notLater, Client.resume_get_of_ne different]
          · rintro rfl
            refine .cons ?_ (carried rfl)
            rw [others id fresh]
            exact Registry.get_put_self found

theorem Client.inflight_refreshSession :
    client.refreshSession.2.inflight = some client.refreshSession.1 := by
  unfold Client.refreshSession
  split
  · next flight isInflight =>
    exact isInflight
  · rfl

theorem Page.waiting_refreshSession (number : Nat) :
    (page.refreshSession number).1.waiting = page.waiting := by
  unfold Page.refreshSession
  split <;> rfl

theorem Mirrors.refreshSession
    (mirrors : Mirrors client page waiters) (number : Nat) :
    Mirrors client.refreshSession.2 (page.refreshSession number).1 waiters ∧
      Sends client client.refreshSession.2
        (page.refreshSession number).2 := by
  have same := mirrors.inflight
  cases isInflight : client.inflight with
  | some flight =>
      rw [isInflight] at same
      obtain ⟨number', isPage⟩ := Option.isSome_iff_exists.mp same.symm
      rw [Client.refreshSession_of_some isInflight, Page.refreshSession, isPage]
      exact ⟨mirrors, rfl⟩
  | none =>
      obtain ⟨nobody, noRequest⟩ := mirrors.idle isInflight
      have isPage : page.inflight = none := by
        rw [isInflight] at same
        exact
          Option.isNone_iff_eq_none.mp (Option.isSome_eq_false_iff.mp same.symm)
      rw [Client.refreshSession_of_none isInflight, Page.refreshSession, isPage]
      refine ⟨⟨mirrors.token, rfl, mirrors.distinct,
        fun isIdle => absurd isIdle (Option.some_ne_none _), ?_⟩, rfl⟩
      intro flight _
      dsimp only
      rw [nobody, noRequest]
      exact List.Forall₂.nil

theorem Mirrors.awaiting (mirrors : Mirrors client page waiters)
    (member : id ∈ waiters) :
    ∃ request flight,
      client.calls.get id = some ⟨request, .awaiting flight⟩ := by
  cases isInflight : client.inflight with
  | none =>
      rw [(mirrors.idle isInflight).1] at member
      cases member
  | some flight =>
      obtain ⟨request, found⟩ :=
        exists_of_forall₂ (mirrors.waiting isInflight) member
      exact ⟨request, flight, found⟩

theorem Mirrors.not_mem (mirrors : Mirrors client page waiters)
    (found : client.calls.get id = some call)
    (awake : ∀ flight, call.stage ≠ .awaiting flight) : id ∉ waiters := by
  intro member
  obtain ⟨request, flight, isWaiting⟩ := mirrors.awaiting member
  rw [found] at isWaiting
  cases isWaiting
  exact awake flight rfl

theorem Mirrors.putStage {id : Nat} {call : Call} {stage : Stage}
    (mirrors : Mirrors client page waiters) (fresh : id ∉ waiters) :
    Mirrors (client.putStage id call stage) page waiters where
  token := mirrors.token
  inflight := mirrors.inflight
  distinct := mirrors.distinct
  idle := mirrors.idle
  waiting := by
    intro flight isInflight
    apply (mirrors.waiting isInflight).of_keeps
    intro other member
    exact Registry.get_put_of_ne fun same => fresh (same ▸ member)

theorem Mirrors.note (mirrors : Mirrors client page waiters) (event : Event) :
    Mirrors (client.note event) page waiters :=
  ⟨mirrors.token, mirrors.inflight, mirrors.distinct, mirrors.idle,
    mirrors.waiting⟩

theorem Mirrors.join (mirrors : Mirrors client page waiters)
    (isInflight : client.inflight = some flight)
    (found : client.calls.get id = some call) (fresh : id ∉ waiters) :
    Mirrors (client.putStage id call (.awaiting flight))
      { page with waiting := page.waiting ++ [call.request] }
      (waiters ++ [id]) where
  token := mirrors.token
  inflight := mirrors.inflight
  distinct := by
    refine List.nodup_append.mpr ⟨mirrors.distinct, List.nodup_singleton id, ?_⟩
    intro left member right isRight same
    rw [List.mem_singleton.mp isRight] at same
    exact fresh (same ▸ member)
  idle := by
    intro isIdle
    cases isInflight.symm.trans isIdle
  waiting := by
    intro other isOther
    cases isInflight.symm.trans isOther
    have still :=
      (@Mirrors.putStage _ _ _ _ call (.awaiting flight) mirrors fresh).waiting
        isInflight
    exact still.append_singleton (Registry.get_put_self found)

theorem mirrors_failFirst {id number : Nat} {request : ApiRequest}
    {err : ApiError} (mirrors : Mirrors client page waiters)
    (found : client.calls.get id = some ⟨request, .first⟩)
    (unauthorized : err.status = 401) :
    Mirrors (client.failFirst id ⟨request, .first⟩ (.api err))
        (page.settleApi number request false (.error err)).1
        (waiters ++ [id]) ∧
      Sends client (client.failFirst id ⟨request, .first⟩ (.api err))
        (page.settleApi number request false (.error err)).2 := by
  have isUnauthorized : (Failure.api err).unauthorized = true :=
    decide_eq_true unauthorized
  obtain ⟨started, sends⟩ :=
    (mirrors.note (.attemptFailed id (.api err))).refreshSession number
  have fresh : id ∉ waiters :=
    mirrors.not_mem found fun flight same => by cases same
  rw [Client.failFirst, if_pos isUnauthorized, Page.settleApi,
    if_pos unauthorized]
  have isInflight :=
    @Client.inflight_refreshSession (client.note (.attemptFailed id (.api err)))
  have still :
      (client.note (.attemptFailed id (.api err))).refreshSession.2.calls.get
        id = some ⟨request, .first⟩ := by
    rw [Client.calls_refreshSession]
    exact found
  have joined :=
    (started.note
      (.awaited id
        (client.note (.attemptFailed id (.api err))).refreshSession.1)).join
      isInflight still fresh
  rw [Page.waiting_refreshSession] at joined
  exact ⟨joined, sends⟩

theorem Client.failFirst_get_of_ne {other : Nat} {failure : Failure}
    (different : other ≠ id) :
    (client.failFirst id call failure).calls.get other =
      client.calls.get other := by
  unfold Client.failFirst
  dsimp only
  split
  · refine (Registry.get_put_of_ne different).trans ?_
    exact congrArg (Registry.get · other) Client.calls_refreshSession
  · exact Registry.get_put_of_ne different

theorem mirrors_settleApi {id number : Nat} {request : ApiRequest}
    {again : Bool} (mirrors : Mirrors client page waiters)
    (found :
      client.calls.get id = some ⟨request, if again then .second else .first⟩)
    (reply : Reply) :
    ∃ next later,
      step client (.attemptSettles id (ofReply reply)) = some next ∧
        Mirrors next (page.settleApi number request again reply).1 later ∧
        Sends client next (page.settleApi number request again reply).2 ∧
        ∀ other, other ≠ id →
          next.calls.get other = client.calls.get other := by
  have fresh : id ∉ waiters := by
    refine mirrors.not_mem found fun flight same => ?_
    cases again <;> cases same
  have ends (call : Call) :
      ∀ other, other ≠ id →
        (client.putStage id call .done).calls.get other =
          client.calls.get other :=
    fun other different => Registry.get_put_of_ne different
  cases again with
  | true =>
      refine ⟨client.putStage id ⟨request, .second⟩ .done, waiters, ?_, ?_⟩
      · simp only [step, found, if_true]
      · cases reply <;> exact ⟨mirrors.putStage fresh, rfl, ends _⟩
  | false =>
      cases reply with
      | ok payload =>
          refine ⟨client.putStage id ⟨request, .first⟩ .done, waiters, ?_,
            mirrors.putStage fresh, rfl, ends _⟩
          simp [step, found, ofReply]
      | error err =>
          have stepped :
              step client (.attemptSettles id (ofReply (.error err))) =
                some (client.failFirst id ⟨request, .first⟩ (.api err)) := by
            simp [step, found, ofReply]
          by_cases unauthorized : err.status = 401
          · obtain ⟨joined, sends⟩ :=
              @mirrors_failFirst _ _ _ _ number _ _ mirrors found unauthorized
            exact ⟨_, _, stepped, joined, sends,
              fun _ => Client.failFirst_get_of_ne⟩
          · have isOther : ¬ (Failure.api err).unauthorized = true := by
              simp [Failure.unauthorized, unauthorized]
            refine ⟨_, waiters, stepped, ?_⟩
            rw [Client.failFirst, if_neg isOther, Page.settleApi,
              if_neg unauthorized]
            exact ⟨(mirrors.note _).putStage fresh, rfl, ends _⟩

theorem filterMap_wireOf_again (token : Option String) :
    (requests.map fun request => Fetch.api request token true).filterMap
        wireOf =
      requests.map fun request => attempt request token := by
  rw [List.filterMap_map]
  exact congrFun List.filterMap_eq_map requests

/-- The reply to the refresh: its body ends, the effect of `App` looks at the
store, and the waiting calls are resumed. -/
theorem mirrors_settleRefresh
    (sound : Sound client) (mirrors : Mirrors client page waiters)
    (isInflight : client.inflight = some flight) (reply : Reply) :
    ∃ next,
      run step client
          (.refreshSettles flight (ofReply reply) ::
            .setsToken (page.settleRefresh reply).1.store.accessToken ::
            waiters.map .resumes) = some next ∧
        Mirrors next (page.settleRefresh reply).1 [] ∧
        Sends client next (page.settleRefresh reply).2 ∧
        (∀ id, id ∉ waiters → next.calls.get id = client.calls.get id) ∧
        (Client.succeeded (ofReply reply) = true →
          Carried next waiters
            (page.waiting.map fun request => (request, true))) := by
  have isSending := sound.alone.mpr isInflight
  have await := mirrors.waiting isInflight
  have settles :
      step client (.refreshSettles flight (ofReply reply)) =
        some (client.settleRefresh flight (ofReply reply)) := by
    simp only [step, isSending]
  let store := (page.settleRefresh reply).1.store
  have settled :
      (client.settleRefresh flight (ofReply reply)).flights.get flight =
        some (.settled (Client.succeeded (ofReply reply))) :=
    Registry.get_put_self isSending
  obtain ⟨next, ran, token, inflight, sent, others, carried⟩ :=
    @run_resumes
      { client.settleRefresh flight (ofReply reply) with
        accessToken := store.accessToken }
      _ _ _ _ settled mirrors.distinct await
  refine ⟨next,
    run_cons_eq_some_iff.mpr
      ⟨_, settles, run_cons_eq_some_iff.mpr ⟨_, rfl, ran⟩⟩, ?_, ?_, others,
    carried⟩
  · refine ⟨token, ?_, List.nodup_nil, fun _ => ⟨rfl, rfl⟩, ?_⟩
    · rw [inflight]
      rfl
    · intro other isOther
      rw [inflight] at isOther
      cases isOther
  · unfold Sends
    rw [sent]
    cases reply with
    | error err => rfl
    | ok payload =>
        cases payload with
        | other => rfl
        | session session =>
            rw [Page.settleRefresh, filterMap_wireOf_again]
            rfl

def attemptOf : Fetch → Option (ApiRequest × Bool)
  | .api request _ again => some (request, again)
  | .refresh | .login _ | .logout => none

/-- A page by itself, with the attempts that are on their way and all that it
has sent. -/
structure Tab where
  page : Page
  attempts : List (ApiRequest × Bool)
  sent : List Fetch

def Tab.react (tab : Tab) (reaction : Page × List Fetch) : Tab where
  page := reaction.1
  attempts := tab.attempts ++ reaction.2.filterMap attemptOf
  sent := tab.sent ++ reaction.2

/-- The page has been loaded, and the effect of `App` has run. -/
def Tab.loaded : Tab :=
  Tab.react ⟨(Page.loaded 0).1, [], []⟩ (Page.loaded 0)

inductive Deed where
  | api (request : ApiRequest)
  | refreshSession
  /-- the attempt in this place is answered -/
  | attemptEnds (place : Nat) (reply : Reply)
  | refreshEnds (reply : Reply)
  | loginEnds (reply : Reply)
  | logoutEnds

def Tab.act (tab : Tab) : Deed → Option Tab
  | .api request => some (tab.react (tab.page, tab.page.api request))
  | .refreshSession =>
      some (tab.react (tab.page.refreshSession tab.sent.length))
  | .attemptEnds place reply =>
      match tab.attempts[place]? with
      | some (request, again) =>
          some
            (Tab.react
              { tab with attempts := tab.attempts.eraseIdx place }
              (tab.page.settleApi tab.sent.length request again reply))
      | none => none
  | .refreshEnds reply =>
      if tab.page.inflight.isSome then
        some (tab.react (tab.page.settleRefresh reply))
      else
        none
  | .loginEnds reply => some { tab with page := tab.page.settleLogin reply }
  | .logoutEnds => some { tab with page := tab.page.settleLogout }

/-- The client is where the page is, and has sent what the page has. -/
structure Follows (client : Client) (tab : Tab) (waiters ids : List Nat) :
    Prop where
  sound : Sound client
  mirrors : Mirrors client tab.page waiters
  distinct : ids.Nodup
  carried : Carried client ids tab.attempts
  sent : wires client.history = (tab.sent.filterMap wireOf).reverse

variable {tab : Tab} {ids : List Nat}

theorem sent_of_sends {sent fetches : List Fetch}
    (before : wires client.history = (sent.filterMap wireOf).reverse)
    (sends : Sends client next fetches) :
    wires next.history = ((sent ++ fetches).filterMap wireOf).reverse := by
  rw [sends, before, List.filterMap_append, List.reverse_append]

theorem sound_of_labels {labels : List Label} (sound : Sound client)
    (ran : run step client labels = some next) : Sound next :=
  invariant_of_run sound_of_step sound ran

theorem run_singleton {label : Label} {next : Client}
    (stepped : step client label = some next) :
    run step client [label] = some next :=
  run_cons_eq_some_iff.mpr ⟨next, stepped, rfl⟩

theorem attempts_refreshSession (number : Nat) :
    (page.refreshSession number).2.filterMap attemptOf = [] := by
  unfold Page.refreshSession
  split <;> rfl

theorem attempts_settleApi
    (number : Nat) (request : ApiRequest) (again : Bool) (reply : Reply) :
    (page.settleApi number request again reply).2.filterMap attemptOf = [] := by
  unfold Page.settleApi
  split
  · split
    · exact attempts_refreshSession number
    · rfl
  · rfl

theorem Follows.not_mem (follows : Follows client tab waiters ids)
    (member : id ∈ ids) : id ∉ waiters := by
  obtain ⟨⟨request, again⟩, found⟩ := exists_of_forall₂ follows.carried member
  refine follows.mirrors.not_mem found fun flight same => ?_
  cases again <;> cases same

theorem follows_api (follows : Follows client tab waiters ids)
    (request : ApiRequest) :
    ∃ next,
      run step client [.api request] = some next ∧
        Follows next (tab.react (tab.page, tab.page.api request)) waiters
          (ids ++ [client.calls.next]) := by
  have mirrors := follows.mirrors
  have launches {id : Nat} {call : Call}
      (found : client.calls.get id = some call) :
      (client.calls.launch ⟨request, .first⟩).get id = client.calls.get id :=
    (Registry.get_launch_of_get found).trans found.symm
  have stepped := @run_singleton client (.api request) _ rfl
  refine ⟨_, stepped, sound_of_labels follows.sound stepped,
    ⟨mirrors.token, mirrors.inflight, mirrors.distinct, mirrors.idle, ?_⟩,
    ?_, ?_, ?_⟩
  · intro flight isInflight
    apply (mirrors.waiting isInflight).of_keeps
    intro id member
    obtain ⟨_, _, found⟩ := mirrors.awaiting member
    exact launches found
  · refine List.nodup_append.mpr ⟨follows.distinct, List.nodup_singleton _, ?_⟩
    intro id member new isNew same
    obtain ⟨_, found⟩ := exists_of_forall₂ follows.carried member
    have below := Registry.lt_next_of_get found
    rw [List.mem_singleton.mp isNew] at same
    omega
  · refine List.rel_append ?_ (.cons ?_ .nil)
    · apply follows.carried.of_keeps
      intro id member
      obtain ⟨_, found⟩ := exists_of_forall₂ follows.carried member
      exact launches found
    · exact Registry.get_launch_self _ _
  · refine sent_of_sends follows.sent ?_
    unfold Sends
    rw [Page.api, ← mirrors.token]
    rfl

theorem follows_refreshSession (follows : Follows client tab waiters ids) :
    ∃ next,
      run step client [.refreshSession] = some next ∧
        Follows next
          (tab.react (tab.page.refreshSession tab.sent.length)) waiters
          ids := by
  obtain ⟨started, sends⟩ := follows.mirrors.refreshSession tab.sent.length
  have stepped := @run_singleton client .refreshSession _ rfl
  refine ⟨_, stepped, sound_of_labels follows.sound stepped,
    ⟨started.token, started.inflight, started.distinct, started.idle,
      started.waiting⟩,
    follows.distinct, ?_, sent_of_sends follows.sent sends⟩
  dsimp only [Tab.react]
  rw [attempts_refreshSession, List.append_nil]
  apply follows.carried.of_keeps
  intro id _
  exact congrArg (Registry.get · id) Client.calls_refreshSession

theorem follows_settleApi {place : Nat} {request : ApiRequest} {again : Bool}
    (follows : Follows client tab waiters ids)
    (found : tab.attempts[place]? = some (request, again)) (reply : Reply) :
    ∃ labels next later rest,
      run step client labels = some next ∧
        Follows next
          (Tab.react { tab with attempts := tab.attempts.eraseIdx place }
            (tab.page.settleApi tab.sent.length request again reply))
          later rest := by
  obtain ⟨id, rest, perm, isCall, aligned⟩ :=
    exists_of_eraseIdx follows.carried found
  obtain ⟨fresh, distinct⟩ :=
    List.nodup_cons.mp (perm.nodup_iff.mp follows.distinct)
  obtain ⟨next, later, stepped, mirrors, sends, others⟩ :=
    @mirrors_settleApi _ _ _ id tab.sent.length request again follows.mirrors
      isCall reply
  have ran := run_singleton stepped
  refine ⟨_, next, later, rest, ran, sound_of_labels follows.sound ran, mirrors,
    distinct, ?_, sent_of_sends follows.sent sends⟩
  dsimp only [Tab.react]
  rw [attempts_settleApi, List.append_nil]
  apply Carried.of_keeps aligned
  intro other member
  exact others other fun same => fresh (same ▸ member)

theorem follows_settleRefresh (follows : Follows client tab waiters ids)
    (isInflight : tab.page.inflight.isSome = true) (reply : Reply) :
    ∃ labels next rest,
      run step client labels = some next ∧
        Follows next (tab.react (tab.page.settleRefresh reply)) [] rest := by
  obtain ⟨flight, isFlight⟩ :=
    Option.isSome_iff_exists.mp (follows.mirrors.inflight.trans isInflight)
  obtain ⟨next, ran, mirrors, sends, others, carried⟩ :=
    mirrors_settleRefresh follows.sound follows.mirrors isFlight reply
  have still : Carried next ids tab.attempts := by
    apply follows.carried.of_keeps
    intro id member
    exact others id (follows.not_mem member)
  have sound := sound_of_labels follows.sound ran
  have sent := sent_of_sends follows.sent sends
  have unsuccessful
      (nothing : (tab.page.settleRefresh reply).2 = []) :
      Follows next (tab.react (tab.page.settleRefresh reply)) [] ids := by
    refine ⟨sound, mirrors, follows.distinct, ?_, sent⟩
    dsimp only [Tab.react]
    rw [nothing]
    exact (List.append_nil tab.attempts).symm ▸ still
  match reply with
  | .error err => exact ⟨_, next, ids, ran, unsuccessful rfl⟩
  | .ok .other => exact ⟨_, next, ids, ran, unsuccessful rfl⟩
  | .ok (.session session) =>
      refine ⟨_, next, ids ++ waiters, ran, sound, mirrors, ?_, ?_, sent⟩
      · refine List.nodup_append.mpr
          ⟨follows.distinct, follows.mirrors.distinct, ?_⟩
        rintro id member other isWaiter rfl
        exact follows.not_mem member isWaiter
      · have isResent :
            (tab.page.settleRefresh (.ok (.session session))).2.filterMap
                attemptOf =
              tab.page.waiting.map fun request => (request, true) := by
          rw [Page.settleRefresh, List.filterMap_map]
          exact congrFun List.filterMap_eq_map _
        dsimp only [Tab.react]
        rw [isResent]
        exact List.rel_append still (carried rfl)

theorem follows_store (follows : Follows client tab waiters ids)
    (store : AuthState) :
    ∃ next,
      run step client [.setsToken store.accessToken] = some next ∧
        Follows next { tab with page := { tab.page with store := store } }
          waiters ids := by
  have stepped := @run_singleton client (.setsToken store.accessToken) _ rfl
  have mirrors := follows.mirrors
  exact ⟨_, stepped, sound_of_labels follows.sound stepped,
    ⟨rfl, mirrors.inflight, mirrors.distinct, mirrors.idle, mirrors.waiting⟩,
    follows.distinct, follows.carried, follows.sent⟩

theorem follows_of_act {next : Tab} {deed : Deed}
    (follows : Follows client tab waiters ids)
    (acted : tab.act deed = some next) :
    ∃ labels final later rest,
      run step client labels = some final ∧ Follows final next later rest := by
  cases deed with
  | api request =>
      cases acted
      obtain ⟨final, ran, still⟩ := follows_api follows request
      exact ⟨_, final, _, _, ran, still⟩
  | refreshSession =>
      cases acted
      obtain ⟨final, ran, still⟩ := follows_refreshSession follows
      exact ⟨_, final, _, _, ran, still⟩
  | attemptEnds place reply =>
      simp only [Tab.act] at acted
      split at acted
      · rename_i request again found
        cases acted
        exact follows_settleApi follows found reply
      · cases acted
  | refreshEnds reply =>
      simp only [Tab.act] at acted
      split at acted
      · rename_i isInflight
        cases acted
        obtain ⟨labels, final, rest, ran, still⟩ :=
          follows_settleRefresh follows isInflight reply
        exact ⟨labels, final, [], rest, ran, still⟩
      · cases acted
  | loginEnds reply =>
      cases acted
      have isStore :
          ∃ store, tab.page.settleLogin reply =
            { tab.page with store := store } := by
        unfold Page.settleLogin
        split <;> exact ⟨_, rfl⟩
      obtain ⟨store, isPage⟩ := isStore
      obtain ⟨final, ran, still⟩ := follows_store follows store
      exact ⟨_, final, _, _, ran, isPage ▸ still⟩
  | logoutEnds =>
      cases acted
      obtain ⟨final, ran, still⟩ := follows_store follows AuthState.cleared
      exact ⟨_, final, _, _, ran, still⟩

/-- Whatever a page does from its start, its client can do, with the same
token and the same requests in the same order. -/
theorem client_of_tab {deeds : List Deed}
    (ran : run Tab.act Tab.loaded deeds = some tab) :
    ∃ labels client,
      run step (Client.loaded none) labels = some client ∧
        client.accessToken = tab.page.store.accessToken ∧
        client.inflight.isSome = tab.page.inflight.isSome ∧
        wires client.history = (tab.sent.filterMap wireOf).reverse := by
  have before :
      Follows (Client.loaded none)
        ⟨⟨AuthState.initial, none, [], true⟩, [], []⟩ [] [] :=
    ⟨sound_loaded none,
      ⟨rfl, rfl, List.nodup_nil, fun _ => ⟨rfl, rfl⟩, nofun⟩,
      List.nodup_nil, .nil, rfl⟩
  obtain ⟨started, starts, initially⟩ := follows_refreshSession before
  have simulates {client : Client} {tab next : Tab} {deed : Deed} :
      (∃ waiters ids, Follows client tab waiters ids) →
        tab.act deed = some next →
        ∃ labels final, run step client labels = some final ∧
          ∃ waiters ids, Follows final next waiters ids := by
    rintro ⟨_, _, follows⟩ acted
    obtain ⟨labels, final, later, rest, ran, still⟩ :=
      follows_of_act follows acted
    exact ⟨labels, final, ran, later, rest, still⟩
  obtain ⟨labels, client, runs, _, _, follows⟩ :=
    exists_run_of_simulation simulates ⟨[], [], initially⟩ ran
  refine ⟨.refreshSession :: labels, client, ?_, follows.mirrors.token,
    follows.mirrors.inflight, follows.sent⟩
  rw [← List.singleton_append, run_append, starts]
  exact runs

end TicketWave.Web.SingleFlight
