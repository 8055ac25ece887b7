import TicketWave.Web.Promises

/-! # One refresh at a time -/

namespace TicketWave.Web.SingleFlight

open Library

def Event.attemptOf (id : Nat) : Event → Option Wire
  | .attemptSent call wire => if call = id then some wire else none
  | _ => none

/-- The requests that a call has sent, newest first. -/
def attempts (id : Nat) (history : List Event) : List Wire :=
  history.filterMap (Event.attemptOf id)

variable {client next : Client} {id : Nat} {call : Call} {stage : Stage}
  {history earlier : List Event} {event : Event} {wire : Wire}

theorem attempts_cons_of_none (quiet : event.attemptOf id = none) :
    attempts id (event :: history) = attempts id history :=
  List.filterMap_cons_none quiet

theorem attempts_sent_self :
    attempts id (.attemptSent id wire :: history) =
      wire :: attempts id history :=
  List.filterMap_cons_some (if_pos rfl)

theorem attempts_sent_of_ne {other : Nat} (different : other ≠ id) :
    attempts id (.attemptSent other wire :: history) = attempts id history :=
  attempts_cons_of_none (if_neg different)

/-- The call has sent its request once. -/
def SentOnce (history : List Event) (id : Nat) (request : ApiRequest) : Prop :=
  ∃ token, attempts id history = [attempt request token]

/-- The first attempt of the call was refused, and the call then awaited this
refresh. -/
structure Refused
    (history : List Event) (id flight : Nat) (failure : Failure) : Prop where
  unauthorized : failure.unauthorized = true
  failed : .attemptFailed id failure ∈ history
  awaited : .awaited id flight ∈ history

/-- What a call has done so far, by its stage. -/
def Tells (history : List Event) (id : Nat) (call : Call) : Prop :=
  match call.stage with
  | .first => SentOnce history id call.request
  | .awaiting flight =>
      SentOnce history id call.request ∧
        ∃ failure, Refused history id flight failure
  | .second => True
  | .done => True

/-- What holds when a call sends a request, of the history until then. -/
def Warranted (history : List Event) (id : Nat) (wire : Wire) : Prop :=
  attempts id history = [] ∨
    ∃ request first second flight failure,
      attempts id history = [attempt request first] ∧
        wire = attempt request second ∧
        Refused history id flight failure ∧
        .refreshSettled flight true ∈ history

theorem Tells.grow (tells : Tells history id call)
    (same : attempts id (event :: history) = attempts id history) :
    Tells (event :: history) id call := by
  obtain ⟨request, stage⟩ := call
  cases stage with
  | first =>
      obtain ⟨token, sent⟩ := tells
      exact ⟨token, same.trans sent⟩
  | awaiting flight =>
      obtain ⟨⟨token, sent⟩, failure, refused⟩ := tells
      exact ⟨⟨token, same.trans sent⟩, failure, refused.unauthorized,
        List.mem_cons_of_mem event refused.failed,
        List.mem_cons_of_mem event refused.awaited⟩
  | second => trivial
  | done => trivial

structure Sound (client : Client) : Prop where
  alone :
    ∀ {id}, client.flights.get id = some .sending ↔ client.inflight = some id
  settled :
    ∀ {id result}, client.flights.get id = some (.settled result) →
      .refreshSettled id result ∈ client.history
  reported :
    ∀ {id caller result}, client.callers.get id = some caller →
      caller.result = some result →
      client.flights.get caller.flight = some (.settled result)
  tells :
    ∀ {id call}, client.calls.get id = some call → Tells client.history id call
  unsent : ∀ {id}, client.calls.next ≤ id → attempts id client.history = []
  warranted :
    ∀ {id wire earlier},
      .attemptSent id wire :: earlier <:+ client.history →
      Warranted earlier id wire

theorem sound_loaded (token : Option String) : Sound (Client.loaded token) where
  alone := by
    intro id
    constructor <;> intro found <;> cases found
  settled := nofun
  reported := nofun
  tells := nofun
  unsent := fun _ => rfl
  warranted := by
    intro id wire earlier isSuffix
    cases List.suffix_nil.mp isSuffix

theorem warranted_cons
    (older :
      ∀ {id wire earlier}, .attemptSent id wire :: earlier <:+ history →
        Warranted earlier id wire)
    (newest :
      ∀ {id wire}, event = .attemptSent id wire → Warranted history id wire) :
    ∀ {id wire earlier}, .attemptSent id wire :: earlier <:+ event :: history →
      Warranted earlier id wire := by
  intro id wire earlier isSuffix
  rcases List.suffix_cons_iff.mp isSuffix with same | isOlder
  · cases same
    exact newest rfl
  · exact older isOlder

/-- No request of a call is sent with this event. -/
def Event.Quiet (event : Event) : Prop :=
  ∀ id, event.attemptOf id = none

theorem Event.Quiet.ne_sent (quiet : event.Quiet) :
    event ≠ .attemptSent id wire := by
  rintro rfl
  have sent := quiet id
  rw [Event.attemptOf, if_pos rfl] at sent
  cases sent

theorem Sound.note (sound : Sound client) (quiet : event.Quiet) :
    Sound (client.note event) where
  alone := sound.alone
  settled := fun found => List.mem_cons_of_mem event (sound.settled found)
  reported := sound.reported
  tells := fun found =>
    (sound.tells found).grow (attempts_cons_of_none (quiet _))
  unsent := fun isNew =>
    (attempts_cons_of_none (quiet _)).trans (sound.unsent isNew)
  warranted :=
    warranted_cons sound.warranted fun same => absurd same quiet.ne_sent

theorem Sound.putStage
    (sound : Sound client) (found : client.calls.get id = some call)
    (tells : Tells client.history id { call with stage := stage }) :
    Sound (client.putStage id call stage) where
  alone := sound.alone
  settled := sound.settled
  reported := sound.reported
  tells := by
    intro other stored isStored
    rcases Registry.cases_of_get_put isStored with ⟨rfl, rfl⟩ | ⟨_, old⟩
    · exact tells
    · exact sound.tells old
  unsent := sound.unsent
  warranted := sound.warranted

variable {flight : Nat} {name : String}

theorem Client.refreshSession_of_some
    (isInflight : client.inflight = some flight) :
    client.refreshSession = (flight, client) := by
  rw [Client.refreshSession, isInflight]

theorem Client.refreshSession_of_none (isIdle : client.inflight = none) :
    client.refreshSession =
      (client.flights.next,
        { client with
          inflight := some client.flights.next
          flights := client.flights.launch .sending
          history :=
            .refreshSent client.flights.next :: client.history }) := by
  rw [Client.refreshSession, isIdle]

theorem Sound.refreshSession (sound : Sound client) :
    Sound client.refreshSession.2 := by
  cases isInflight : client.inflight with
  | some flight =>
      rw [Client.refreshSession_of_some isInflight]
      exact sound
  | none =>
      have quiet : (Event.refreshSent client.flights.next).Quiet := fun _ => rfl
      have noted := sound.note quiet
      rw [Client.refreshSession_of_none isInflight]
      exact {
        alone := by
          intro id
          constructor
          · intro found
            rcases Registry.cases_of_get_launch found with ⟨rfl, _⟩ | old
            · rfl
            · rw [sound.alone.mp old] at isInflight
              cases isInflight
          · intro same
            cases same
            exact Registry.get_launch_self _ _
        settled := by
          intro id result found
          rcases Registry.cases_of_get_launch found with ⟨_, isNew⟩ | old
          · cases isNew
          · exact noted.settled old
        reported := fun found result =>
          Registry.get_launch_of_get (sound.reported found result)
        tells := noted.tells
        unsent := noted.unsent
        warranted := noted.warranted }

theorem Sound.settleRefresh (sound : Sound client) (result : Result)
    (found : client.flights.get flight = some .sending) :
    Sound (client.settleRefresh flight result) := by
  have quiet :
      (Event.refreshSettled flight (Client.succeeded result)).Quiet :=
    fun _ => rfl
  have noted := sound.note quiet
  exact {
    alone := by
      intro id
      constructor
      · intro isSending
        rcases Registry.cases_of_get_put isSending with
          ⟨_, isNew⟩ | ⟨different, old⟩
        · cases isNew
        · have same := (sound.alone.mp old).symm.trans (sound.alone.mp found)
          exact absurd (Option.some.inj same) different
      · exact nofun
    settled := by
      intro id value isSettled
      rcases Registry.cases_of_get_put isSettled with ⟨rfl, isNew⟩ | ⟨_, old⟩
      · cases isNew
        exact List.mem_cons_self
      · exact noted.settled old
    reported := by
      intro id caller value isCaller isResult
      have old := sound.reported isCaller isResult
      have different : caller.flight ≠ flight := by
        intro same
        rw [same, found] at old
        cases old
      exact (Registry.get_put_of_ne different).trans old
    tells := noted.tells
    unsent := noted.unsent
    warranted := noted.warranted }

theorem Client.calls_refreshSession :
    client.refreshSession.2.calls = client.calls := by
  unfold Client.refreshSession
  split <;> rfl

theorem Client.mem_history_refreshSession (member : event ∈ client.history) :
    event ∈ client.refreshSession.2.history := by
  unfold Client.refreshSession
  split
  · exact member
  · exact List.mem_cons_of_mem _ member

theorem Sound.failFirst (sound : Sound client) {request : ApiRequest}
    (failure : Failure) (found : client.calls.get id = some ⟨request, .first⟩) :
    Sound (client.failFirst id ⟨request, .first⟩ failure) := by
  have noted : Sound (client.note (.attemptFailed id failure)) :=
    sound.note fun _ => rfl
  unfold Client.failFirst
  by_cases unauthorized : failure.unauthorized = true
  · rw [if_pos unauthorized]
    have refreshed := noted.refreshSession
    have awaited :
        Sound
          ((client.note (.attemptFailed id failure)).refreshSession.2.note
            (.awaited id
              (client.note (.attemptFailed id failure)).refreshSession.1)) :=
      refreshed.note fun _ => rfl
    have still :
        (client.note
          (.attemptFailed id failure)).refreshSession.2.calls.get id =
          some ⟨request, .first⟩ := by
      rw [Client.calls_refreshSession]
      exact found
    have failed :
        Event.attemptFailed id failure ∈
          (client.note (.attemptFailed id failure)).refreshSession.2.history :=
      Client.mem_history_refreshSession List.mem_cons_self
    exact awaited.putStage still
      ⟨awaited.tells still, failure, unauthorized,
        List.mem_cons_of_mem _ failed, List.mem_cons_self⟩
  · rw [if_neg unauthorized]
    exact noted.putStage found trivial

theorem Sound.resume {request : ApiRequest} {result : Bool}
    (sound : Sound client)
    (found : client.calls.get id = some ⟨request, .awaiting flight⟩)
    (settled : client.flights.get flight = some (.settled result)) :
    Sound (client.resume id ⟨request, .awaiting flight⟩ result) := by
  unfold Client.resume
  cases result with
  | false => exact sound.putStage found trivial
  | true =>
      obtain ⟨⟨token, sent⟩, failure, refused⟩ := sound.tells found
      have warrant :
          Warranted client.history id
            (attempt request client.accessToken) :=
        Or.inr
          ⟨request, token, client.accessToken, flight, failure, sent, rfl,
            refused, sound.settled settled⟩
      have below := Registry.lt_next_of_get found
      exact {
        alone := sound.alone
        settled := fun isSettled =>
          List.mem_cons_of_mem _ (sound.settled isSettled)
        reported := sound.reported
        tells := by
          intro other stored isStored
          rcases Registry.cases_of_get_put isStored with
            ⟨rfl, rfl⟩ | ⟨different, old⟩
          · trivial
          · exact (sound.tells old).grow (attempts_sent_of_ne different.symm)
        unsent := by
          intro other isNew
          have different : id ≠ other := by
            have isNew' : client.calls.next ≤ other := isNew
            omega
          exact (attempts_sent_of_ne different).trans (sound.unsent isNew)
        warranted := by
          refine warranted_cons sound.warranted ?_
          intro other wire same
          cases same
          exact warrant }

theorem Sound.api (sound : Sound client) (request : ApiRequest) :
    Sound
      { client with
        calls := client.calls.launch ⟨request, .first⟩
        history :=
          .attemptSent client.calls.next
            (attempt request client.accessToken) :: client.history } := by
  have none := sound.unsent (Nat.le_refl client.calls.next)
  exact {
    alone := sound.alone
    settled := fun isSettled =>
      List.mem_cons_of_mem _ (sound.settled isSettled)
    reported := sound.reported
    tells := by
      intro id call found
      rcases Registry.cases_of_get_launch found with ⟨rfl, rfl⟩ | old
      · exact ⟨client.accessToken, attempts_sent_self.trans (by rw [none])⟩
      · have below := Registry.lt_next_of_get old
        exact (sound.tells old).grow (attempts_sent_of_ne (Nat.ne_of_gt below))
    unsent := by
      intro id isNew
      have below : client.calls.next < id := isNew
      exact (attempts_sent_of_ne (Nat.ne_of_lt below)).trans
        (sound.unsent (Nat.le_of_lt below))
    warranted := by
      refine warranted_cons sound.warranted ?_
      intro id wire same
      cases same
      exact Or.inl none }

theorem sound_of_step {label : Label} (sound : Sound client)
    (stepped : step client label = some next) : Sound next := by
  cases transition_of_step stepped with
  | called request => exact sound.api request
  | asked =>
      have started := sound.refreshSession
      exact { started with
        reported := by
          intro id caller result found isResult
          rcases Registry.cases_of_get_launch found with ⟨_, rfl⟩ | old
          · cases isResult
          · exact started.reported old isResult }
  | answered found => exact sound.putStage found trivial
  | failed found => exact sound.failFirst _ found
  | settled found => exact sound.settleRefresh _ found
  | resumed found isSettled => exact sound.resume found isSettled
  | reported found isSettled =>
      exact { sound with
        reported := by
          intro other caller value isCaller isResult
          rcases Registry.cases_of_get_put isCaller with ⟨_, rfl⟩ | ⟨_, old⟩
          · cases isResult
            exact isSettled
          · exact sound.reported old isResult }
  | changed token => exact { sound with }

theorem sound_of_run {labels : List Label} {token : Option String}
    (ran : run step (Client.loaded token) labels = some client) :
    Sound client :=
  invariant_of_run sound_of_step (sound_loaded token) ran

/-- At most one refresh is on its way. -/
theorem Sound.exclusive (sound : Sound client) :
    client.flights.Exclusive Flight.isSending := by
  intro left right leftFlight rightFlight isLeft isRight leftSends rightSends
  have leftIs := of_decide_eq_true leftSends
  have rightIs := of_decide_eq_true rightSends
  rw [leftIs] at isLeft
  rw [rightIs] at isRight
  exact Option.some.inj
    ((sound.alone.mp isLeft).symm.trans (sound.alone.mp isRight))

theorem Sound.idle (sound : Sound client)
    (nobody : ∀ flight, client.flights.get flight ≠ some .sending) :
    client.inflight = none := by
  cases isInflight : client.inflight with
  | none => rfl
  | some flight => exact absurd (sound.alone.mpr isInflight) (nobody flight)

/-- The caller has been given this promise. -/
def Given (client : Client) (id flight : Nat) : Prop :=
  ∃ caller, client.callers.get id = some caller ∧ caller.flight = flight

theorem Client.callers_refreshSession :
    client.refreshSession.2.callers = client.callers := by
  unfold Client.refreshSession
  split <;> rfl

theorem Client.callers_failFirst (failure : Failure) :
    (client.failFirst id call failure).callers = client.callers := by
  unfold Client.failFirst
  split
  · exact Client.callers_refreshSession
  · rfl

theorem Client.callers_resume (result : Bool) :
    (client.resume id call result).callers = client.callers := by
  unfold Client.resume
  split <;> rfl

theorem given_of_step {label : Label} (given : Given client id flight)
    (stepped : step client label = some next) : Given next id flight := by
  obtain ⟨caller, found, isFlight⟩ := given
  cases transition_of_step stepped with
  | called request => exact ⟨caller, found, isFlight⟩
  | asked =>
      refine ⟨caller, Registry.get_launch_of_get ?_, isFlight⟩
      rw [Client.callers_refreshSession]
      exact found
  | answered => exact ⟨caller, found, isFlight⟩
  | failed =>
      refine ⟨caller, ?_, isFlight⟩
      rw [Client.callers_failFirst]
      exact found
  | settled => exact ⟨caller, found, isFlight⟩
  | resumed =>
      refine ⟨caller, ?_, isFlight⟩
      rw [Client.callers_resume]
      exact found
  | @reported other otherFlight result isOther isSettled =>
      by_cases same : id = other
      · subst same
        rw [isOther] at found
        cases found
        exact
          ⟨⟨otherFlight, some result⟩, Registry.get_put_self isOther, isFlight⟩
      · exact ⟨caller, (Registry.get_put_of_ne same).trans found, isFlight⟩
  | changed token => exact ⟨caller, found, isFlight⟩

/-- Whoever calls `refreshSession` is told how that refresh settled. -/
theorem caller_of_run
    {later : List Label} {final : Client} (sound : Sound client)
    (ran : run step client (.refreshSession :: later) = some final) :
    ∃ caller,
      final.callers.get client.callers.next = some caller ∧
        caller.flight = client.refreshSession.1 ∧
        ∀ result, caller.result = some result →
          final.flights.get caller.flight = some (.settled result) := by
  obtain ⟨next, stepped, ranRest⟩ := run_cons_eq_some_iff.mp ran
  have finalSound : Sound final :=
    invariant_of_run sound_of_step (sound_of_step sound stepped) ranRest
  have given : Given next client.callers.next client.refreshSession.1 := by
    cases stepped
    refine ⟨⟨client.refreshSession.1, none⟩, ?_, rfl⟩
    rw [Client.callers_refreshSession]
    exact Registry.get_launch_self _ _
  obtain ⟨caller, found, isFlight⟩ :=
    @invariant_of_run _ _ step
      (fun state => Given state client.callers.next client.refreshSession.1)
      given_of_step _ _ _ given ranRest
  exact ⟨caller, found, isFlight, fun result => finalSound.reported found⟩

/-- The same request, but for its token. -/
structure Wire.Repeats (second first : Wire) : Prop where
  method : second.method = first.method
  path : second.path = first.path
  body : second.body = first.body
  headers :
    ∀ name, name ≠ "Authorization" → second.header name = first.header name

theorem lookup_filter_ne {other : String} (different : other ≠ name)
    (headers : List (String × String)) :
    (headers.filter fun header => decide (header.1 ≠ name)).lookup other =
      headers.lookup other := by
  induction headers with
  | nil => rfl
  | cons header rest ih =>
      obtain ⟨key, value⟩ := header
      by_cases kept : key = name
      · have isOther : (other == key) = false :=
          beq_eq_false_iff_ne.mpr (kept ▸ different)
        rw [List.filter_cons_of_neg (by simp [kept]), ih,
          List.lookup_cons, isOther]
      · rw [List.filter_cons_of_pos (by simp [kept]), List.lookup_cons,
          List.lookup_cons, ih]

theorem lookup_setHeader_of_ne {other : String} (different : other ≠ name)
    (value : String) (headers : List (String × String)) :
    (setHeader name value headers).lookup other = headers.lookup other := by
  rw [setHeader, List.lookup_cons, beq_eq_false_iff_ne.mpr different]
  exact lookup_filter_ne different headers

theorem header_attempt (different : name ≠ "Authorization")
    (request : ApiRequest) (token : Option String) :
    (attempt request token).header name =
      (attempt request none).header name := by
  cases token with
  | none => rfl
  | some token =>
      by_cases isEmpty : token = ""
      · subst isEmpty
        rfl
      · simp only [attempt, send, Wire.header, if_neg isEmpty]
        exact lookup_setHeader_of_ne different _ _

theorem header_attempt_key (request : ApiRequest) (token : Option String) :
    (attempt request token).header "Idempotency-Key" =
      request.headers.lookup "Idempotency-Key" := by
  rw [header_attempt (by decide)]
  obtain ⟨method, path, body, headers⟩ := request
  cases body with
  | none => rfl
  | some body => exact lookup_setHeader_of_ne (by decide) _ _

theorem attempt_repeats (request : ApiRequest) (first second : Option String) :
    (attempt request second).Repeats (attempt request first) where
  method := rfl
  path := rfl
  body := rfl
  headers := by
    intro name different
    rw [header_attempt different, header_attempt different request first]

/-- A call whose first attempt is refused awaits the refresh that is on its
way. -/
theorem Client.stage_failFirst {request : ApiRequest} {failure : Failure}
    (isInflight : client.inflight = some flight)
    (unauthorized : failure.unauthorized = true)
    (found : client.calls.get id = some ⟨request, .first⟩) :
    (client.failFirst id ⟨request, .first⟩ failure).calls.get id =
      some ⟨request, .awaiting flight⟩ := by
  have shared :
      (client.note (.attemptFailed id failure)).refreshSession =
        (flight, client.note (.attemptFailed id failure)) :=
    Client.refreshSession_of_some isInflight
  rw [Client.failFirst, if_pos unauthorized, shared]
  exact Registry.get_put_self found

theorem length_attempts_le
    (warranted :
      ∀ {id wire earlier}, .attemptSent id wire :: earlier <:+ history →
        Warranted earlier id wire)
    (id : Nat) : (attempts id history).length ≤ 2 := by
  induction history with
  | nil => exact Nat.zero_le 2
  | cons event rest ih =>
      have isRest :=
        ih fun isSuffix =>
          warranted (isSuffix.trans (List.suffix_cons event rest))
      cases sent : event.attemptOf id with
      | none =>
          rw [attempts_cons_of_none sent]
          exact isRest
      | some wire =>
          have isSent : event = .attemptSent id wire := by
            cases event with
            | attemptSent call other =>
                by_cases same : call = id
                · rw [Event.attemptOf, if_pos same] at sent
                  cases sent
                  rw [same]
                · rw [Event.attemptOf, if_neg same] at sent
                  cases sent
            | _ => cases sent
          subst isSent
          rw [attempts_sent_self, List.length_cons]
          rcases warranted (List.suffix_refl _) with
            none | ⟨_, _, _, _, _, once, _⟩
          · rw [none]
            exact Nat.le_succ 1
          · rw [once]
            exact Nat.le_refl 2

theorem refresh_is_shared_and_retry_is_single
    {labels : List Label} {token : Option String}
    (ran : run step (Client.loaded token) labels = some client) :
    client.flights.Exclusive Flight.isSending ∧
    (∀ flight, client.flights.get flight = some .sending →
      client.refreshSession = (flight, client) ∧
      ∀ id request failure next, failure.unauthorized = true →
        client.calls.get id = some ⟨request, .first⟩ →
        step client (.attemptSettles id (.error failure)) = some next →
        next.calls.get id = some ⟨request, .awaiting flight⟩) ∧
    ((∀ flight, client.flights.get flight ≠ some .sending) →
      client.refreshSession.1 = client.flights.next ∧
      client.refreshSession.2.flights.get client.flights.next = some .sending ∧
      client.refreshSession.2.history =
        .refreshSent client.flights.next :: client.history) ∧
    (∀ later final,
      run step client (.refreshSession :: later) = some final →
      ∃ caller,
        final.callers.get client.callers.next = some caller ∧
        caller.flight = client.refreshSession.1 ∧
        ∀ result, caller.result = some result →
          final.flights.get caller.flight = some (.settled result)) ∧
    (∀ id, (attempts id client.history).length ≤ 2) ∧
    ∀ id second earlier,
      .attemptSent id second :: earlier <:+ client.history →
      attempts id earlier = [] ∨
        ∃ first flight failure,
          attempts id earlier = [first] ∧ second.Repeats first ∧
          Refused earlier id flight failure ∧
          .refreshSettled flight true ∈ earlier := by
  have sound := sound_of_run ran
  refine ⟨?_, ?_, ?_, ?_, length_attempts_le sound.warranted, ?_⟩
  · exact sound.exclusive
  · intro flight isSending
    have isInflight := sound.alone.mp isSending
    refine ⟨Client.refreshSession_of_some isInflight, ?_⟩
    intro id request failure next unauthorized found stepped
    simp only [step, found] at stepped
    cases stepped
    exact Client.stage_failFirst isInflight unauthorized found
  · intro nobody
    rw [Client.refreshSession_of_none (sound.idle nobody)]
    exact ⟨rfl, Registry.get_launch_self _ _, rfl⟩
  · intro later final ranLater
    exact caller_of_run sound ranLater
  · intro id second earlier isSuffix
    refine (sound.warranted isSuffix).imp_right ?_
    rintro ⟨request, first, again, flight, failure, once, rfl, refused, settled⟩
    exact ⟨attempt request first, flight, failure, once,
      attempt_repeats request first again, refused, settled⟩

/-- Two calls whose token has expired share a refresh and send their requests
again. -/
def sharedRefresh : List Label :=
  let order : ApiRequest :=
    ⟨"POST", "/api/orders", some "order", [("Idempotency-Key", "key")]⟩
  let read : ApiRequest := ⟨"GET", "/api/orders/1", none, []⟩
  let expired : Result :=
    .error (.api ⟨401, "unauthenticated", "your session is not valid"⟩)
  let session : Session := ⟨"new", 900, ⟨⟨1⟩, "ada@example.org", .user⟩⟩
  [.api order, .api read, .attemptSettles 1 expired, .refreshSession,
    .attemptSettles 0 expired, .refreshSettles 0 (.ok (.session session)),
    .resumes 0, .reports 0, .resumes 1, .attemptSettles 0 (.ok .other)]

theorem refresh_is_shared_by_two_calls :
    ∃ client,
      run step (Client.loaded (some "old")) sharedRefresh = some client ∧
      client.flights.Exclusive Flight.isSending ∧
      (attempts 0 client.history).length = 2 ∧
      (attempts 1 client.history).length = 2 := by
  have evaluated :
      ((run step (Client.loaded (some "old")) sharedRefresh).any fun client =>
        decide
          ((attempts 0 client.history).length = 2 ∧
            (attempts 1 client.history).length = 2)) = true := by
    decide +kernel
  obtain ⟨client, ran, holds⟩ := (Option.any_eq_true _ _).mp evaluated
  exact ⟨client, ran, (refresh_is_shared_and_retry_is_single ran).1,
    of_decide_eq_true holds⟩

end TicketWave.Web.SingleFlight
