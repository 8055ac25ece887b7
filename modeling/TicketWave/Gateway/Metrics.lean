import Mathlib

/-!
# Request metrics of the gateway

How the status of an answer passes through `logging`, `recoverer` and
`instrument`.  A handler is given by what it does to its writer and whether it
panics in the end; the connection is that of `net/http`.
-/

namespace TicketWave.Gateway

/-- The final status that has gone out, and the statuses of the recorders
around the connection, the outermost wrapper first. -/
structure Writer where
  sent : Option Int
  recorders : List Int
  deriving DecidableEq, Repr

def informational (code : Int) : Bool :=
  decide (100 ≤ code) && decide (code ≤ 199) && decide (code ≠ 101)

def validCode (code : Int) : Bool :=
  decide (100 ≤ code) && decide (code ≤ 999)

/-- What is left of a call on a writer or a handler: the writer, and whether
it panicked. -/
structure Done where
  panicked : Bool
  writer : Writer
  deriving DecidableEq, Repr

/-- `WriteHeader` of the connection. -/
def Writer.connWriteHeader (code : Int) (writer : Writer) : Done :=
  match writer.sent with
  | some _ => ⟨false, writer⟩
  | none =>
      if validCode code then
        if informational code then
          ⟨false, writer⟩
        else
          ⟨false, { writer with sent := some code }⟩
      else
        ⟨true, writer⟩

/-- `WriteHeader` of a `statusRecorder` around others. -/
def Writer.writeHeader (code : Int) (writer : Writer) : Done :=
  connWriteHeader code
    { writer with recorders := writer.recorders.map fun _ => code }

/-- `Write` and `Flush` pass the recorders by. -/
def Writer.write (writer : Writer) : Writer :=
  { writer with sent := some (writer.sent.getD 200) }

inductive Op where
  | writeHeader (code : Int)
  | write
  | flush
  deriving DecidableEq, Repr

def Op.perform (writer : Writer) : Op → Done
  | .writeHeader code => writer.writeHeader code
  | .write => ⟨false, writer.write⟩
  | .flush => ⟨false, writer.write⟩

/-- What a handler, with the middlewares of its route, does to the request at
hand. -/
structure Behaviour where
  ops : List Op
  panics : Bool
  deriving DecidableEq, Repr

def performAll (panics : Bool) (writer : Writer) : List Op → Done
  | [] => ⟨panics, writer⟩
  | op :: rest =>
      let done := op.perform writer
      if done.panicked then done else performAll panics done.writer rest

inductive MetricEvent where
  | inFlightInc
  | inFlightDec
  | httpRequestsInc (route method code : String)
  | httpDurationObserve (route method : String)
  deriving DecidableEq, Repr

/-- What a handler leaves behind: also the metrics that it recorded and the
statuses that were logged. -/
structure Served extends Done where
  events : List MetricEvent
  logged : List Int
  deriving DecidableEq, Repr

structure Request where
  method : String
  deriving DecidableEq, Repr

abbrev Handler := Request → Writer → Served
abbrev Middleware := Handler → Handler

def Behaviour.serve (behaviour : Behaviour) : Handler := fun _ writer =>
  ⟨performAll behaviour.panics writer behaviour.ops, [], []⟩

/-- The first one is outermost. -/
def chain (handler : Handler) (middlewares : List Middleware) : Handler :=
  middlewares.foldr (fun middleware next => middleware next) handler

/-- Wrap the writer in a recorder. -/
def Writer.wrap (writer : Writer) : Writer :=
  { writer with recorders := 200 :: writer.recorders }

def Writer.unwrap (writer : Writer) : Writer :=
  { writer with recorders := writer.recorders.tail }

/-- The status of the recorder that is wrapped around last. -/
def Writer.status (writer : Writer) : Int :=
  writer.recorders.headD 200

/-- What `instrument` records after the next handler.  It is not deferred, so
a panic passes it by. -/
def recordReturn (route : String) (request : Request) (done : Done) :
    List MetricEvent :=
  if done.panicked then []
  else
    [.httpRequestsInc route request.method (toString done.writer.status),
      .httpDurationObserve route request.method]

def instrument (route : String) : Middleware := fun next request writer =>
  let done := next request writer.wrap
  { done with
    writer := done.writer.unwrap
    events :=
      .inFlightInc ::
        (done.events ++ recordReturn route request done.toDone ++
          [.inFlightDec]) }

def logging : Middleware := fun next request writer =>
  let done := next request writer.wrap
  { done with
    writer := done.writer.unwrap
    logged :=
      if done.panicked then done.logged
      else done.logged ++ [done.writer.status] }

/-- `writeError` -/
def writeError (status : Int) (writer : Writer) : Done :=
  let done := writer.writeHeader status
  if done.panicked then done else ⟨false, done.writer.write⟩

/-- What the deferred function of `recoverer` does. -/
def recovered (done : Served) : Served :=
  if done.panicked then
    { done with toDone := writeError 500 done.writer }
  else
    done

def recoverer : Middleware := fun next request writer =>
  recovered (next request writer)

def requestID : Middleware := id
def securityHeaders : Middleware := id
def spanName (_ : String) : Middleware := id

/-- The server ends the answer; a panic that reaches it drops the
connection. -/
def finishRequest (done : Served) : Served :=
  if done.panicked then done
  else { done with writer := done.writer.write }

/-- A request that reaches the route, from its arrival to its end. -/
def serveRoute (route : String) (behaviour : Behaviour) (request : Request) :
    Served :=
  let registered := instrument route (spanName route behaviour.serve)
  let handler :=
    chain registered [requestID, logging, recoverer, securityHeaders]
  finishRequest (handler request ⟨none, []⟩)

/-- The status that a recorder is left with. -/
def lastCode (status : Int) : List Op → Int
  | [] => status
  | .writeHeader code :: rest => lastCode code rest
  | .write :: rest | .flush :: rest => lastCode status rest

/-- The first final status, or 200; there is none when an invalid one comes
before it. -/
def sentCode : List Op → Option Int
  | [] | .write :: _ | .flush :: _ => some 200
  | .writeHeader code :: rest =>
      if validCode code then
        if informational code then sentCode rest else some code
      else none

/-- The handler returns, and the status that it writes last is the one that
goes out. -/
def Behaviour.Truthful (behaviour : Behaviour) : Prop :=
  behaviour.panics = false ∧
    sentCode behaviour.ops = some (lastCode 200 behaviour.ops)

instance : DecidablePred Behaviour.Truthful :=
  fun _ => inferInstanceAs (Decidable (_ ∧ _))

variable {writer : Writer} {ops : List Op} {code : Int} {panics : Bool}

/-- Once a final status is out, only the recorders change. -/
theorem performAll_of_sent (isSent : writer.sent = some code) :
    performAll panics writer ops =
      ⟨panics, ⟨some code, writer.recorders.map (lastCode · ops)⟩⟩ := by
  induction ops generalizing writer with
  | nil =>
      obtain ⟨sent, recorders⟩ := writer
      cases isSent
      exact congrArg (fun kept => Done.mk panics ⟨some code, kept⟩)
        (List.map_id recorders).symm
  | cons op rest ih =>
      cases op with
      | writeHeader given =>
          have passes :
              writer.writeHeader given =
                ⟨false, ⟨some code, writer.recorders.map fun _ => given⟩⟩ := by
            simp only [Writer.writeHeader, Writer.connWriteHeader, isSent]
          rw [performAll, Op.perform, passes]
          refine (@ih
            ⟨some code, writer.recorders.map fun _ => given⟩ rfl).trans ?_
          rw [List.map_map]
          rfl
      | _ =>
          have passes : writer.write.sent = some code := by
            rw [Writer.write, isSent]
            rfl
          exact ih passes

/-- The status that goes out is `sentCode`, also if it only does when the
request ends. -/
theorem performAll_of_unsent (unsent : writer.sent = none) :
    (sentCode ops = none → (performAll panics writer ops).panicked = true) ∧
      (sentCode ops = some code →
        ∃ sent,
          performAll panics writer ops =
              ⟨panics, ⟨sent, writer.recorders.map (lastCode · ops)⟩⟩ ∧
            sent.getD 200 = code) := by
  have goesOut
      {op : Op} {rest : List Op} {recorders kept : List Int} {out : Int}
      (performed : op.perform ⟨none, recorders⟩ = ⟨false, ⟨some out, kept⟩⟩)
      (isCode : some out = some code)
      (same :
        kept.map (lastCode · rest) = recorders.map (lastCode · (op :: rest))) :
      ∃ sent,
        performAll panics ⟨none, recorders⟩ (op :: rest) =
            ⟨panics, ⟨sent, recorders.map (lastCode · (op :: rest))⟩⟩ ∧
          sent.getD 200 = code := by
    refine ⟨some out, ?_, Option.some.inj isCode⟩
    rw [performAll, performed, ← same]
    exact performAll_of_sent rfl
  obtain ⟨sent, recorders⟩ := writer
  cases unsent
  induction ops generalizing recorders with
  | nil =>
      refine ⟨nofun, fun isCode => ⟨none, ?_, Option.some.inj isCode⟩⟩
      exact congrArg (fun kept => Done.mk panics ⟨none, kept⟩)
        (List.map_id recorders).symm
  | cons op rest ih =>
      cases op with
      | writeHeader given =>
          rw [sentCode]
          by_cases isValid : validCode given = true
          · rw [if_pos isValid]
            by_cases isInformational : informational given = true
            · have performed :
                  (Op.writeHeader given).perform ⟨none, recorders⟩ =
                    ⟨false, ⟨none, recorders.map fun _ => given⟩⟩ := by
                simp only [Op.perform, Writer.writeHeader,
                  Writer.connWriteHeader, isValid, isInformational, if_true]
              rw [if_pos isInformational, performAll, performed]
              have later := ih (recorders.map fun _ => given)
              rw [List.map_map] at later
              exact later
            · have performed :
                  (Op.writeHeader given).perform ⟨none, recorders⟩ =
                    ⟨false, ⟨some given, recorders.map fun _ => given⟩⟩ := by
                simp only [Op.perform, Writer.writeHeader,
                  Writer.connWriteHeader, isValid, isInformational, if_true,
                  Bool.false_eq_true, if_false]
              rw [if_neg isInformational]
              refine ⟨nofun, fun isCode => goesOut performed isCode ?_⟩
              rw [List.map_map]
              rfl
          · have performed :
                (Op.writeHeader given).perform ⟨none, recorders⟩ =
                  ⟨true, ⟨none, recorders.map fun _ => given⟩⟩ := by
              simp only [Op.perform, Writer.writeHeader,
                Writer.connWriteHeader, isValid, Bool.false_eq_true, if_false]
            rw [if_neg isValid, performAll, performed]
            exact ⟨fun _ => rfl, nofun⟩
      | _ => exact ⟨nofun, fun isCode => goesOut rfl isCode rfl⟩

variable {route : String} {behaviour : Behaviour} {request : Request}

theorem events_recovered (done : Served) :
    (recovered done).events = done.events := by
  unfold recovered
  split <;> rfl

theorem events_finishRequest (done : Served) :
    (finishRequest done).events = done.events := by
  unfold finishRequest
  split <;> rfl

/-- The metrics are those that `instrument` records, inside of `logging` and
`recoverer`. -/
theorem events_serveRoute :
    (serveRoute route behaviour request).events =
      (instrument route behaviour.serve request ⟨none, [200]⟩).events :=
  (events_finishRequest _).trans (events_recovered _)

theorem instrument_of_returned {after : Writer}
    (returned :
      performAll behaviour.panics writer.wrap behaviour.ops = ⟨false, after⟩) :
    instrument route behaviour.serve request writer =
      ⟨⟨false, after.unwrap⟩,
        [.inFlightInc,
          .httpRequestsInc route request.method (toString after.status),
          .httpDurationObserve route request.method,
          .inFlightDec], []⟩ := by
  rw [instrument, Behaviour.serve, returned]
  rfl

theorem sent_serveRoute_of_returned {after : Writer}
    (returned :
      performAll behaviour.panics (Writer.wrap ⟨none, [200]⟩) behaviour.ops =
        ⟨false, after⟩) :
    (serveRoute route behaviour request).writer.sent =
      some (after.sent.getD 200) := by
  have inner := @instrument_of_returned _ route behaviour request _ returned
  change
    (finishRequest
      (logging (recoverer (instrument route behaviour.serve)) request
        ⟨none, []⟩)).writer.sent = _
  rw [logging, recoverer, Writer.wrap, inner]
  rfl

structure Metrics where
  httpRequests : String × String × String → Nat
  httpDuration : String × String → Nat
  httpInFlight : Int

def Metrics.record (metrics : Metrics) : MetricEvent → Metrics
  | .inFlightInc => { metrics with httpInFlight := metrics.httpInFlight + 1 }
  | .inFlightDec => { metrics with httpInFlight := metrics.httpInFlight - 1 }
  | .httpRequestsInc route method code =>
      { metrics with
        httpRequests :=
          Function.update metrics.httpRequests (route, method, code)
            (metrics.httpRequests (route, method, code) + 1) }
  | .httpDurationObserve route method =>
      { metrics with
        httpDuration :=
          Function.update metrics.httpDuration (route, method)
            (metrics.httpDuration (route, method) + 1) }

def Metrics.after (metrics : Metrics) (events : List MetricEvent) : Metrics :=
  events.foldl Metrics.record metrics

theorem Metrics.httpInFlight_after
    (metrics : Metrics) (events : List MetricEvent) :
    (metrics.after events).httpInFlight =
      metrics.httpInFlight + events.count .inFlightInc -
        events.count .inFlightDec := by
  induction events generalizing metrics with
  | nil => simp [Metrics.after]
  | cons event rest ih =>
      have later := ih (metrics.record event)
      rw [Metrics.after] at later ⊢
      rw [List.foldl_cons, later, List.count_cons, List.count_cons]
      cases event <;> simp [Metrics.record] <;> omega

theorem httpRequestsInc_ne
    {route method code otherRoute otherMethod otherCode : String}
    (different : (route, method, code) ≠ (otherRoute, otherMethod, otherCode)) :
    MetricEvent.httpRequestsInc otherRoute otherMethod otherCode ≠
      .httpRequestsInc route method code := by
  rintro ⟨⟩
  exact different rfl

theorem Metrics.httpRequests_after (metrics : Metrics)
    (events : List MetricEvent) (route method code : String) :
    (metrics.after events).httpRequests (route, method, code) =
      metrics.httpRequests (route, method, code) +
        events.count (.httpRequestsInc route method code) := by
  induction events generalizing metrics with
  | nil => rfl
  | cons event rest ih =>
      have later := ih (metrics.record event)
      rw [Metrics.after] at later ⊢
      rw [List.foldl_cons, later, List.count_cons]
      cases event with
      | httpRequestsInc otherRoute otherMethod otherCode =>
          by_cases same :
            (route, method, code) = (otherRoute, otherMethod, otherCode)
          · cases same
            simp only [Metrics.record, Function.update_self, beq_self_eq_true,
              if_true]
            omega
          · simp only [Metrics.record, Function.update_of_ne same,
              beq_eq_false_iff_ne.mpr (httpRequestsInc_ne same),
              Bool.false_eq_true, if_false, Nat.add_zero]
      | _ => rfl

theorem count_recordReturn (done : Done) :
    (recordReturn route request done).count .inFlightInc = 0 ∧
      (recordReturn route request done).count .inFlightDec = 0 := by
  unfold recordReturn
  split <;> exact ⟨rfl, rfl⟩

theorem gauge_events :
    (serveRoute route behaviour request).events.count .inFlightInc = 1 ∧
      (serveRoute route behaviour request).events.count .inFlightDec = 1 := by
  rw [events_serveRoute, instrument]
  dsimp only [Behaviour.serve]
  obtain ⟨noUps, noDowns⟩ :=
    @count_recordReturn route request
      (performAll behaviour.panics (Writer.wrap ⟨none, [200]⟩) behaviour.ops)
  rw [List.count_cons, List.count_cons, List.count_append, List.count_append,
    List.count_append, List.count_append, noUps, noDowns]
  exact ⟨rfl, rfl⟩

theorem events_of_panicked
    (panicked :
      (performAll behaviour.panics (Writer.wrap ⟨none, [200]⟩)
        behaviour.ops).panicked = true) :
    (serveRoute route behaviour request).events =
      [.inFlightInc, .inFlightDec] := by
  rw [events_serveRoute, instrument, Behaviour.serve]
  dsimp only
  rw [recordReturn, if_pos panicked]
  rfl

theorem count_of_returned {after : Writer}
    (returned :
      performAll behaviour.panics (Writer.wrap ⟨none, [200]⟩) behaviour.ops =
        ⟨false, after⟩) (otherRoute method code : String) :
    (serveRoute route behaviour request).events.count
        (.httpRequestsInc otherRoute method code) =
      if (otherRoute, method, code) =
        (route, request.method, toString after.status) then 1
      else 0 := by
  rw [events_serveRoute, instrument_of_returned returned]
  by_cases same :
    (otherRoute, method, code) = (route, request.method, toString after.status)
  · cases same
    rw [if_pos rfl, List.count_cons_of_ne (by simp), List.count_cons_self]
    rfl
  · rw [if_neg same, List.count_cons_of_ne (by simp),
      List.count_cons_of_ne (httpRequestsInc_ne same)]
    rfl

/-- The request is counted once, with the status that was sent. -/
def CountedOnce (route : String) (request : Request) (served : Served) : Prop :=
  ∃ status : Int,
    served.writer.sent = some status ∧
      ∀ otherRoute method code,
        served.events.count (.httpRequestsInc otherRoute method code) =
          if (otherRoute, method, code) =
            (route, request.method, toString status) then 1
          else 0

theorem countedOnce_iff :
    CountedOnce route request (serveRoute route behaviour request) ↔
      behaviour.Truthful := by
  have uncounted
      (panicked :
        (performAll behaviour.panics (Writer.wrap ⟨none, [200]⟩)
          behaviour.ops).panicked = true) :
      ¬ CountedOnce route request (serveRoute route behaviour request) := by
    rintro ⟨status, _, counted⟩
    have once := counted route request.method (toString status)
    rw [events_of_panicked panicked, if_pos rfl] at once
    cases once
  have unsent : (Writer.wrap ⟨none, [200]⟩).sent = none := rfl
  cases isSent : sentCode behaviour.ops with
  | none =>
      refine iff_of_false (uncounted ?_) ?_
      · exact (@performAll_of_unsent _ _ 0 _ unsent).1 isSent
      · intro truthful
        cases isSent.symm.trans truthful.2
  | some code =>
      obtain ⟨sent, performed, isCode⟩ :=
        (@performAll_of_unsent _ _ code behaviour.panics unsent).2 isSent
      cases isPanic : behaviour.panics with
      | true =>
          refine iff_of_false (uncounted ?_) ?_
          · rw [performed]
            exact isPanic
          · intro truthful
            cases isPanic.symm.trans truthful.1
      | false =>
          have returned := performed.trans (by rw [isPanic])
          have goesOut :=
            @sent_serveRoute_of_returned route behaviour request _ returned
          rw [isCode] at goesOut
          constructor
          · rintro ⟨status, isStatus, counted⟩
            cases goesOut.symm.trans isStatus
            have once := counted route request.method (toString code)
            rw [count_of_returned returned, if_pos rfl] at once
            split at once
            · rename_i same
              have sameCode : code = lastCode 200 behaviour.ops :=
                Int.repr_injective
                  (congrArg (fun labels => labels.2.2) same)
              exact ⟨isPanic, by rw [isSent, sameCode]⟩
            · cases once
          · intro truthful
            have sameCode : code = lastCode 200 behaviour.ops :=
              Option.some.inj (isSent.symm.trans truthful.2)
            refine ⟨code, goesOut, ?_⟩
            rw [sameCode]
            exact count_of_returned returned

/-- When other requests record metrics at the same time, the gauge is left as
if they were alone, and this one is counted once, with the status that the
client got, exactly if the handler returns and the status that it writes last
is the one that goes out. -/
theorem http_requests_are_counted
    (before : Metrics) {all others : List MetricEvent}
    (interleaved :
      all.Perm ((serveRoute route behaviour request).events ++ others)) :
    (before.after all).httpInFlight = (before.after others).httpInFlight ∧
      ((∃ status : Int,
          (serveRoute route behaviour request).writer.sent = some status ∧
          ∀ labels,
            (before.after all).httpRequests labels =
              (before.after others).httpRequests labels +
                if labels = (route, request.method, toString status) then 1
                else 0) ↔
        behaviour.Truthful) := by
  constructor
  · obtain ⟨ups, downs⟩ := @gauge_events route behaviour request
    rw [Metrics.httpInFlight_after, Metrics.httpInFlight_after,
      interleaved.count_eq, interleaved.count_eq, List.count_append,
      List.count_append, ups, downs]
    omega
  · rw [← @countedOnce_iff route behaviour request]
    refine exists_congr fun status => and_congr_right fun _ => ?_
    have own (otherRoute method code : String) :
        (before.after all).httpRequests (otherRoute, method, code) =
          (before.after others).httpRequests (otherRoute, method, code) +
            (serveRoute route behaviour request).events.count
              (.httpRequestsInc otherRoute method code) := by
      rw [Metrics.httpRequests_after, Metrics.httpRequests_after,
        interleaved.count_eq, List.count_append]
      omega
    simp only [Prod.forall, own, Nat.add_left_cancel_iff]

/-- A request that a middleware refuses, among the events of another one. -/
theorem refused_request_is_counted :
    let behaviour : Behaviour := ⟨[.writeHeader 429, .write], false⟩
    let before : Metrics := ⟨fun _ => 0, fun _ => 0, 0⟩
    let events := (serveRoute "POST /api/auth/login" behaviour ⟨"POST"⟩).events
    (before.after (.inFlightInc :: events)).httpInFlight = 1 ∧
      ∃ status : Int,
        (before.after (.inFlightInc :: events)).httpRequests
          ("POST /api/auth/login", "POST", toString status) = 1 := by
  have counted :=
    @http_requests_are_counted "POST /api/auth/login"
      ⟨[.writeHeader 429, .write], false⟩ ⟨"POST"⟩
      ⟨fun _ => 0, fun _ => 0, 0⟩ _ [.inFlightInc]
      (List.perm_append_singleton _ _).symm
  obtain ⟨status, _, labelled⟩ := counted.2.mpr (by decide)
  refine ⟨counted.1, status, ?_⟩
  refine (labelled _).trans ?_
  rw [if_pos rfl]
  rfl

/-- A handler that panics before it writes anything: the client gets a 500 and
no request is counted.  And one that writes two statuses: the client gets the
first, and the second is counted. -/
theorem panic_is_not_counted :
    (let served := serveRoute "POST /api/orders" ⟨[], true⟩ ⟨"POST"⟩
    served.writer.sent = some 500 ∧
      served.events = [.inFlightInc, .inFlightDec] ∧ served.logged = [500]) ∧
    (let served :=
      serveRoute "POST /api/orders"
        ⟨[.writeHeader 200, .writeHeader 500], false⟩ ⟨"POST"⟩
    served.writer.sent = some 200 ∧
      MetricEvent.httpRequestsInc "POST /api/orders" "POST" "500" ∈
        served.events) := by
  decide +kernel

end TicketWave.Gateway
