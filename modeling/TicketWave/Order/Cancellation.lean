import TicketWave.Order.Trail

/-!
# A caller that gives up

A `Session` is the service with the contexts that have ended: an operation
under such a context fails, and one under way may have taken effect.  The
database and the other services are healthy.
-/

namespace TicketWave.Order

open Library

variable {uuid : UuidText}

structure Session (uuid : UuidText) where
  service : State uuid
  /-- the runs whose context has ended -/
  ended : List Nat

def Session.empty (uuid : UuidText) : Session uuid where
  service := State.empty uuid
  ended := []

inductive Move where
  | proceed (label : Label)
  /-- the context ends between two operations of the run -/
  | cancel (run : Nat)
  /-- the context ends while the operation of the label is under way -/
  | interrupt (run : Nat) (label : Label)

def healthyReply : Option Status → Bool
  | none => true
  | some err => err.isRefusal

/-- What the gRPC client returns when the context ends. -/
def cutReply : Option Status → Bool
  | none => false
  | some err => decide (err.code = .canceled ∨ err.code = .deadlineExceeded)

variable (session : Session uuid)

def Session.unusedEventId (rowId : UUID) : Bool :=
  decide (rowId ∉ session.service.db.outbox.map Outbox.Row.id)

def Session.permits : Label → Bool
  | .start _ _ => true
  | .invoke _ => true
  | .crash _ => false
  | .database run outcome rowId _ =>
      if run ∈ session.ended then decide (outcome = .failed)
      else decide (outcome = .done) && session.unusedEventId rowId
  | .answer run reply =>
      if run ∈ session.ended then cutReply reply else healthyReply reply

def Session.cuts (run : Nat) : Label → Bool
  | .database id outcome rowId _ =>
      decide (id = run ∧ outcome ≠ .done) && session.unusedEventId rowId
  | .answer id reply => decide (id = run) && cutReply reply
  | .start _ _ => false
  | .invoke _ => false
  | .crash _ => false

def Session.step : Move → Option (Session uuid)
  | .proceed label =>
      if session.permits label then
        (Order.step session.service label).map fun service =>
          { session with service := service }
      else
        none
  | .cancel run =>
      match session.service.runs.get run with
      | none => none
      | some _ => some { session with ended := run :: session.ended }
  | .interrupt run label =>
      if run ∉ session.ended ∧ session.cuts run label then
        (Order.step session.service label).map fun service =>
          ⟨service, run :: session.ended⟩
      else
        none

variable {session}

inductive Progress (session : Session uuid) : Move → Session uuid → Prop
  | proceeded
      {label : Label} {service : State uuid}
      (permitted : session.permits label = true)
      (transition : Transition session.service label service) :
      Progress session (.proceed label) { session with service := service }
  | cancelled
      {run : Nat} {value : Run uuid}
      (running : session.service.runs.get run = some value) :
      Progress session (.cancel run)
        { session with ended := run :: session.ended }
  | interrupted
      {run : Nat} {label : Label} {service : State uuid}
      (alive : run ∉ session.ended)
      (cut : session.cuts run label = true)
      (transition : Transition session.service label service) :
      Progress session (.interrupt run label) ⟨service, run :: session.ended⟩

theorem progress_of_step {next : Session uuid} {move : Move}
    (stepped : session.step move = some next) : Progress session move next := by
  cases move with
  | proceed label =>
      simp only [Session.step] at stepped
      split at stepped
      · rename_i permitted
        obtain ⟨service, serviceStep, rfl⟩ := Option.map_eq_some_iff.mp stepped
        exact .proceeded permitted (transition_of_step serviceStep)
      · cases stepped
  | cancel run =>
      simp only [Session.step] at stepped
      split at stepped
      · cases stepped
      · rename_i value running
        cases stepped
        exact .cancelled running
  | interrupt run label =>
      simp only [Session.step] at stepped
      split at stepped
      · rename_i guard
        obtain ⟨service, serviceStep, rfl⟩ := Option.map_eq_some_iff.mp stepped
        exact .interrupted guard.1 guard.2 (transition_of_step serviceStep)
      · cases stepped

/-- The order row is inserted, the payment has not succeeded, and the order
will have to be recorded as `FAILED` unless it succeeds. -/
def Stage.exposed : Stage → Bool
  | .reserving => true
  | .abandoning => true
  | .charging => true
  | .compensating _ => true
  | .failing _ _ => true
  | .creating => false
  | .replaying => false
  | .confirming => false
  | .finishing => false
  | .returned _ => false

/-- The operation under way may be cut off: an insertion without effect, a
`FAILED` transition with effect, or an operation of a stage that is not
exposed. -/
def Run.survives (run : Run uuid) (label : Label) : Bool :=
  match run.stage, label with
  | .creating, .database _ outcome _ _ => decide (outcome ≠ .lost)
  | .failing _ _, .database _ outcome _ _ => decide (outcome = .lost)
  | stage, _ => !stage.exposed

theorem Run.survives_answer
    (run : Run uuid) (id : Nat) (reply : Option Status) :
    run.survives (.answer id reply) = !run.stage.exposed := by
  unfold Run.survives
  cases run.stage <;> rfl

def Spares (session : Session uuid) : Move → Prop
  | .proceed _ => True
  | .cancel run =>
      ∀ value ∈ session.service.runs.get run, value.stage.exposed = false
  | .interrupt run label =>
      ∀ value ∈ session.service.runs.get run, value.survives label = true

instance (session : Session uuid) : DecidablePred (Spares session)
  | .proceed _ => inferInstanceAs (Decidable True)
  | .cancel run =>
      inferInstanceAs
        (Decidable
          (∀ value ∈ session.service.runs.get run, value.stage.exposed = false))
  | .interrupt run label =>
      inferInstanceAs
        (Decidable
          (∀ value ∈ session.service.runs.get run, value.survives label = true))

def Entry.isPayment (entry : Entry) : Bool :=
  match entry.action with
  | .received (.charge _) none => true
  | _ => false

/-- The run was told that its charge succeeded. -/
def Paid (log : List Entry) (id : Nat) : Prop :=
  ∃ entry ∈ log, entry.run = id ∧ entry.isPayment = true

def Recorded (state : State uuid) (orderId : UUID) : Prop :=
  ∃ row ∈ state.db.orders, row.id = orderId ∧ row.status ≠ .pending

/-- Whoever has returned after inserting its order has recorded its end, unless
it was told of a successful charge. -/
def Compensated (state : State uuid) : Prop :=
  ∀ id run result, state.runs.get id = some run →
    run.stage = .returned result → run.entry id .inserted ∈ state.log →
      Recorded state run.orderId ∨ Paid state.log id

section Service

variable {state next : State uuid} {label : Label} {id now : Nat}
  {run : Run uuid} {rowId : UUID}

theorem paid_of_transition (transition : Transition state label next)
    (paid : Paid state.log id) : Paid next.log id := by
  obtain ⟨entry, member, facts⟩ := paid
  exact ⟨entry, mem_log_of_transition transition member, facts⟩

theorem recorded_of_transition {orderId : UUID} (books : Books state)
    (transition : Transition state label next)
    (recorded : Recorded state orderId) : Recorded next orderId := by
  obtain ⟨row, stored, same, final⟩ := recorded
  have kept := final_of_transition books ⟨stored, final, rfl⟩ transition
  exact ⟨row, kept.1, same, final⟩

/-- The charge of the run has succeeded. -/
def Stage.paying : Stage → Bool
  | .confirming => true
  | .finishing => true
  | _ => false

/-- Every run that confirms seats was told that its charge succeeded. -/
theorem paid_of_paying (trail : Trail state)
    (running : state.runs.get id = some run)
    (paying : run.stage.paying = true) : Paid state.log id := by
  have receipt : run.order.charged uuid ∈ run.receipts := by
    unfold Run.receipts
    cases stage : run.stage with
    | confirming => exact List.mem_cons_self
    | finishing => exact List.mem_cons_of_mem _ List.mem_cons_self
    | _ =>
        rw [stage] at paying
        cases paying
  exact ⟨_, trail.receipts running _ receipt, rfl, rfl⟩

/-- The step cuts off no insertion that took effect and no `FAILED` transition
that did not. -/
def Gentle (state : State uuid) : Label → Prop
  | .database id outcome rowId _ =>
      ∀ {run}, state.runs.get id = some run →
        (run.stage = .creating → outcome ≠ .lost) ∧
          ∀ {reason answer}, run.stage = .failing reason answer →
            outcome ≠ .failed ∧ rowId ∉ state.db.outbox.map Outbox.Row.id
  | _ => True

theorem insertOutbox_of_fresh {db : Db} {order : OrderSnapshot}
    {type : OrderEventType} {reason : OrderFailureReason}
    (known : order.id ∈ db.orders.map OrderRow.id)
    (fresh : rowId ∉ db.outbox.map Outbox.Row.id) :
    ∃ next, insertOutbox uuid db order type reason rowId now = .ok next := by
  refine ⟨{ db with
      outbox :=
        db.outbox ++ [orderEventRow uuid order type reason rowId now] }, ?_⟩
  unfold insertOutbox
  rw [if_neg (not_not_intro known)]
  unfold Outbox.insert
  rw [if_neg (by exact fresh)]

theorem perform_of_failing {db : Db} {outcome : Outcome}
    {reason : OrderFailureReason} {answer : Status} {performed : Performed}
    (failing : run.stage = .failing reason answer) (reached : outcome ≠ .failed)
    (known : run.orderId ∈ db.orders.map OrderRow.id)
    (fresh : rowId ∉ db.outbox.map Outbox.Row.id)
    (done : run.perform db outcome rowId now = some performed) :
    performed.action ≠ none := by
  have stillKnown :
      run.order.id ∈
        (updateWhere (fun row : OrderRow => decide (row.id = run.order.id))
          (settle .failed .failed reason) db.orders).map OrderRow.id := by
    rw [map_key_updateWhere (by intro row; rfl)]
    exact known
  obtain ⟨next, commits⟩ :
      ∃ next,
        Order.transition uuid db run.order .failed .failed reason rowId
          now = .ok next :=
    insertOutbox_of_fresh stillKnown fresh
  unfold Run.perform at done
  rw [failing] at done
  cases done
  have committed :
      (run.transition db .failed .failed reason outcome rowId now).committed =
        true := by
    unfold Run.transition
    rw [commits]
    exact (attempt_of_ok reached).2
  simp only [committed, if_true]
  exact Option.some_ne_none _

theorem Stage.returned_afterReply {stage : Stage} {reply : Option Status}
    {result : Except Status CreateOrderResponse}
    (isActive : stage.active = true)
    (returned : stage.afterReply reply = .returned result) :
    stage.paying = true := by
  cases stage with
  | confirming => rfl
  | finishing => rfl
  | reserving =>
      cases reply with
      | none => cases returned
      | some err =>
          simp only [Stage.afterReply] at returned
          split at returned <;> cases returned
  | charging => cases reply <;> cases returned
  | compensating refused => cases refused <;> cases returned
  | creating => cases isActive
  | replaying => cases isActive
  | returned _ => cases isActive
  | _ => cases returned

theorem paid_of_no_commit {outcome : Outcome} {performed : Performed}
    (ledger : Ledger state) (trail : Trail state)
    (running : state.runs.get id = some run)
    (inserted : run.entry id .inserted ∈ state.log)
    (reaches :
      ∀ {reason answer}, run.stage = .failing reason answer →
        outcome ≠ .failed ∧ rowId ∉ state.db.outbox.map Outbox.Row.id)
    (done : run.perform state.db outcome rowId now = some performed)
    (noAction : performed.action = none) : Paid state.log id := by
  -- the run had logged its insertion, so it was not creating
  have born := ledger.born inserted running
  have performs := done
  unfold Run.perform at performs
  cases stage : run.stage with
  | creating =>
      rw [stage] at born
      cases born
  | replaying =>
      rw [stage] at born
      cases born
  | failing reason answer =>
      have isActive : run.stage.active = true := by
        rw [stage]
        rfl
      obtain ⟨row, stored, same, _⟩ :=
        ledger.books.owned.active running isActive
      have known : run.orderId ∈ state.db.orders.map OrderRow.id := by
        rw [← same]
        exact List.mem_map_of_mem stored
      obtain ⟨reached, fresh⟩ := reaches stage
      exact absurd noAction (perform_of_failing stage reached known fresh done)
  | finishing =>
      have paying : run.stage.paying = true := by
        rw [stage]
        rfl
      exact paid_of_paying trail running paying
  | _ =>
      rw [stage] at performs
      cases performs

theorem compensated_of_transition (ledger : Ledger state) (trail : Trail state)
    (gentle : Gentle state label) (compensated : Compensated state)
    (transition : Transition state label next) : Compensated next := by
  intro id run result found returned inserted
  have kept :
      Recorded state run.orderId ∨ Paid state.log id →
        Recorded next run.orderId ∨ Paid next.log id := by
    intro before
    rcases before with recorded | isPaid
    · exact Or.inl (recorded_of_transition ledger.books transition recorded)
    · exact Or.inr (paid_of_transition transition isPaid)
  cases transition with
  | refused => exact kept (compensated id run result found returned inserted)
  | started =>
      rcases Registry.cases_of_get_launch found with ⟨_, rfl⟩ | stored
      · cases returned
      · exact kept (compensated id run result stored returned inserted)
  | @performed other outcome rowId now acting performed running done =>
      rcases Registry.cases_of_get_put found with ⟨rfl, rfl⟩ | ⟨notMe, stored⟩
      · obtain ⟨noLoss, reaches⟩ := gentle running
        have effect := effect_of_perform done
        generalize ends : performed = ended at effect
        cases effect with
        | inserted creating _ _ goes =>
            subst ends
            rcases goes with rfl | ⟨lost, _⟩
            · cases returned
            · exact absurd lost (noLoss creating)
        | duplicate =>
            subst ends
            cases returned
        | @moved _ status type reason _ _ _ _ closes committed =>
            subst ends
            left
            have settled := transition_ok committed
            have isActive := closes.closing.2
            obtain ⟨row, stored, same, _⟩ :=
              ledger.books.owned.active running isActive
            refine ⟨settle status type reason row,
              settled.mem_orders.mpr ⟨row, stored, if_pos same⟩, same, ?_⟩
            cases closes <;> exact fun pending => nomatch pending
        | nothing =>
            have noAction : performed.action = none := by rw [ends]
            subst ends
            have isPaid : Paid state.log id :=
              paid_of_no_commit ledger trail running inserted
                (fun failing => reaches failing) done noAction
            exact Or.inr isPaid
      · have old : run.entry id .inserted ∈ state.log := by
          rcases List.mem_append.mp inserted with new | old
          · obtain ⟨action, _, equal⟩ := List.mem_map.mp new
            exact absurd (congrArg Entry.run equal).symm notMe
          · exact old
        exact kept (compensated id run result stored returned old)
  | @invoked other acting call running calls =>
      rcases Registry.cases_of_get_put found with ⟨rfl, rfl⟩ | ⟨notMe, stored⟩
      · have isActive := Stage.active_of_call calls
        have stage : acting.stage = .returned result := returned
        rw [stage] at isActive
        cases isActive
      · rcases List.mem_cons.mp inserted with equal | old
        · exact absurd (congrArg Entry.run equal) notMe
        · exact kept (compensated id run result stored returned old)
  | @answered other reply acting call running calls =>
      rcases Registry.cases_of_get_put found with ⟨rfl, rfl⟩ | ⟨notMe, stored⟩
      · have isActive := Stage.active_of_call calls
        have paying := Stage.returned_afterReply isActive returned
        exact kept (Or.inr (paid_of_paying trail running paying))
      · rcases List.mem_cons.mp inserted with equal | old
        · exact absurd (congrArg Entry.run equal) notMe
        · exact kept (compensated id run result stored returned old)
  | crashed =>
      have stored := (Registry.get_of_get_finish found).2
      exact kept (compensated id run result stored returned inserted)

theorem Stage.exposed_afterReply {stage : Stage} {reply : Option Status}
    (exposed : (stage.afterReply reply).exposed = true) :
    stage.exposed = true := by
  cases stage with
  | confirming => cases reply <;> cases exposed
  | creating => cases exposed
  | replaying => cases exposed
  | finishing => cases exposed
  | returned _ => cases exposed
  | _ => rfl

/-- A run comes into an exposed stage by its insertion, and no database
operation leaves it in one. -/
theorem exposed_of_transition (transition : Transition state label next)
    (found : next.runs.get id = some run) (exposed : run.stage.exposed = true) :
    (∃ old, state.runs.get id = some old ∧ old.stage.exposed = true ∧
        ∀ outcome rowId now, label ≠ .database id outcome rowId now) ∨
      ∃ old outcome rowId now, state.runs.get id = some old ∧
        old.stage = .creating ∧ outcome ≠ .failed ∧
        label = .database id outcome rowId now := by
  cases transition with
  | refused => exact Or.inl ⟨run, found, exposed, fun _ _ _ => nofun⟩
  | started =>
      rcases Registry.cases_of_get_launch found with ⟨_, rfl⟩ | stored
      · cases exposed
      · exact Or.inl ⟨run, stored, exposed, fun _ _ _ => nofun⟩
  | @performed other outcome rowId now acting performed running done =>
      rcases Registry.cases_of_get_put found with ⟨rfl, rfl⟩ | ⟨notMe, stored⟩
      · cases effect_of_perform done with
        | inserted creating reached =>
            exact Or.inr
              ⟨acting, outcome, rowId, now, running, creating, reached, rfl⟩
        | moved => cases exposed
        | duplicate => cases exposed
        | nothing => cases exposed
      · refine Or.inl ⟨run, stored, exposed, ?_⟩
        rintro _ _ _ equal
        cases equal
        exact notMe rfl
  | @invoked other acting call running calls =>
      rcases Registry.cases_of_get_put found with ⟨rfl, rfl⟩ | ⟨_, stored⟩
      · exact Or.inl ⟨acting, running, exposed, fun _ _ _ => nofun⟩
      · exact Or.inl ⟨run, stored, exposed, fun _ _ _ => nofun⟩
  | @answered other reply acting call running calls =>
      rcases Registry.cases_of_get_put found with ⟨rfl, rfl⟩ | ⟨_, stored⟩
      · have before := Stage.exposed_afterReply exposed
        exact Or.inl ⟨acting, running, before, fun _ _ _ => nofun⟩
      · exact Or.inl ⟨run, stored, exposed, fun _ _ _ => nofun⟩
  | crashed =>
      have stored := (Registry.get_of_get_finish found).2
      exact Or.inl ⟨run, stored, exposed, fun _ _ _ => nofun⟩

end Service

/-- No context has ended under an exposed run. -/
def Session.Spared (session : Session uuid) : Prop :=
  ∀ id run, session.service.runs.get id = some run → id ∈ session.ended →
    run.stage.exposed = false

structure Sheltered (session : Session uuid) : Prop where
  ledger : Ledger session.service
  spared : session.Spared
  trail : Trail session.service
  compensated : Compensated session.service

theorem sheltered_empty : Sheltered (Session.empty uuid) where
  ledger := ledger_empty
  spared := by
    intro id run found
    cases found
  trail := trail_empty
  compensated := by
    intro id run result found
    cases found

section Sheltered

variable {next : Session uuid} {move : Move} {label : Label}

theorem gentle_of_permits (spared : session.Spared)
    (permitted : session.permits label = true) :
    Gentle session.service label := by
  cases label with
  | database id outcome rowId now =>
      intro run running
      simp only [Session.permits] at permitted
      split at permitted
      · rename_i isEnded
        have failed : outcome = .failed := of_decide_eq_true permitted
        refine ⟨fun _ => by rw [failed]; decide, ?_⟩
        intro reason answer failing
        have notExposed := spared id run running isEnded
        rw [failing] at notExposed
        cases notExposed
      · obtain ⟨isDone, unused⟩ := Bool.and_eq_true_iff.mp permitted
        have done : outcome = .done := of_decide_eq_true isDone
        refine ⟨fun _ => by rw [done]; decide, ?_⟩
        intro reason answer _
        exact ⟨by rw [done]; decide, of_decide_eq_true unused⟩
  | _ => trivial

theorem gentle_of_cut {run : Nat} (cut : session.cuts run label = true)
    (survives :
      ∀ value ∈ session.service.runs.get run, value.survives label = true) :
    Gentle session.service label := by
  cases label with
  | database id outcome rowId now =>
      intro value running
      obtain ⟨isCut, unused⟩ := Bool.and_eq_true_iff.mp cut
      obtain ⟨same, _⟩ := of_decide_eq_true isCut
      subst same
      have survived := survives value running
      unfold Run.survives at survived
      constructor
      · intro creating
        rw [creating] at survived
        exact of_decide_eq_true survived
      · intro reason answer failing
        rw [failing] at survived
        have lost : outcome = .lost := of_decide_eq_true survived
        exact ⟨by rw [lost]; decide, of_decide_eq_true unused⟩
  | _ => trivial

theorem spared_of_permits {service : State uuid} (spared : session.Spared)
    (permitted : session.permits label = true)
    (transition : Transition session.service label service) :
    Session.Spared { session with service := service } := by
  intro id run found isEnded
  apply Bool.eq_false_iff.mpr
  intro exposed
  rcases exposed_of_transition transition found exposed with
    ⟨old, stored, wasExposed, _⟩ | ⟨_, outcome, _, _, _, _, reached, rfl⟩
  · rw [spared id old stored isEnded] at wasExposed
    cases wasExposed
  · have member : id ∈ session.ended := isEnded
    simp only [Session.permits, if_pos member] at permitted
    exact reached (of_decide_eq_true permitted)

theorem spared_of_cut {cutRun : Nat} {service : State uuid}
    (spared : session.Spared) (cut : session.cuts cutRun label = true)
    (survives :
      ∀ value ∈ session.service.runs.get cutRun, value.survives label = true)
    (transition : Transition session.service label service) :
    Session.Spared ⟨service, cutRun :: session.ended⟩ := by
  intro id run found isEnded
  apply Bool.eq_false_iff.mpr
  intro exposed
  rcases exposed_of_transition transition found exposed with
    ⟨old, stored, wasExposed, noDatabase⟩ |
      ⟨old, outcome, _, _, stored, creating, reached, rfl⟩
  · rcases List.mem_cons.mp isEnded with rfl | before
    · have survived := survives old stored
      cases label with
      | database other outcome rowId now =>
          have isCut := (Bool.and_eq_true_iff.mp cut).1
          have same := (of_decide_eq_true isCut).1
          subst same
          exact noDatabase outcome rowId now rfl
      | answer other reply =>
          rw [Run.survives_answer, wasExposed] at survived
          cases survived
      | start => cases cut
      | invoke => cases cut
      | crash => cases cut
    · rw [spared id old stored before] at wasExposed
      cases wasExposed
  · -- an insertion that is cut off and survives has not taken effect
    have isCut := (Bool.and_eq_true_iff.mp cut).1
    obtain ⟨same, notDone⟩ := of_decide_eq_true isCut
    subst same
    have survived := survives old stored
    unfold Run.survives at survived
    rw [creating] at survived
    have notLost : outcome ≠ .lost := of_decide_eq_true survived
    cases outcome with
    | done => exact notDone rfl
    | failed => exact reached rfl
    | lost => exact notLost rfl

theorem sheltered_of_progress (sheltered : Sheltered session)
    (spares : Spares session move) (progress : Progress session move next) :
    Sheltered next := by
  cases progress with
  | proceeded permitted transition =>
      have gentle := gentle_of_permits sheltered.spared permitted
      exact ⟨ledger_of_transition sheltered.ledger transition,
        spared_of_permits sheltered.spared permitted transition,
        trail_of_transition sheltered.ledger sheltered.trail transition,
        compensated_of_transition sheltered.ledger sheltered.trail gentle
          sheltered.compensated transition⟩
  | cancelled running =>
      refine ⟨sheltered.ledger, ?_, sheltered.trail, sheltered.compensated⟩
      intro id run found isEnded
      rcases List.mem_cons.mp isEnded with rfl | before
      · exact spares run found
      · exact sheltered.spared id run found before
  | interrupted _ cut transition =>
      have gentle := gentle_of_cut cut spares
      exact ⟨ledger_of_transition sheltered.ledger transition,
        spared_of_cut sheltered.spared cut spares transition,
        trail_of_transition sheltered.ledger sheltered.trail transition,
        compensated_of_transition sheltered.ledger sheltered.trail gentle
          sheltered.compensated transition⟩

end Sheltered

/-- In a session whose moves all spare the runs, every run that returns after
inserting its order has recorded its end or was told of a payment. -/
theorem compensation_survives_when_spared
    {moves : List Move} {session : Session uuid}
    (spares : EveryStep Session.step Spares (Session.empty uuid) moves)
    (ran : run Session.step (Session.empty uuid) moves = some session) :
    Compensated session.service := by
  have sheltered : Sheltered session :=
    invariant_of_restricted_run
      (fun kept allowed stepped =>
        sheltered_of_progress kept allowed (progress_of_step stepped))
      sheltered_empty spares ran
  exact sheltered.compensated

-- The seats are refused, the order is recorded as failed, and the caller is
-- gone before it hears of it.
private def refusedMoves : List Move :=
  [.proceed (.start (buyRequest "") 9), .proceed (.database 0 .done 20 0),
    .proceed (.invoke 0),
    .proceed (.answer 0 (some (Status.error .failedPrecondition "taken"))),
    .proceed (.database 0 .done 21 0), .cancel 0]

theorem compensation_survives_when_spared_after_a_refusal :
    EveryStep Session.step Spares (Session.empty standardText)
        refusedMoves ∧
      ∃ (session : Session standardText) (run : Run standardText),
        Library.run Session.step (Session.empty standardText) refusedMoves =
            some session ∧
          session.service.runs.get 0 = some run ∧
          (Recorded session.service run.orderId ∨
            Paid session.service.log 0) := by
  have spares :
      EveryStep Session.step Spares (Session.empty standardText)
        refusedMoves := by
    decide +kernel
  have ends :
      (run Session.step (Session.empty standardText) refusedMoves).any
          (fun session =>
            (session.service.runs.get 0).any fun run =>
              decide
                (run.stage = .returned (.error errSeatsUnavailable) ∧
                  run.entry 0 .inserted ∈ session.service.log)) = true := by
    decide +kernel
  obtain ⟨session, ran, checked⟩ := (Option.any_eq_true _ _).mp ends
  obtain ⟨run, found, facts⟩ := (Option.any_eq_true _ _).mp checked
  obtain ⟨returned, inserted⟩ := of_decide_eq_true facts
  have compensated := compensation_survives_when_spared spares ran
  exact ⟨spares, session, run, ran, found,
    compensated 0 run _ found returned inserted⟩

-- The deadline passes while the charge is under way.  The release and the
-- transition to `FAILED` run under the same context, so the order stays
-- `PENDING`.
private def expiredStatus : Status :=
  Status.error .deadlineExceeded "context deadline exceeded"

private def expiredMoves : List Move :=
  [.proceed (.start (buyRequest "") 9), .proceed (.database 0 .done 20 0),
    .proceed (.invoke 0), .proceed (.answer 0 none),
    .proceed (.invoke 0), .interrupt 0 (.answer 0 (some expiredStatus)),
    .proceed (.invoke 0), .proceed (.answer 0 (some expiredStatus)),
    .proceed (.database 0 .failed 21 0)]

theorem expired_deadline_strands_the_order :
    ∃ session : Session standardText,
      run Session.step (Session.empty standardText) expiredMoves =
          some session ∧
        ¬ Compensated session.service := by
  have ends :
      (run Session.step (Session.empty standardText) expiredMoves).any
          (fun session =>
            ((session.service.runs.get 0).any fun run =>
              decide
                (run.stage = .returned (.error errServiceUnavailable) ∧
                  run.entry 0 .inserted ∈ session.service.log)) &&
              session.service.db.orders.all (fun row =>
                decide (row.status = .pending)) &&
              session.service.log.all (fun entry => !entry.isPayment)) =
        true := by
    decide +kernel
  obtain ⟨session, ran, checked⟩ := (Option.any_eq_true _ _).mp ends
  obtain ⟨checked, unpaid⟩ := Bool.and_eq_true_iff.mp checked
  obtain ⟨checked, pending⟩ := Bool.and_eq_true_iff.mp checked
  obtain ⟨run, found, facts⟩ := (Option.any_eq_true _ _).mp checked
  obtain ⟨returned, inserted⟩ := of_decide_eq_true facts
  refine ⟨session, ran, ?_⟩
  intro compensated
  rcases compensated 0 run _ found returned inserted with
    ⟨row, stored, _, final⟩ | ⟨entry, member, _, payment⟩
  · have isPending := List.all_eq_true.mp pending row stored
    exact final (of_decide_eq_true isPending)
  · have isUnpaid := List.all_eq_true.mp unpaid entry member
    rw [payment] at isUnpaid
    cases isUnpaid

end TicketWave.Order
