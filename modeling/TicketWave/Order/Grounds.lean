import TicketWave.Order.Trail

/-! # Why an order failed -/

namespace TicketWave.Order

open Library

variable {uuid : UuidText}

/-- A charge of the order that the run had sent was refused. -/
def Refused
    (uuid : UuidText) (log : List Entry) (id : Nat) (order : UUID) : Prop :=
  ∃ entry ∈ log, entry.run = id ∧
    ∃ req err, entry.action = .received (.charge req) (some err) ∧
      err.isRefusal = true ∧ uuid.column req.orderId = some order

/-- A charge that the run had sent ended with an error that is no refusal. -/
def Broke (log : List Entry) (id : Nat) : Prop :=
  ∃ entry ∈ log, entry.run = id ∧
    ∃ req err, entry.action = .received (.charge req) (some err) ∧
      err.isRefusal = false

/-- `Broke`, read off one entry. -/
def Entry.isBroken (entry : Entry) : Bool :=
  match entry.action with
  | .received (.charge _) (some err) => !err.isRefusal
  | _ => false

theorem Entry.isBroken_iff {entry : Entry} :
    entry.isBroken = true ↔
      ∃ req err, entry.action = .received (.charge req) (some err) ∧
        err.isRefusal = false := by
  unfold Entry.isBroken
  constructor
  · intro broken
    split at broken
    · rename_i req err action
      exact ⟨req, err, action, Bool.not_eq_true' _ ▸ broken⟩
    · cases broken
  · rintro ⟨req, err, action, noRefusal⟩
    rw [action]
    exact Bool.not_eq_true' _ ▸ noRefusal

instance (log : List Entry) (id : Nat) : Decidable (Broke log id) :=
  decidable_of_iff
    (∃ entry ∈ log, entry.run = id ∧ entry.isBroken = true)
    (exists_congr fun _ =>
      and_congr_right fun _ => and_congr_right fun _ => Entry.isBroken_iff)

/-- What the log shows when the run gives up for the reason. -/
def Grounds (uuid : UuidText) (log : List Entry) (id : Nat) (order : UUID) :
    OrderFailureReason → Prop
  | .seatsUnavailable => charges log id = 0
  | .paymentDeclined => Refused uuid log id order
  | .serviceUnavailable => charges log id = 0 ∨ Broke log id
  | .unspecified => False

variable {log longer : List Entry} {id : Nat} {order : UUID} {run : Run uuid}

theorem Refused.mono (grows : ∀ entry ∈ log, entry ∈ longer)
    (refused : Refused uuid log id order) : Refused uuid longer id order := by
  obtain ⟨entry, logged, facts⟩ := refused
  exact ⟨entry, grows entry logged, facts⟩

theorem Broke.mono (grows : ∀ entry ∈ log, entry ∈ longer)
    (broke : Broke log id) : Broke longer id := by
  obtain ⟨entry, logged, facts⟩ := broke
  exact ⟨entry, grows entry logged, facts⟩

theorem Grounds.mono {reason : OrderFailureReason}
    (grows : ∀ entry ∈ log, entry ∈ longer)
    (sameCharges : charges longer id = charges log id)
    (grounds : Grounds uuid log id order reason) :
    Grounds uuid longer id order reason := by
  cases reason with
  | seatsUnavailable => exact sameCharges.trans grounds
  | paymentDeclined => exact Refused.mono grows grounds
  | serviceUnavailable =>
      rcases grounds with uncharged | broke
      · exact Or.inl (sameCharges.trans uncharged)
      · exact Or.inr (Broke.mono grows broke)
  | unspecified => exact grounds

/-- An answer that blames nothing on the seats, the payment or a service. -/
def Unexplained (answer : Status) : Prop :=
  answer = errNotFinalized ∨ ∃ text, answer = Status.wrapped text

/-- The answer is that of a reason, and the log has grounds for it. -/
def Explained (uuid : UuidText) (log : List Entry) (id : Nat) (order : UUID)
    (answer : Status) : Prop :=
  ∃ reason, answer = failureFor (some (reasonLabel reason)) ∧
    Grounds uuid log id order reason

theorem Explained.mono {answer : Status} (grows : ∀ entry ∈ log, entry ∈ longer)
    (sameCharges : charges longer id = charges log id)
    (explained : Explained uuid log id order answer) :
    Explained uuid longer id order answer := by
  obtain ⟨reason, isAnswer, grounds⟩ := explained
  exact ⟨reason, isAnswer, grounds.mono grows sameCharges⟩

/-- What the log shows of a run at the stages where it gives up.  A run that
has not inserted its order may return the answer of another run. -/
def Excused (uuid : UuidText) (log : List Entry) (id : Nat) (order : UUID) :
    Stage → Prop
  | .abandoning => charges log id = 0
  | .compensating true => Refused uuid log id order
  | .compensating false => Broke log id
  | .failing reason answer =>
      answer = failureFor (some (reasonLabel reason)) ∧
        Grounds uuid log id order reason
  | .returned (.error answer) =>
      (∃ entry ∈ log, entry.run = id) →
        Unexplained answer ∨ Explained uuid log id order answer
  | _ => True

/-- The stages at which the log has to show something. -/
def Stage.gaveUp : Stage → Bool
  | .abandoning => true
  | .compensating _ => true
  | .failing _ _ => true
  | .returned _ => true
  | _ => false

theorem excused_of_not_gaveUp {stage : Stage} (goesOn : stage.gaveUp = false)
    (log : List Entry) (id : Nat) (order : UUID) :
    Excused uuid log id order stage := by
  cases stage with
  | abandoning => cases goesOn
  | compensating refused => cases goesOn
  | failing reason answer => cases goesOn
  | returned result => cases goesOn
  | _ => trivial

theorem Run.uncharged_of_gaveUp (gaveUp : run.stage.gaveUp = true) :
    run.uncharged = false := by
  unfold Run.uncharged
  cases stage : run.stage <;> rw [stage] at gaveUp <;>
    first | rfl | cases gaveUp

/-- A run that has given up keeps what it rests on. -/
theorem Excused.mono {stage : Stage} (grows : ∀ entry ∈ log, entry ∈ longer)
    (sameCharges : charges longer id = charges log id)
    (sameRun : ∀ entry ∈ longer, entry.run = id →
      stage.active = true ∨ entry ∈ log)
    (excused : Excused uuid log id order stage) :
    Excused uuid longer id order stage := by
  cases stage with
  | abandoning => exact sameCharges.trans excused
  | compensating refused =>
      cases refused with
      | true => exact Refused.mono grows excused
      | false => exact Broke.mono grows excused
  | failing reason answer => exact ⟨excused.1, excused.2.mono grows sameCharges⟩
  | returned result =>
      cases result with
      | ok response => trivial
      | error answer =>
          rintro ⟨entry, logged, mine⟩
          have old : entry ∈ log := by
            rcases sameRun entry logged mine with isActive | old
            · cases isActive
            · exact old
          rcases excused ⟨entry, old, mine⟩ with silent | explained
          · exact Or.inl silent
          · exact Or.inr (explained.mono grows sameCharges)
  | _ => trivial

theorem stage_of_perform {db : Db} {outcome : Outcome} {rowId : UUID}
    {now : Nat} {performed : Performed}
    (done : run.perform db outcome rowId now = some performed) :
    performed.stage.gaveUp = false ∨
      (∃ text, performed.stage = .returned (.error (Status.wrapped text))) ∨
      (∃ response, performed.stage = .returned (.ok response)) ∨
      (run.stage = .replaying ∧ performed.action = none ∧
        ∃ result, performed.stage = .returned result ∧
          (result = replay uuid db run.request.req ∨
            result = .error errLookUp)) ∨
      ∃ reason answer, run.stage = .failing reason answer ∧
        performed.stage = .returned (.error answer) := by
  unfold Run.perform at done
  cases stage : run.stage with
  | creating =>
      simp only [stage] at done
      cases done
      cases error : (run.create db outcome rowId now).error with
      | none => exact Or.inl (by simp [Stage.afterCreate, Stage.gaveUp])
      | some err =>
          by_cases duplicate : isDuplicateKey err = true
          · exact Or.inl (by simp [Stage.afterCreate, duplicate, Stage.gaveUp])
          · exact Or.inr
              (Or.inl ⟨err.message, by simp [Stage.afterCreate, duplicate]⟩)
  | replaying =>
      simp only [stage] at done
      cases done
      refine Or.inr (Or.inr (Or.inr (Or.inl ⟨rfl, rfl, _, rfl, ?_⟩)))
      by_cases reached : outcome = .done
      · exact Or.inl (if_pos reached)
      · exact Or.inr (if_neg reached)
  | failing reason answer =>
      simp only [stage] at done
      cases done
      exact Or.inr (Or.inr (Or.inr (Or.inr ⟨reason, answer, rfl, rfl⟩)))
  | finishing =>
      simp only [stage] at done
      cases done
      cases error :
          (run.transition db .confirmed .confirmed .unspecified outcome rowId
            now).error with
      | none => exact Or.inr (Or.inr (Or.inl ⟨_, rfl⟩))
      | some err => exact Or.inr (Or.inl ⟨_, rfl⟩)
  | _ =>
      simp only [stage] at done
      cases done

/-- A reply takes a run to a stage that the log explains. -/
theorem excused_afterReply {call : Call} {reply : Option Status}
    (calls : run.call = some call)
    (uncharged : run.stage = .reserving → charges log id = 0)
    (excused : Excused uuid log id run.orderId run.stage) :
    Excused uuid (run.entry id (.received call reply) :: log) id run.orderId
      (run.stage.afterReply reply) := by
  have grows :
      ∀ entry ∈ log, entry ∈ run.entry id (.received call reply) :: log :=
    fun entry member => List.mem_cons_of_mem _ member
  have sameCharges :
      charges (run.entry id (.received call reply) :: log) id =
        charges log id :=
    charges_cons_of_other log fun _ => rfl
  unfold Run.call at calls
  cases stage : run.stage with
  | reserving =>
      have none := sameCharges.trans (uncharged stage)
      cases reply with
      | none => trivial
      | some err =>
          by_cases refusal : err.isRefusal = true
          · rw [Stage.afterReply, if_pos refusal]
            exact ⟨rfl, none⟩
          · rw [Stage.afterReply, if_neg refusal]
            exact none
  | abandoning =>
      rw [stage] at excused
      exact ⟨rfl, Or.inl (sameCharges.trans excused)⟩
  | charging =>
      rw [stage] at calls
      cases calls
      cases reply with
      | none => trivial
      | some err =>
          cases refusal : err.isRefusal with
          | true =>
              rw [Stage.afterReply, refusal]
              exact ⟨_, List.mem_cons_self, rfl, _, err, rfl, refusal,
                uuid.column_string run.orderId⟩
          | false =>
              rw [Stage.afterReply, refusal]
              exact ⟨_, List.mem_cons_self, rfl, _, err, rfl, refusal⟩
  | compensating refused =>
      rw [stage] at excused
      cases refused with
      | true => exact ⟨rfl, Refused.mono grows excused⟩
      | false => exact ⟨rfl, Or.inr (Broke.mono grows excused)⟩
  | confirming =>
      cases reply with
      | none => trivial
      | some err => exact fun _ => Or.inl (Or.inl rfl)
  | _ =>
      rw [stage] at calls
      cases calls

/-- The run of the order is over with charging and gave up for the reason. -/
structure Closed
    (state : State uuid) (id : Nat) (order : UUID)
    (reason : OrderFailureReason) : Prop where
  logged : ∃ entry ∈ state.log, entry.run = id ∧ entry.orderId = order
  done : ∀ run, state.runs.get id = some run → run.uncharged = false
  grounds : Grounds uuid state.log id order reason

theorem Closed.uncharged {state : State uuid}
    (closed : Closed state id order .serviceUnavailable)
    (unbroken : ¬ Broke state.log id) :
    Closed state id order .seatsUnavailable := by
  rcases closed.grounds with uncharged | broke
  · exact ⟨closed.logged, closed.done, uncharged⟩
  · exact absurd broke unbroken

structure Accountable (state : State uuid) : Prop where
  runs :
    ∀ {id run}, state.runs.get id = some run →
      Excused uuid state.log id run.orderId run.stage
  events :
    ∀ event ∈ state.db.outbox, event.payload.type = .failed →
      ∃ id, Closed state id event.key event.payload.failureReason

theorem accountable_empty : Accountable (State.empty uuid) where
  runs := nofun
  events := nofun

section Step

variable {state next : State uuid} {label : Label} {id : Nat} {run : Run uuid}

theorem charges_kept (transition : Transition state label next)
    (done : ∀ run, state.runs.get id = some run → run.uncharged = false) :
    charges next.log id = charges state.log id := by
  rcases charges_of_transition transition with
    same | ⟨_, run, running, uncharged, _⟩
  · exact same
  · rw [done run running] at uncharged
    cases uncharged

theorem closed_of_transition {order : UUID} {reason : OrderFailureReason}
    (ledger : Ledger state) (transition : Transition state label next)
    (closed : Closed state id order reason) : Closed next id order reason := by
  obtain ⟨entry, logged, mine, about⟩ := closed.logged
  have grows : ∀ other ∈ state.log, other ∈ next.log :=
    fun other member => mem_log_of_transition transition member
  refine ⟨⟨entry, grows entry logged, mine, about⟩, ?_,
    closed.grounds.mono grows (charges_kept transition closed.done)⟩
  intro run found
  cases stillCharges : run.uncharged with
  | false => rfl
  | true =>
      rcases uncharged_of_transition transition found stillCharges with
        isNew | ⟨old, stored, wasUncharged⟩
      · have bound := ledger.bounded entry logged
        omega
      · rw [closed.done old stored] at wasUncharged
        cases wasUncharged

theorem excused_of_bystander (accountable : Accountable state)
    (transition : Transition state label next)
    (before : state.runs.get id = some run)
    (silent :
      ∀ entry ∈ next.log, entry.run = id →
        run.stage.active = true ∨ entry ∈ state.log) :
    Excused uuid next.log id run.orderId run.stage := by
  have grows : ∀ other ∈ state.log, other ∈ next.log :=
    fun other member => mem_log_of_transition transition member
  cases gaveUp : run.stage.gaveUp with
  | false => exact excused_of_not_gaveUp gaveUp _ _ _
  | true =>
      apply Excused.mono grows _ silent (accountable.runs before)
      apply charges_kept transition
      intro other found
      rw [before] at found
      cases found
      exact Run.uncharged_of_gaveUp gaveUp

theorem excused_of_performed {outcome : Outcome} {rowId : UUID} {now : Nat}
    {performed : Performed} (ledger : Ledger state)
    (accountable : Accountable state) (running : state.runs.get id = some run)
    (done : run.perform state.db outcome rowId now = some performed) :
    Excused uuid (performed.action.toList.map (run.entry id) ++ state.log) id
      run.orderId performed.stage := by
  have sameCharges :
      charges (performed.action.toList.map (run.entry id) ++ state.log) id =
        charges state.log id := by
    cases effect_of_perform done with
    | inserted => exact charges_cons_of_other state.log fun _ => rfl
    | moved => exact charges_cons_of_other state.log fun _ => rfl
    | duplicate => rfl
    | nothing => rfl
  rcases stage_of_perform done with
    goesOn | ⟨text, isWrapped⟩ | ⟨response, isOk⟩ |
      ⟨replaying, noAction, result, isResult, _⟩ |
      ⟨reason, answer, failing, isAnswer⟩
  · exact excused_of_not_gaveUp goesOn _ _ _
  · rw [isWrapped]
    exact fun _ => Or.inl (Or.inr ⟨text, rfl⟩)
  · rw [isOk]
    trivial
  · rw [isResult, noAction]
    cases result with
    | ok response => trivial
    | error answer =>
        -- nothing was logged for a run that replays
        rintro ⟨entry, logged, rfl⟩
        have born := ledger.born logged running
        rw [replaying] at born
        cases born
  · have excused := accountable.runs running
    rw [failing] at excused
    rw [isAnswer]
    intro _
    refine Or.inr ⟨reason, excused.1, excused.2.mono ?_ sameCharges⟩
    exact fun entry member => List.mem_append_right _ member

theorem closed_of_failing {reason : OrderFailureReason} {answer : Status}
    (ledger : Ledger state) (accountable : Accountable state)
    (running : state.runs.get id = some run)
    (failing : run.stage = .failing reason answer) :
    Closed state id run.orderId reason := by
  have isActive : run.stage.active = true := by
    rw [failing]
    rfl
  have excused := accountable.runs running
  rw [failing] at excused
  refine ⟨⟨_, ledger.active running isActive, rfl, rfl⟩, ?_, excused.2⟩
  intro other found
  rw [running] at found
  cases found
  apply Run.uncharged_of_gaveUp
  rw [failing]
  rfl

theorem events_of_transition (ledger : Ledger state)
    (accountable : Accountable state) (transition : Transition state label next)
    {event : Outbox.Row OrderEvent} (member : event ∈ next.db.outbox)
    (failed : event.payload.type = .failed) :
    ∃ id, Closed next id event.key event.payload.failureReason := by
  have before :
      ∃ id, Closed state id event.key event.payload.failureReason := by
    cases transition with
    | @performed id outcome rowId now run performed running done =>
        cases effect_of_perform done with
        | inserted _ _ committed =>
            obtain ⟨row, created⟩ := createOrder_ok committed
            rw [created.next] at member
            rcases List.mem_append.mp member with old | new
            · exact accountable.events event old failed
            · rw [List.mem_singleton.mp new] at failed
              cases failed
        | moved closes committed =>
            rw [(transition_ok committed).next] at member
            rcases List.mem_append.mp member with old | new
            · exact accountable.events event old failed
            · rw [List.mem_singleton.mp new] at failed ⊢
              cases closes with
              | confirmed stage => cases failed
              | failed stage =>
                  exact ⟨id, closed_of_failing ledger accountable running stage⟩
        | duplicate => exact accountable.events event member failed
        | nothing => exact accountable.events event member failed
    | _ => exact accountable.events event member failed
  obtain ⟨id, closed⟩ := before
  exact ⟨id, closed_of_transition ledger transition closed⟩

theorem accountable_of_transition (ledger : Ledger state)
    (accountable : Accountable state)
    (transition : Transition state label next) : Accountable next := by
  refine ⟨?_, fun _ member failed =>
    events_of_transition ledger accountable transition member failed⟩
  intro id run found
  have bystander :
      ∀ {old : Run uuid}, state.runs.get id = some old →
        (∀ entry ∈ next.log, entry.run = id →
          old.stage.active = true ∨ entry ∈ state.log) →
        Excused uuid next.log id old.orderId old.stage :=
    fun before silent =>
      excused_of_bystander accountable transition before silent
  cases transition with
  | refused => exact bystander found fun _ member _ => Or.inr member
  | started =>
      rcases Registry.cases_of_get_launch found with ⟨_, rfl⟩ | stored
      · trivial
      · exact bystander stored fun _ member _ => Or.inr member
  | @performed other outcome rowId now acting performed running done =>
      rcases Registry.cases_of_get_put found with ⟨rfl, rfl⟩ | ⟨notMe, stored⟩
      · exact excused_of_performed ledger accountable running done
      · apply bystander stored
        intro entry member mine
        rcases List.mem_append.mp member with new | old
        · obtain ⟨action, _, rfl⟩ := List.mem_map.mp new
          exact absurd mine.symm notMe
        · exact Or.inr old
  | @invoked other acting call running calls unsent =>
      rcases Registry.cases_of_get_put found with ⟨rfl, rfl⟩ | ⟨notMe, stored⟩
      · have kept :=
          bystander running fun _ _ _ => Or.inl (Stage.active_of_call calls)
        exact kept
      · apply bystander stored
        intro entry member mine
        rcases List.mem_cons.mp member with rfl | old
        · exact absurd mine.symm notMe
        · exact Or.inr old
  | @answered other reply acting call running calls sent =>
      rcases Registry.cases_of_get_put found with ⟨rfl, rfl⟩ | ⟨notMe, stored⟩
      · apply excused_afterReply calls _ (accountable.runs running)
        intro reserving
        apply ledger.uncharged running
        unfold Run.uncharged
        rw [reserving]
      · apply bystander stored
        intro entry member mine
        rcases List.mem_cons.mp member with rfl | old
        · exact absurd mine.symm notMe
        · exact Or.inr old
  | crashed =>
      have stored := (Registry.get_of_get_finish found).2
      exact bystander stored fun _ member _ => Or.inr member

/-- A run that inserted its order and returned an error that it can explain is
closed. -/
theorem closed_of_returned {answer : Status} (accountable : Accountable state)
    (running : state.runs.get id = some run)
    (returned : run.stage = .returned (.error answer))
    (inserted : run.entry id .inserted ∈ state.log) :
    Unexplained answer ∨
      ∃ reason, answer = failureFor (some (reasonLabel reason)) ∧
        Closed state id run.orderId reason := by
  have excused := accountable.runs running
  rw [returned] at excused
  rcases excused ⟨_, inserted, rfl⟩ with
    silent | ⟨reason, isAnswer, grounds⟩
  · exact Or.inl silent
  · refine Or.inr ⟨reason, isAnswer, ⟨_, inserted, rfl, rfl⟩, ?_, grounds⟩
    intro other found
    rw [running] at found
    cases found
    apply Run.uncharged_of_gaveUp
    rw [returned]
    rfl

end Step

end TicketWave.Order
