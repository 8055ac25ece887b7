import TicketWave.Order.Lifecycle

/-!
# What the log of runs says

Whatever a run has done, it first inserted its order row; each row has one run
behind it; and no run has called `Charge` twice.
-/

namespace TicketWave.Order

open Library

variable {uuid : UuidText}

def Entry.isCharge (entry : Entry) : Bool :=
  match entry.action with
  | .invoked (.charge _) => true
  | _ => false

def charges (log : List Entry) (id : Nat) : Nat :=
  log.countP fun entry => decide (entry.run = id) && entry.isCharge

/-- The run can still come to send `Charge`. -/
def Run.uncharged (run : Run uuid) : Bool :=
  match run.stage with
  | .creating => true
  | .reserving => true
  | .charging => !run.sent
  | _ => false

/-- The run has not got past its insertion. -/
def Stage.unborn : Stage → Bool
  | .creating => true
  | .replaying => true
  | _ => false

variable {entry : Entry} {state next : State uuid} {label : Label}

theorem charges_cons_of_other {id : Nat} (log : List Entry)
    (other : entry.run = id → entry.isCharge = false) :
    charges (entry :: log) id = charges log id := by
  unfold charges
  rw [List.countP_cons_of_neg]
  intro counted
  simp only [Bool.and_eq_true, decide_eq_true_eq] at counted
  rw [other counted.1] at counted
  cases counted.2

theorem charges_cons_of_charge {id : Nat} (log : List Entry)
    (mine : entry.run = id) (isCharge : entry.isCharge = true) :
    charges (entry :: log) id = charges log id + 1 := by
  unfold charges
  rw [List.countP_cons_of_pos]
  simp [mine, isCharge]

/-- A step logs at most one thing, and only a run that inserts its row or has
it inserted logs anything. -/
theorem log_of_transition (transition : Transition state label next) :
    next.log = state.log ∨
      ∃ id run action, state.runs.get id = some run ∧
        next.log = run.entry id action :: state.log ∧
        (action = .inserted ∨ run.stage.active = true) := by
  cases transition with
  | @performed id outcome rowId now run performed running done =>
      cases effect_of_perform done with
      | inserted => exact Or.inr ⟨id, run, .inserted, running, rfl, Or.inl rfl⟩
      | moved closes =>
          have isActive := closes.closing.2
          exact Or.inr ⟨id, run, _, running, rfl, Or.inr isActive⟩
      | duplicate => exact Or.inl rfl
      | nothing => exact Or.inl rfl
  | @invoked id run call running calls _ =>
      have isActive := Stage.active_of_call calls
      exact Or.inr ⟨id, run, _, running, rfl, Or.inr isActive⟩
  | @answered id reply run call running calls _ =>
      have isActive := Stage.active_of_call calls
      exact Or.inr ⟨id, run, _, running, rfl, Or.inr isActive⟩
  | _ => exact Or.inl rfl

theorem mem_log_of_transition (transition : Transition state label next)
    (member : entry ∈ state.log) : entry ∈ next.log := by
  rcases log_of_transition transition with same | ⟨_, _, _, _, grown, _⟩
  · rw [same]
    exact member
  · rw [grown]
    exact List.mem_cons_of_mem _ member

/-- The entry is a committed write. -/
def Entry.wrote (entry : Entry) : Bool :=
  match entry.action with
  | .inserted => true
  | .moved _ _ => true
  | _ => false

/-- A step that changes the database logs a committed write of the run that
takes the step. -/
theorem write_is_logged (transition : Transition state label next)
    (changed : next.db ≠ state.db) :
    ∃ id outcome rowId now run action,
      label = .database id outcome rowId now ∧
        state.runs.get id = some run ∧
        next.log = run.entry id action :: state.log ∧
        (run.entry id action).wrote = true := by
  cases transition with
  | @performed id outcome rowId now run performed running done =>
      refine ⟨id, outcome, rowId, now, run, ?_⟩
      cases effect_of_perform done with
      | inserted => exact ⟨.inserted, rfl, running, rfl, rfl⟩
      | @moved _ status _ _ acknowledged =>
          exact ⟨.moved status acknowledged, rfl, running, rfl, rfl⟩
      | duplicate => exact absurd rfl changed
      | nothing => exact absurd rfl changed
  | _ => exact absurd rfl changed

structure Ledger (state : State uuid) : Prop where
  books : Books state
  bounded : ∀ entry ∈ state.log, entry.run < state.runs.next
  origin : ∀ entry ∈ state.log, { entry with action := .inserted } ∈ state.log
  stored :
    ∀ entry ∈ state.log, entry.action = .inserted →
      ∃ row ∈ state.db.orders, row.id = entry.orderId ∧
        Stores uuid entry.req row
  single :
    ∀ left ∈ state.log, ∀ right ∈ state.log,
      left.action = .inserted → right.action = .inserted →
        left.orderId = right.orderId → left.run = right.run
  active :
    ∀ {id run}, state.runs.get id = some run → run.stage.active = true →
      run.entry id .inserted ∈ state.log
  born :
    ∀ {entry run}, entry ∈ state.log →
      state.runs.get entry.run = some run → run.stage.unborn = false
  charges : ∀ id, Order.charges state.log id ≤ 1
  uncharged :
    ∀ {id run}, state.runs.get id = some run → run.uncharged = true →
      Order.charges state.log id = 0

theorem ledger_empty : Ledger (State.empty uuid) where
  books := books_empty
  bounded := by
    intro entry member
    cases member
  origin := by
    intro entry member
    cases member
  stored := by
    intro entry member
    cases member
  single := by
    intro left member
    cases member
  active := by
    intro id run found
    cases found
  born := by
    intro entry run member
    cases member
  charges := by
    intro id
    exact Nat.zero_le 1
  uncharged := by
    intro id run found
    cases found

section Step

variable {state next : State uuid} {label : Label}

theorem next_of_transition (transition : Transition state label next) :
    state.runs.next ≤ next.runs.next := by
  cases transition with
  | refused => exact Nat.le_succ _
  | started => exact Nat.le_succ _
  | _ => exact Nat.le_refl _

/-- An order row may be settled, but what it stores for a request stays. -/
theorem stored_of_transition {req : CreateOrderRequest} {row : OrderRow}
    (transition : Transition state label next) (member : row ∈ state.db.orders)
    (stores : Stores uuid req row) :
    ∃ kept ∈ next.db.orders, kept.id = row.id ∧ Stores uuid req kept := by
  cases transition with
  | @performed id outcome rowId now run performed running done =>
      cases effect_of_perform done with
      | inserted _ _ committed =>
          obtain ⟨new, created⟩ := createOrder_ok committed
          refine ⟨row, ?_, rfl, stores⟩
          rw [created.next]
          exact List.mem_append_left _ member
      | @moved _ status type reason _ _ _ _ _ committed =>
          have settled := transition_ok committed
          by_cases mine : row.id = run.orderId
          · refine ⟨settle status type reason row,
              settled.mem_orders.mpr ⟨row, member, if_pos mine⟩, rfl, ?_⟩
            exact ⟨stores.user, stores.eventId, stores.seats, stores.amount,
              stores.key⟩
          · exact ⟨row, settled.mem_orders.mpr ⟨row, member, if_neg mine⟩, rfl,
              stores⟩
      | duplicate => exact ⟨row, member, rfl, stores⟩
      | nothing => exact ⟨row, member, rfl, stores⟩
  | _ => exact ⟨row, member, rfl, stores⟩

theorem created_of_insertion {entry : Entry}
    (transition : Transition state label next) (new : entry ∈ next.log)
    (inserted : entry.action = .inserted) (notOld : entry ∉ state.log) :
    entry.orderId ∉ state.db.orders.map OrderRow.id ∧
      ∃ row ∈ next.db.orders, row.id = entry.orderId ∧
        Stores uuid entry.req row := by
  cases transition with
  | @performed id outcome rowId now run performed running done =>
      cases effect_of_perform done with
      | inserted _ _ committed =>
          obtain ⟨row, created⟩ := createOrder_ok committed
          rcases List.mem_cons.mp new with rfl | old
          · refine ⟨created.fresh, row, ?_, created.same, created.stores⟩
            rw [created.next]
            exact List.mem_append_right _ (List.mem_singleton_self row)
          · exact absurd old notOld
      | moved =>
          rcases List.mem_cons.mp new with rfl | old
          · cases inserted
          · exact absurd old notOld
      | duplicate => exact absurd new notOld
      | nothing => exact absurd new notOld
  | invoked =>
      rcases List.mem_cons.mp new with rfl | old
      · cases inserted
      · exact absurd old notOld
  | answered =>
      rcases List.mem_cons.mp new with rfl | old
      · cases inserted
      · exact absurd old notOld
  | _ => exact absurd new notOld

variable {id : Nat} {run : Run uuid}

/-- A run that is active after a step was active before it, on the same
order, or the step inserted its row. -/
theorem active_of_transition (transition : Transition state label next)
    (found : next.runs.get id = some run) (isActive : run.stage.active = true) :
    run.entry id .inserted ∈ next.log ∨
      ∃ old, state.runs.get id = some old ∧ old.stage.active = true ∧
        old.entry id .inserted = run.entry id .inserted := by
  cases transition with
  | refused => exact Or.inr ⟨run, found, isActive, rfl⟩
  | started =>
      rcases Registry.cases_of_get_launch found with ⟨_, rfl⟩ | stored
      · cases isActive
      · exact Or.inr ⟨run, stored, isActive, rfl⟩
  | performed running done =>
      rcases Registry.cases_of_get_put found with ⟨rfl, rfl⟩ | ⟨_, stored⟩
      · cases effect_of_perform done with
        | inserted => exact Or.inl (List.mem_cons_self)
        | moved => cases isActive
        | duplicate => cases isActive
        | nothing => cases isActive
      · exact Or.inr ⟨run, stored, isActive, rfl⟩
  | invoked running calls =>
      rcases Registry.cases_of_get_put found with ⟨rfl, rfl⟩ | ⟨_, stored⟩
      · exact Or.inr ⟨_, running, isActive, rfl⟩
      · exact Or.inr ⟨run, stored, isActive, rfl⟩
  | answered running calls =>
      rcases Registry.cases_of_get_put found with ⟨rfl, rfl⟩ | ⟨_, stored⟩
      · exact Or.inr ⟨_, running, Stage.active_of_call calls, rfl⟩
      · exact Or.inr ⟨run, stored, isActive, rfl⟩
  | crashed =>
      have stored := (Registry.get_of_get_finish found).2
      exact Or.inr ⟨run, stored, isActive, rfl⟩

theorem earlier_of_transition {state next : State uuid} {label : Label}
    (transition : Transition state label next)
    (found : next.runs.get id = some run) :
    (id = state.runs.next ∧
        ∃ orderId, label = .start run.request.req orderId) ∨
      ∃ earlier, state.runs.get id = some earlier ∧
        ∀ action, earlier.entry id action = run.entry id action := by
  have moved :
      ∀ {other : Nat} {acting new : Run uuid},
        (state.runs.put other new).get id = some run →
          state.runs.get other = some acting →
            (∀ action, acting.entry other action = new.entry other action) →
              ∃ earlier, state.runs.get id = some earlier ∧
                ∀ action, earlier.entry id action = run.entry id action := by
    intro other acting new put running same
    rcases Registry.cases_of_get_put put with ⟨rfl, rfl⟩ | ⟨_, stored⟩
    · exact ⟨acting, running, same⟩
    · exact ⟨run, stored, fun _ => rfl⟩
  cases transition with
  | refused => exact Or.inr ⟨run, found, fun _ => rfl⟩
  | started request orderId =>
      rcases Registry.cases_of_get_launch found with ⟨isNew, rfl⟩ | stored
      · exact Or.inl ⟨isNew, orderId, rfl⟩
      · exact Or.inr ⟨run, stored, fun _ => rfl⟩
  | performed running => exact Or.inr (moved found running fun _ => rfl)
  | invoked running => exact Or.inr (moved found running fun _ => rfl)
  | answered running => exact Or.inr (moved found running fun _ => rfl)
  | crashed =>
      have stored := (Registry.get_of_get_finish found).2
      exact Or.inr ⟨run, stored, fun _ => rfl⟩

theorem returned_of_transition {state next : State uuid} {label : Label}
    {old new : Run uuid} {result : Except Status CreateOrderResponse}
    (running : state.runs.get id = some old)
    (returned : old.stage = .returned result)
    (transition : Transition state label next)
    (found : next.runs.get id = some new) : new = old := by
  have stays :
      ∀ {other : Nat} {value new' : Run uuid},
        (state.runs.put other value).get id = some new' →
          other ≠ id → new' = old := by
    intro other value new' put different
    rcases Registry.cases_of_get_put put with ⟨same, _⟩ | ⟨_, stored⟩
    · exact absurd same.symm different
    · rw [running] at stored
      exact (Option.some.inj stored).symm
  have noCall : old.call = none := by
    unfold Run.call
    rw [returned]
  cases transition with
  | refused =>
      rw [Registry.get_skip, running] at found
      exact (Option.some.inj found).symm
  | started =>
      rcases Registry.cases_of_get_launch found with ⟨isNew, _⟩ | stored
      · have bound := Registry.lt_next_of_get running
        omega
      · rw [running] at stored
        exact (Option.some.inj stored).symm
  | @performed other _ _ _ run performed otherRunning done =>
      apply stays found
      rintro rfl
      rw [running] at otherRunning
      cases otherRunning
      unfold Run.perform at done
      rw [returned] at done
      cases done
  | @invoked other run call otherRunning calls =>
      apply stays found
      rintro rfl
      rw [running] at otherRunning
      cases otherRunning
      rw [noCall] at calls
      cases calls
  | @answered other reply run call otherRunning calls =>
      apply stays found
      rintro rfl
      rw [running] at otherRunning
      cases otherRunning
      rw [noCall] at calls
      cases calls
  | crashed =>
      have stored := (Registry.get_of_get_finish found).2
      rw [running] at stored
      exact (Option.some.inj stored).symm

theorem Stage.born_of_active {stage : Stage} (isActive : stage.active = true) :
    stage.unborn = false := by
  cases stage <;> first | rfl | cases isActive

theorem Stage.born_afterReply {stage : Stage} (isActive : stage.active = true)
    (reply : Option Status) : (stage.afterReply reply).unborn = false := by
  cases stage with
  | reserving =>
      cases reply with
      | none => rfl
      | some err =>
          simp only [Stage.afterReply]
          split <;> rfl
  | compensating refused => cases refused <;> rfl
  | abandoning => rfl
  | charging => cases reply <;> rfl
  | failing reason answer => rfl
  | confirming => cases reply <;> rfl
  | finishing => rfl
  | _ => cases isActive

theorem born_of_transition {entry : Entry}
    (bounded : ∀ entry ∈ state.log, entry.run < state.runs.next)
    (born :
      ∀ {entry run}, entry ∈ state.log →
        state.runs.get entry.run = some run → run.stage.unborn = false)
    (transition : Transition state label next) (member : entry ∈ next.log)
    (found : next.runs.get entry.run = some run) :
    run.stage.unborn = false := by
  cases transition with
  | refused => exact born member found
  | started =>
      rcases Registry.cases_of_get_launch found with ⟨isNew, _⟩ | stored
      · have bound := bounded entry member
        omega
      · exact born member stored
  | @performed other _ _ _ acting performed running done =>
      have old :
          entry.run ≠ other → entry ∈ state.log := by
        intro notMe
        rcases List.mem_append.mp member with new | old
        · obtain ⟨action, _, rfl⟩ := List.mem_map.mp new
          exact absurd rfl notMe
        · exact old
      rcases Registry.cases_of_get_put found with ⟨mine, rfl⟩ | ⟨notMe, stored⟩
      · cases effect_of_perform done with
        | inserted _ _ _ goes => rcases goes with rfl | ⟨_, _, rfl⟩ <;> rfl
        | moved => rfl
        | duplicate creating =>
            -- nothing was logged for a run that had yet to insert
            have before := born member (mine ▸ running)
            rw [creating] at before
            cases before
        | nothing => rfl
      · exact born (old notMe) stored
  | @invoked other acting call running calls =>
      rcases Registry.cases_of_get_put found with ⟨mine, rfl⟩ | ⟨notMe, stored⟩
      · exact Stage.born_of_active (Stage.active_of_call calls)
      · rcases List.mem_cons.mp member with rfl | old
        · exact absurd rfl notMe
        · exact born old stored
  | @answered other reply acting call running calls =>
      rcases Registry.cases_of_get_put found with ⟨mine, rfl⟩ | ⟨notMe, stored⟩
      · exact Stage.born_afterReply (Stage.active_of_call calls) reply
      · rcases List.mem_cons.mp member with rfl | old
        · exact absurd rfl notMe
        · exact born old stored
  | crashed => exact born member (Registry.get_of_get_finish found).2

theorem stage_of_charge {req : Payment.ChargeRequest}
    (calls : run.call = some (.charge req)) : run.stage = .charging := by
  unfold Run.call at calls
  split at calls
  case h_3 stage => exact stage
  all_goals cases calls

theorem charges_of_transition (transition : Transition state label next) :
    charges next.log id = charges state.log id ∨
      charges next.log id = charges state.log id + 1 ∧
        ∃ run, state.runs.get id = some run ∧ run.uncharged = true ∧
          next.runs.get id = some { run with sent := true } ∧
          run.stage = .charging := by
  cases transition with
  | performed running done =>
      left
      cases effect_of_perform done with
      | inserted => exact charges_cons_of_other state.log fun _ => rfl
      | moved => exact charges_cons_of_other state.log fun _ => rfl
      | duplicate => rfl
      | nothing => rfl
  | @invoked other run call running calls unsent =>
      cases call with
      | seats method req =>
          exact Or.inl (charges_cons_of_other state.log fun _ => rfl)
      | charge req =>
          by_cases mine : other = id
          · subst mine
            have stage := stage_of_charge calls
            refine Or.inr ⟨charges_cons_of_charge state.log rfl rfl, run,
              running, ?_, ?_, stage⟩
            · unfold Run.uncharged
              rw [stage, unsent]
              rfl
            · exact Registry.get_put_self running
          · left
            exact charges_cons_of_other state.log fun same =>
              absurd same mine
  | answered => exact Or.inl (charges_cons_of_other state.log fun _ => rfl)
  | _ => exact Or.inl rfl

theorem uncharged_afterReply {call : Call} {reply : Option Status}
    (calls : run.call = some call)
    (uncharged : (run.goto (run.stage.afterReply reply)).uncharged = true) :
    run.stage = .reserving := by
  unfold Run.call at calls
  unfold Run.uncharged Run.goto at uncharged
  cases stage : run.stage with
  | reserving => rfl
  | abandoning =>
      rw [stage] at uncharged
      cases uncharged
  | charging =>
      rw [stage] at uncharged
      cases reply <;> cases uncharged
  | compensating refused =>
      rw [stage] at uncharged
      cases refused <;> cases uncharged
  | confirming =>
      rw [stage] at uncharged
      cases reply <;> cases uncharged
  | _ =>
      rw [stage] at calls
      cases calls

theorem uncharged_of_transition (transition : Transition state label next)
    (found : next.runs.get id = some run) (uncharged : run.uncharged = true) :
    id = state.runs.next ∨
      ∃ old, state.runs.get id = some old ∧ old.uncharged = true := by
  cases transition with
  | refused => exact Or.inr ⟨run, found, uncharged⟩
  | started =>
      rcases Registry.cases_of_get_launch found with ⟨isNew, _⟩ | stored
      · exact Or.inl isNew
      · exact Or.inr ⟨run, stored, uncharged⟩
  | @performed _ _ _ _ old performed running done =>
      rcases Registry.cases_of_get_put found with ⟨rfl, rfl⟩ | ⟨_, stored⟩
      · right
        refine ⟨old, running, ?_⟩
        cases effect_of_perform done with
        | inserted creating =>
            unfold Run.uncharged
            rw [creating]
        | moved => cases uncharged
        | duplicate => cases uncharged
        | nothing => cases uncharged
      · exact Or.inr ⟨run, stored, uncharged⟩
  | @invoked _ old call running calls unsent =>
      rcases Registry.cases_of_get_put found with ⟨rfl, rfl⟩ | ⟨_, stored⟩
      · right
        refine ⟨old, running, ?_⟩
        unfold Run.uncharged at uncharged ⊢
        cases stage : old.stage <;> rw [stage] at uncharged <;>
          first
          | rfl
          | cases uncharged
      · exact Or.inr ⟨run, stored, uncharged⟩
  | @answered _ reply old call running calls sent =>
      rcases Registry.cases_of_get_put found with ⟨rfl, rfl⟩ | ⟨_, stored⟩
      · right
        refine ⟨old, running, ?_⟩
        have stage := uncharged_afterReply calls uncharged
        unfold Run.uncharged
        rw [stage]
      · exact Or.inr ⟨run, stored, uncharged⟩
  | crashed =>
      have stored := (Registry.get_of_get_finish found).2
      exact Or.inr ⟨run, stored, uncharged⟩

theorem charges_of_unknown
    (bounded : ∀ entry ∈ state.log, entry.run < state.runs.next)
    (unknown : state.runs.next ≤ id) : charges state.log id = 0 := by
  apply List.countP_eq_zero.mpr
  intro entry member counted
  simp only [Bool.and_eq_true, decide_eq_true_eq] at counted
  have small := bounded entry member
  omega

/-- Two insertions of one order are by one run: a new insertion takes an ID
that no older one has, and one step logs one thing. -/
theorem single_of_transition
    (ledger : Ledger state) (transition : Transition state label next) :
    ∀ left ∈ next.log, ∀ right ∈ next.log,
      left.action = .inserted → right.action = .inserted →
        left.orderId = right.orderId → left.run = right.run := by
  have fresh :
      ∀ new ∈ next.log, new.action = .inserted → new ∉ state.log →
        ∀ old ∈ state.log, old.action = .inserted →
          new.orderId ≠ old.orderId := by
    intro new member inserted notOld old oldMember oldInserted same
    obtain ⟨row, stored, rowId, _⟩ := ledger.stored old oldMember oldInserted
    apply (created_of_insertion transition member inserted notOld).1
    rw [same, ← rowId]
    exact List.mem_map_of_mem stored
  intro left leftMember right rightMember leftInserted rightInserted same
  by_cases leftOld : left ∈ state.log
  · by_cases rightOld : right ∈ state.log
    · exact ledger.single left leftOld right rightOld leftInserted rightInserted
        same
    · exact absurd same.symm
        (fresh right rightMember rightInserted rightOld left leftOld
          leftInserted)
  · by_cases rightOld : right ∈ state.log
    · exact absurd same
        (fresh left leftMember leftInserted leftOld right rightOld
          rightInserted)
    · rcases log_of_transition transition with
        unchanged | ⟨id, run, action, _, grown, _⟩
      · rw [unchanged] at leftMember
        exact absurd leftMember leftOld
      · rw [grown] at leftMember rightMember
        have isLeft := (List.mem_cons.mp leftMember).resolve_right leftOld
        have isRight := (List.mem_cons.mp rightMember).resolve_right rightOld
        rw [isLeft, isRight]

theorem ledger_of_transition (ledger : Ledger state)
    (transition : Transition state label next) : Ledger next := by
  have logged := log_of_transition transition
  refine ⟨books_of_transition ledger.books transition, ?_, ?_, ?_,
    single_of_transition ledger transition, ?_,
    born_of_transition ledger.bounded ledger.born transition, ?_, ?_⟩
  · intro entry member
    have grows := next_of_transition transition
    rcases logged with same | ⟨id, run, action, running, grown, _⟩
    · rw [same] at member
      exact Nat.lt_of_lt_of_le (ledger.bounded entry member) grows
    · rw [grown] at member
      rcases List.mem_cons.mp member with rfl | old
      · exact Nat.lt_of_lt_of_le (Registry.lt_next_of_get running) grows
      · exact Nat.lt_of_lt_of_le (ledger.bounded entry old) grows
  · intro entry member
    rcases logged with same | ⟨id, run, action, running, grown, origin⟩
    · rw [same] at member ⊢
      exact ledger.origin entry member
    · rw [grown] at member ⊢
      rcases List.mem_cons.mp member with rfl | old
      · rcases origin with rfl | isActive
        · exact List.mem_cons_self
        · exact List.mem_cons_of_mem _ (ledger.active running isActive)
      · exact List.mem_cons_of_mem _ (ledger.origin entry old)
  · intro entry member inserted
    by_cases old : entry ∈ state.log
    · obtain ⟨row, stored, same, stores⟩ := ledger.stored entry old inserted
      obtain ⟨kept, keptStored, keptId, keptStores⟩ :=
        stored_of_transition transition stored stores
      exact ⟨kept, keptStored, keptId.trans same, keptStores⟩
    · exact (created_of_insertion transition member inserted old).2
  · intro id run found isActive
    rcases active_of_transition transition found isActive with
      inserted | ⟨old, stored, wasActive, same⟩
    · exact inserted
    · rw [← same]
      exact mem_log_of_transition transition (ledger.active stored wasActive)
  · intro id
    rcases charges_of_transition transition with
      same | ⟨more, run, running, uncharged, _⟩
    · rw [same]
      exact ledger.charges id
    · rw [more, ledger.uncharged running uncharged]
  · intro id run found uncharged
    rcases charges_of_transition transition with
      same | ⟨_, old, _, _, sent, stage⟩
    · rw [same]
      rcases uncharged_of_transition transition found uncharged with
        isNew | ⟨old, stored, wasUncharged⟩
      · exact charges_of_unknown ledger.bounded (Nat.le_of_eq isNew.symm)
      · exact ledger.uncharged stored wasUncharged
    · -- the run that has just charged cannot charge again
      rw [found] at sent
      cases sent
      unfold Run.uncharged at uncharged
      rw [stage] at uncharged
      cases uncharged

end Step

theorem ledger_of_run {labels : List Label} {final : State uuid}
    (ledger : Ledger state) (ran : run step state labels = some final) :
    Ledger final :=
  invariant_of_run
    (fun kept stepped => ledger_of_transition kept (transition_of_step stepped))
    ledger ran

/-- All that was done for one order was done by one run. -/
theorem run_unique {left right : Entry} (ledger : Ledger state)
    (leftMember : left ∈ state.log) (rightMember : right ∈ state.log)
    (same : left.orderId = right.orderId) : left.run = right.run := by
  have leftOrigin := ledger.origin left leftMember
  have rightOrigin := ledger.origin right rightMember
  have one := ledger.single _ leftOrigin _ rightOrigin rfl rfl
  exact one same

end TicketWave.Order
