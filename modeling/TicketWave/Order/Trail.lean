import TicketWave.Order.Ledger

/-! # What the log says about an order -/

namespace TicketWave.Order

open Library

variable {uuid : UuidText}

def Entry.order (entry : Entry) : OrderSnapshot where
  id := entry.orderId
  userId := entry.req.userId
  eventId := entry.req.eventId
  seatIds := entry.req.seatIds
  amountCents := entry.req.amountCents

/-- `ReserveSeats` of the order was answered with success. -/
def OrderSnapshot.reserved (uuid : UuidText) (order : OrderSnapshot) : Action :=
  .received (.seats .reserveSeats (order.seatRequest uuid)) none

def OrderSnapshot.charged (uuid : UuidText) (order : OrderSnapshot) : Action :=
  .received (.charge (order.chargeRequest uuid)) none

def OrderSnapshot.confirmed (uuid : UuidText) (order : OrderSnapshot) :
    Action :=
  .received (.seats .confirmSeats (order.seatRequest uuid)) none

/-- The replies of a sale, newest first. -/
def OrderSnapshot.sale (uuid : UuidText) (order : OrderSnapshot) :
    List Action :=
  [order.confirmed uuid, order.charged uuid, order.reserved uuid]

/-- The replies a run must have had to be where it is. -/
def Run.receipts (run : Run uuid) : List Action :=
  match run.stage with
  | .charging => [run.order.reserved uuid]
  | .confirming => [run.order.charged uuid, run.order.reserved uuid]
  | .finishing => run.order.sale uuid
  | _ => []

theorem Run.receipts_afterReply {run : Run uuid} {call : Call}
    {reply : Option Status} {action : Action} (calls : run.call = some call)
    (member : action ∈ (run.goto (run.stage.afterReply reply)).receipts) :
    action = .received call reply ∨ action ∈ run.receipts := by
  unfold Run.call at calls
  unfold Run.receipts Run.goto at member
  unfold Run.receipts
  cases stage : run.stage with
  | reserving =>
      rw [stage] at calls member
      cases calls
      cases reply with
      | none => exact Or.inl (List.mem_singleton.mp member)
      | some err =>
          by_cases refused : err.isRefusal = true
          · rw [Stage.afterReply, if_pos refused] at member
            cases member
          · rw [Stage.afterReply, if_neg refused] at member
            cases member
  | charging =>
      rw [stage] at calls member
      cases calls
      cases reply with
      | none => exact List.mem_cons.mp member
      | some err => cases member
  | confirming =>
      rw [stage] at calls member
      cases calls
      cases reply with
      | none => exact List.mem_cons.mp member
      | some err => cases member
  | compensating refused =>
      rw [stage] at member
      cases refused <;> cases member
  | abandoning =>
      rw [stage] at member
      cases member
  | _ =>
      rw [stage] at calls
      cases calls

def Entry.isConfirm (entry : Entry) : Bool :=
  match entry.action with
  | .invoked (.seats .confirmSeats _) => true
  | _ => false

/-- Where a run can be after it has sent `ConfirmSeats`. -/
def Stage.pledged : Stage → Bool
  | .confirming => true
  | .finishing => true
  | .returned _ => true
  | _ => false

theorem stage_of_confirm {run : Run uuid} {req : Inventory.SeatRequest}
    (calls : run.call = some (.seats .confirmSeats req)) :
    run.stage = .confirming := by
  unfold Run.call at calls
  split at calls
  case h_5 stage => exact stage
  all_goals cases calls

theorem Run.seatRequest_of_call {run : Run uuid} {method : Inventory.Method}
    {req : Inventory.SeatRequest}
    (calls : run.call = some (.seats method req)) :
    req = run.order.seatRequest uuid := by
  unfold Run.call at calls
  split at calls <;> cases calls <;> rfl

theorem Run.chargeRequest_of_call {run : Run uuid} {req : Payment.ChargeRequest}
    (calls : run.call = some (.charge req)) :
    req = run.order.chargeRequest uuid := by
  unfold Run.call at calls
  split at calls <;> cases calls
  rfl

theorem Stage.pledged_afterReply {stage : Stage}
    (pledged : stage.pledged = true) (reply : Option Status) :
    (stage.afterReply reply).pledged = true := by
  cases stage with
  | confirming => cases reply <;> rfl
  | finishing => rfl
  | returned _ => rfl
  | _ => cases pledged

/-- The log has the replies of a sale for the order of the row. -/
def Documented (uuid : UuidText) (log : List Entry) (row : OrderRow) : Prop :=
  ∃ entry ∈ log, entry.orderId = row.id ∧ Stores uuid entry.req row ∧
    ∀ action ∈ entry.order.sale uuid, { entry with action := action } ∈ log

structure Trail (state : State uuid) : Prop where
  receipts :
    ∀ {id run}, state.runs.get id = some run →
      ∀ action ∈ run.receipts, run.entry id action ∈ state.log
  confirmed :
    ∀ row ∈ state.db.orders, row.status = .confirmed →
      Documented uuid state.log row
  pledged :
    ∀ entry ∈ state.log, entry.isConfirm = true →
      ∀ {run}, state.runs.get entry.run = some run → run.stage.pledged = true
  unfailed :
    ∀ entry ∈ state.log, entry.isConfirm = true →
      ∀ row ∈ state.db.orders, row.id = entry.orderId → row.status ≠ .failed

theorem trail_empty : Trail (State.empty uuid) where
  receipts := by
    intro id run found
    cases found
  confirmed := by
    intro row member
    cases member
  pledged := by
    intro entry member
    cases member
  unfailed := by
    intro entry member
    cases member

section Step

variable {state next : State uuid} {label : Label}

theorem row_of_transition {row : OrderRow}
    (transition : Transition state label next) (member : row ∈ next.db.orders) :
    row ∈ state.db.orders ∨
      (row.status = .pending ∧
        ∃ id run, state.runs.get id = some run ∧ row.id = run.orderId) ∨
      ∃ id run type reason acknowledged result,
        state.runs.get id = some run ∧
          Closes run row.status type reason acknowledged result ∧
          next.log =
            run.entry id (.moved row.status acknowledged) :: state.log ∧
          ∃ old ∈ state.db.orders, old.id = run.orderId ∧
            row = settle row.status type reason old := by
  cases transition with
  | @performed id outcome rowId now run performed running done =>
      cases effect_of_perform done with
      | inserted _ _ committed =>
          obtain ⟨new, created⟩ := createOrder_ok committed
          rw [created.next] at member
          rcases List.mem_append.mp member with old | isNew
          · exact Or.inl old
          · rw [List.mem_singleton.mp isNew]
            exact Or.inr
              (Or.inl ⟨created.pending, id, run, running, created.same⟩)
      | @moved _ status type reason acknowledged result _ _ closes committed =>
          have settled := transition_ok committed
          obtain ⟨old, stored, shape⟩ := settled.mem_orders.mp member
          by_cases same : old.id = run.orderId
          · rw [if_pos same] at shape
            subst shape
            exact Or.inr
              (Or.inr
                ⟨id, run, type, reason, acknowledged, result, running,
                  closes, rfl, old, stored, same, rfl⟩)
          · rw [if_neg same] at shape
            subst shape
            exact Or.inl stored
      | duplicate => exact Or.inl member
      | nothing => exact Or.inl member
  | _ => exact Or.inl member

theorem receipts_of_transition
    (receipts :
      ∀ {id run}, state.runs.get id = some run →
        ∀ action ∈ run.receipts, run.entry id action ∈ state.log)
    (transition : Transition state label next) {id : Nat} {run : Run uuid}
    (found : next.runs.get id = some run) {action : Action}
    (member : action ∈ run.receipts) : run.entry id action ∈ next.log := by
  have before :
      ∀ {old : Run uuid}, state.runs.get id = some old →
        action ∈ old.receipts → old.entry id action ∈ next.log := by
    intro old stored oldMember
    exact mem_log_of_transition transition (receipts stored action oldMember)
  cases transition with
  | refused => exact before found member
  | started =>
      rcases Registry.cases_of_get_launch found with ⟨_, rfl⟩ | stored
      · cases member
      · exact before stored member
  | performed running done =>
      rcases Registry.cases_of_get_put found with ⟨rfl, rfl⟩ | ⟨_, stored⟩
      · cases effect_of_perform done with
        | inserted _ _ _ goes =>
            rcases goes with rfl | ⟨_, _, rfl⟩ <;> cases member
        | moved => cases member
        | duplicate => cases member
        | nothing => cases member
      · exact before stored member
  | invoked running =>
      rcases Registry.cases_of_get_put found with ⟨rfl, rfl⟩ | ⟨_, stored⟩
      · have kept := before running member
        exact kept
      · exact before stored member
  | answered running calls =>
      rcases Registry.cases_of_get_put found with ⟨rfl, rfl⟩ | ⟨_, stored⟩
      · rcases Run.receipts_afterReply calls member with rfl | earlier
        · exact List.mem_cons_self
        · have kept := before running earlier
          exact kept
      · exact before stored member
  | crashed => exact before (Registry.get_of_get_finish found).2 member

theorem documented_of_transition
    {row : OrderRow} (transition : Transition state label next)
    (documented : Documented uuid state.log row) :
    Documented uuid next.log row := by
  obtain ⟨entry, member, same, stores, sale⟩ := documented
  exact ⟨entry, mem_log_of_transition transition member, same, stores,
    fun action isSale =>
      mem_log_of_transition transition (sale action isSale)⟩

theorem confirmed_of_transition (ledger : Ledger state) (trail : Trail state)
    (transition : Transition state label next) {row : OrderRow}
    (member : row ∈ next.db.orders) (isConfirmed : row.status = .confirmed) :
    Documented uuid next.log row := by
  apply documented_of_transition transition
  rcases row_of_transition transition member with
    stored | ⟨pending, _⟩ |
      ⟨id, run, type, reason, _, _, running, closes, _, old, stored, same,
        shape⟩
  · exact trail.confirmed row stored isConfirmed
  · rw [pending] at isConfirmed
    cases isConfirmed
  · rw [isConfirmed] at closes shape
    cases closes with
    | confirmed finishing =>
        have isActive : run.stage.active = true := by
          rw [finishing]
          rfl
        obtain ⟨own, ownStored, ownId, _, stores⟩ :=
          ledger.books.owned.active running isActive
        have isOwn : old = own :=
          row_unique ledger.books.consistent.orderIds stored ownStored
            (same.trans ownId.symm)
        subst isOwn
        refine
          ⟨run.entry id .inserted, ledger.active running isActive, ?_, ?_, ?_⟩
        · rw [shape]
          exact same.symm
        · rw [shape]
          exact ⟨stores.user, stores.eventId, stores.seats, stores.amount,
            stores.key⟩
        · intro action isSale
          apply trail.receipts running action
          unfold Run.receipts
          rw [finishing]
          exact isSale

theorem pledged_of_transition (ledger : Ledger state) (trail : Trail state)
    (transition : Transition state label next) {entry : Entry}
    (member : entry ∈ next.log) (isConfirm : entry.isConfirm = true)
    {run : Run uuid} (found : next.runs.get entry.run = some run) :
    run.stage.pledged = true := by
  cases transition with
  | refused => exact trail.pledged entry member isConfirm found
  | started =>
      rcases Registry.cases_of_get_launch found with ⟨isNew, _⟩ | stored
      · have bound := ledger.bounded entry member
        exact absurd isNew (Nat.ne_of_lt bound)
      · exact trail.pledged entry member isConfirm stored
  | @performed id outcome rowId now acting performed running done =>
      have old : entry ∈ state.log := by
        rcases List.mem_append.mp member with new | old
        · cases effect_of_perform done with
          | inserted =>
              rw [List.mem_singleton.mp new] at isConfirm
              cases isConfirm
          | moved =>
              rw [List.mem_singleton.mp new] at isConfirm
              cases isConfirm
          | duplicate => cases new
          | nothing => cases new
        · exact old
      rcases Registry.cases_of_get_put found with ⟨same, rfl⟩ | ⟨_, stored⟩
      · have wasPledged := trail.pledged entry old isConfirm (same ▸ running)
        cases effect_of_perform done with
        | inserted creating =>
            rw [creating] at wasPledged
            cases wasPledged
        | duplicate creating =>
            rw [creating] at wasPledged
            cases wasPledged
        | moved => rfl
        | nothing => rfl
      · exact trail.pledged entry old isConfirm stored
  | @invoked id acting call running calls =>
      rcases Registry.cases_of_get_put found with ⟨same, rfl⟩ | ⟨notMe, stored⟩
      · rcases List.mem_cons.mp member with rfl | old
        · have confirming : acting.stage = .confirming := by
            unfold Entry.isConfirm Run.entry at isConfirm
            split at isConfirm
            · rename_i action
              cases action
              exact stage_of_confirm calls
            · cases isConfirm
          show acting.stage.pledged = true
          rw [confirming]
          rfl
        · have wasPledged := trail.pledged entry old isConfirm (same ▸ running)
          exact wasPledged
      · rcases List.mem_cons.mp member with rfl | old
        · exact absurd rfl notMe
        · exact trail.pledged entry old isConfirm stored
  | @answered id reply acting call running calls =>
      have old : entry ∈ state.log := by
        rcases List.mem_cons.mp member with rfl | old
        · cases isConfirm
        · exact old
      rcases Registry.cases_of_get_put found with ⟨same, rfl⟩ | ⟨_, stored⟩
      · have wasPledged := trail.pledged entry old isConfirm (same ▸ running)
        exact Stage.pledged_afterReply wasPledged reply
      · exact trail.pledged entry old isConfirm stored
  | crashed =>
      exact trail.pledged entry member isConfirm
        (Registry.get_of_get_finish found).2

theorem unfailed_of_transition (ledger : Ledger state) (trail : Trail state)
    (transition : Transition state label next) {entry : Entry}
    (member : entry ∈ next.log) (isConfirm : entry.isConfirm = true)
    {row : OrderRow} (stored : row ∈ next.db.orders)
    (same : row.id = entry.orderId) : row.status ≠ .failed := by
  rcases row_of_transition transition stored with
    old | ⟨pending, _⟩ |
      ⟨id, run, type, reason, _, _, running, closes, logged, old, oldStored,
        oldId, shape⟩
  · rcases log_of_transition transition with
      unchanged | ⟨id, run, action, running, grown, source⟩
    · exact trail.unfailed entry (unchanged ▸ member) isConfirm row old same
    · rw [grown] at member
      rcases List.mem_cons.mp member with rfl | earlier
      · -- `ConfirmSeats` is sent while the order is still pending
        have isActive : run.stage.active = true := by
          rcases source with rfl | isActive
          · cases isConfirm
          · exact isActive
        obtain ⟨own, ownStored, ownId, pending, _⟩ :=
          ledger.books.owned.active running isActive
        have isOwn : row = own :=
          row_unique ledger.books.consistent.orderIds old ownStored
            (same.trans ownId.symm)
        rw [isOwn, pending]
        decide
      · exact trail.unfailed entry earlier isConfirm row old same
  · rw [pending]
    decide
  · intro failed
    rw [logged] at member
    rcases List.mem_cons.mp member with rfl | earlier
    · cases isConfirm
    · have isActive := closes.closing.2
      have inserted := ledger.active running isActive
      have sameOrder : entry.orderId = run.orderId := by
        rw [← same, shape]
        exact oldId
      have mine : entry.run = id := run_unique ledger earlier inserted sameOrder
      have wasPledged := trail.pledged entry earlier isConfirm (mine ▸ running)
      rw [failed] at closes
      cases closes with
      | failed failing =>
          rw [failing] at wasPledged
          cases wasPledged

theorem trail_of_transition (ledger : Ledger state) (trail : Trail state)
    (transition : Transition state label next) : Trail next where
  receipts := fun found _ member =>
    receipts_of_transition trail.receipts transition found member
  confirmed := fun _ member isConfirmed =>
    confirmed_of_transition ledger trail transition member isConfirmed
  pledged := fun _ member isConfirm _ found =>
    pledged_of_transition ledger trail transition member isConfirm found
  unfailed := fun _ member isConfirm _ stored same =>
    unfailed_of_transition ledger trail transition member isConfirm stored
      same

theorem received_of_transition
    {entry : Entry} {call : Call} {reply : Option Status}
    (transition : Transition state label next) (member : entry ∈ next.log)
    (received : entry.action = .received call reply) :
    entry ∈ state.log ∨
      label = .answer entry.run reply ∧
        ∃ run, state.runs.get entry.run = some run ∧ run.call = some call := by
  cases transition with
  | @performed id outcome rowId now run performed running done =>
      rcases List.mem_append.mp member with new | old
      · cases effect_of_perform done with
        | inserted =>
            rw [List.mem_singleton.mp new] at received
            cases received
        | moved =>
            rw [List.mem_singleton.mp new] at received
            cases received
        | duplicate => cases new
        | nothing => cases new
      · exact Or.inl old
  | invoked =>
      rcases List.mem_cons.mp member with rfl | old
      · cases received
      · exact Or.inl old
  | @answered id reply run call running calls =>
      rcases List.mem_cons.mp member with rfl | old
      · cases received
        exact Or.inr ⟨rfl, run, running, calls⟩
      · exact Or.inl old
  | _ => exact Or.inl member

end Step

theorem charges_of_order
    {state : State uuid} (ledger : Ledger state) (order : UUID) :
    state.log.countP
        (fun entry => decide (entry.orderId = order) && entry.isCharge) ≤
      1 := by
  by_cases some :
      ∃ entry ∈ state.log, entry.orderId = order ∧ entry.isCharge = true
  · obtain ⟨first, member, about, _⟩ := some
    refine Nat.le_trans ?_ (ledger.charges first.run)
    apply List.countP_mono_left
    intro entry stored counted
    simp only [Bool.and_eq_true, decide_eq_true_eq] at counted ⊢
    obtain ⟨same, isCharge⟩ := counted
    exact ⟨run_unique ledger stored member (same.trans about.symm), isCharge⟩
  · have none :
        state.log.countP
            (fun entry => decide (entry.orderId = order) && entry.isCharge) =
          0 := by
      apply List.countP_eq_zero.mpr
      intro entry stored counted
      simp only [Bool.and_eq_true, decide_eq_true_eq] at counted
      exact some ⟨entry, stored, counted⟩
    rw [none]
    exact Nat.zero_le 1

end TicketWave.Order
