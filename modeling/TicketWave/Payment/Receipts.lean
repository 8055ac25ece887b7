import TicketWave.Payment.Model

/-! # Payments on record -/

namespace TicketWave.Payment

open Library

variable {uuid : UuidText}

/-- A call of `Charge` fails and records nothing, or it records one row. -/
inductive Charged
    (uuid : UuidText) (payments : List PaymentRow) (req : ChargeRequest) :
    List PaymentRow × Option Status → Prop
  | nothing (err : Status) : Charged uuid payments req (payments, some err)
  | recorded
      {row : PaymentRow} {reply : Option Status}
      (order : uuid.column req.orderId = some row.orderId)
      (amount : row.amountCents = req.amountCents)
      (status : reply = none → row.status = .succeeded) :
      Charged uuid payments req (payments ++ [row], reply)

theorem insertPayment_ok {payments next : List PaymentRow} {req : ChargeRequest}
    {paymentId : UUID} {status : PaymentStatus} {failure : String}
    (inserted :
      insertPayment uuid payments req paymentId status failure = .ok next) :
    ∃ row : PaymentRow,
      uuid.column req.orderId = some row.orderId ∧
        row.amountCents = req.amountCents ∧ row.status = status ∧
        next = payments ++ [row] := by
  unfold insertPayment at inserted
  split at inserted
  · cases inserted
  · rename_i order read
    split at inserted
    · cases inserted
    · cases inserted
      exact ⟨⟨paymentId, order, req.amountCents, status⟩, read, rfl, rfl, rfl⟩

/-- The `INSERT` of a call and the answer after it. -/
theorem charged_of_attempt {payments : List PaymentRow} {req : ChargeRequest}
    {outcome : Outcome} {paymentId : UUID} {status : PaymentStatus}
    {failure : String} {broken : Status} {success : Option Status}
    (final : success = none → status = .succeeded) :
    Charged uuid payments req
      (match
        (attempt outcome payments
          (insertPayment uuid payments req paymentId status failure)
          broken).error with
      | some err =>
          ((attempt outcome payments
            (insertPayment uuid payments req paymentId status failure)
            broken).db, some err)
      | none =>
          ((attempt outcome payments
            (insertPayment uuid payments req paymentId status failure)
            broken).db, success)) := by
  generalize tried :
    attempt outcome payments
      (insertPayment uuid payments req paymentId status failure) broken = insert
  cases committed : insert.committed with
  | false =>
      obtain ⟨unchanged, failed⟩ := attempt_uncommitted (tried ▸ committed)
      rw [tried] at unchanged failed
      rw [unchanged]
      cases error : insert.error with
      | none => exact absurd error failed
      | some err => exact .nothing err
  | true =>
      have ran := (attempt_committed (tried ▸ committed)).2
      rw [tried] at ran
      obtain ⟨row, order, amount, rowStatus, shape⟩ := insertPayment_ok ran
      rw [shape]
      cases insert.error with
      | none =>
          exact .recorded order amount fun succeeded =>
            rowStatus.trans (final succeeded)
      | some err =>
          exact .recorded order amount fun succeeded => nomatch succeeded

theorem charged_of_charge (payments : List PaymentRow) (req : ChargeRequest)
    (outcome : Outcome) (paymentId : UUID) :
    Charged uuid payments req
      (charge uuid payments req outcome paymentId) := by
  unfold charge
  by_cases isDeclined : declined req = true
  · rw [if_pos isDeclined]
    exact charged_of_attempt fun succeeded => nomatch succeeded
  · rw [if_neg isDeclined]
    exact charged_of_attempt fun _ => rfl

inductive Transition (uuid : UuidText) (state : State) :
    Label → State → Prop
  | begun (req : ChargeRequest) :
      Transition uuid state (.beginCall req)
        { state with calls := state.calls.launch req }
  | served
      {id : Nat} {outcome : Outcome} {paymentId : UUID}
      {req : ChargeRequest} {result : List PaymentRow × Option Status}
      (running : state.calls.get id = some req)
      (charged : Charged uuid state.payments req result) :
      Transition uuid state (.serve id outcome paymentId)
        { payments := result.1
          calls := state.calls.finish id
          answers := (id, result.2) :: state.answers }
  | dropped
      {id : Nat} {req : ChargeRequest}
      (running : state.calls.get id = some req) :
      Transition uuid state (.drop id)
        { state with calls := state.calls.finish id }

theorem transition_of_step {state next : State} {label : Label}
    (stepped : step uuid state label = some next) :
    Transition uuid state label next := by
  cases label with
  | beginCall req =>
      cases stepped
      exact .begun req
  | serve id outcome paymentId =>
      simp only [step] at stepped
      split at stepped
      · cases stepped
      · rename_i req running
        cases stepped
        exact .served running
          (charged_of_charge state.payments req outcome paymentId)
  | drop id =>
      simp only [step] at stepped
      split at stepped
      · cases stepped
      · rename_i req running
        cases stepped
        exact .dropped running

/-- A call of `Charge` as it was sent, with the number it is served under. -/
structure Sent where
  call : Nat
  req : ChargeRequest
  deriving DecidableEq, Repr

/-- The requests that reach the service with a step. -/
def Label.sends (state : State) : Label → List Sent
  | .beginCall req => [⟨state.calls.next, req⟩]
  | _ => []

def Label.begins : Label → Bool
  | .beginCall _ => true
  | _ => false

theorem Label.sends_eq_nil {state : State} {label : Label}
    (internal : label.begins = false) : label.sends state = [] := by
  cases label with
  | beginCall => cases internal
  | _ => rfl

def charges (uuid : UuidText) (order : UUID) (req : ChargeRequest) : Bool :=
  decide (uuid.column req.orderId = some order)

def paymentsOf (payments : List PaymentRow) (order : UUID) : List PaymentRow :=
  payments.filter fun row => decide (row.orderId = order)

/-- The `SUCCEEDED` rows of an order. -/
def successes (payments : List PaymentRow) (order : UUID) : List PaymentRow :=
  payments.filter fun row =>
    decide (row.orderId = order ∧ row.status = .succeeded)

/-- The row is that of a charge that succeeded. -/
structure Settles
    (uuid : UuidText) (req : ChargeRequest) (row : PaymentRow) :
    Prop where
  order : uuid.column req.orderId = some row.orderId
  amount : row.amountCents = req.amountCents
  status : row.status = .succeeded

structure Accounted
    (uuid : UuidText) (sent : List Sent) (state : State) : Prop where
  numbered : Numbered Sent.call sent state.calls.next
  running : ∀ {id req}, state.calls.get id = some req → ⟨id, req⟩ ∈ sent
  counted :
    ∀ order,
      (paymentsOf state.payments order).length +
          state.calls.count (charges uuid order) ≤
        sent.countP fun call => charges uuid order call.req
  paid :
    ∀ {id}, (id, none) ∈ state.answers →
      ∃ req, ⟨id, req⟩ ∈ sent ∧ ∃ row ∈ state.payments, Settles uuid req row

theorem accounted_empty : Accounted uuid [] State.empty where
  numbered := .nil
  running := nofun
  counted := by
    intro order
    exact Nat.le_refl 0
  paid := nofun

theorem paymentsOf_append
    (payments : List PaymentRow) (row : PaymentRow) (order : UUID) :
    (paymentsOf (payments ++ [row]) order).length =
      (paymentsOf payments order).length +
        if row.orderId = order then 1 else 0 := by
  unfold paymentsOf
  rw [List.filter_append, List.length_append]
  by_cases same : row.orderId = order
  · simp [same]
  · simp [same]

theorem successes_length_le (payments : List PaymentRow) (order : UUID) :
    (successes payments order).length ≤ (paymentsOf payments order).length := by
  unfold successes paymentsOf
  rw [← List.countP_eq_length_filter, ← List.countP_eq_length_filter]
  apply List.countP_mono_left
  intro row _ counted
  exact decide_eq_true (of_decide_eq_true counted).1

section Step

variable {sent : List Sent} {state next : State} {label : Label}

theorem accounted_of_send
    (accounted : Accounted uuid sent state) (req : ChargeRequest) :
    Accounted uuid (⟨state.calls.next, req⟩ :: sent)
      { state with calls := state.calls.launch req } where
  numbered := accounted.numbered.cons rfl
  running := by
    intro id value found
    rcases Registry.cases_of_get_launch found with ⟨rfl, rfl⟩ | stored
    · exact List.mem_cons_self
    · exact List.mem_cons_of_mem _ (accounted.running stored)
  counted := by
    intro order
    have before := accounted.counted order
    have launched :
        (state.calls.launch req).count (charges uuid order) =
          state.calls.count (charges uuid order) +
            if charges uuid order req then 1 else 0 :=
      Registry.count_launch state.calls req _
    rw [List.countP_cons, launched, ← Nat.add_assoc]
    exact Nat.add_le_add_right before _
  paid := by
    intro id member
    obtain ⟨req, isSent, row⟩ := accounted.paid member
    exact ⟨req, List.mem_cons_of_mem _ isSent, row⟩

theorem accounted_of_finish
    {id : Nat} {req : ChargeRequest} (accounted : Accounted uuid sent state)
    (running : state.calls.get id = some req) :
    Accounted uuid sent { state with calls := state.calls.finish id } where
  numbered := accounted.numbered
  running := fun found =>
    accounted.running (Registry.get_of_get_finish found).2
  counted := by
    intro order
    have before := accounted.counted order
    have fewer := Registry.count_finish running (charges uuid order)
    have smaller :
        (state.calls.finish id).count (charges uuid order) ≤
          state.calls.count (charges uuid order) := by
      omega
    exact Nat.le_trans (Nat.add_le_add_left smaller _) before
  paid := accounted.paid

theorem accounted_of_charge {id : Nat} {req : ChargeRequest}
    {result : List PaymentRow × Option Status}
    (accounted : Accounted uuid sent state)
    (running : state.calls.get id = some req)
    (charged : Charged uuid state.payments req result) :
    Accounted uuid sent
      { payments := result.1
        calls := state.calls.finish id
        answers := (id, result.2) :: state.answers } := by
  have finished := accounted_of_finish accounted running
  cases charged with
  | nothing err =>
      refine ⟨finished.numbered, finished.running, finished.counted, ?_⟩
      intro other member
      rcases List.mem_cons.mp member with equal | earlier
      · cases equal
      · exact accounted.paid earlier
  | @recorded row reply order amount status =>
      refine ⟨finished.numbered, finished.running, ?_, ?_⟩
      · -- the call that ends makes room for its row
        intro wanted
        have before := accounted.counted wanted
        have sameOrder :
            charges uuid wanted req = decide (row.orderId = wanted) := by
          simp [charges, order]
        have fewer := Registry.count_finish running (charges uuid wanted)
        simp only [sameOrder, decide_eq_true_eq] at fewer
        have more := paymentsOf_append state.payments row wanted
        show
          (paymentsOf (state.payments ++ [row]) wanted).length +
              (state.calls.finish id).count (charges uuid wanted) ≤ _
        omega
      · intro other member
        rcases List.mem_cons.mp member with equal | earlier
        · cases equal
          exact ⟨req, accounted.running running, row,
            List.mem_append_right _ (List.mem_singleton_self row),
            order, amount, status rfl⟩
        · obtain ⟨old, isSent, paid, stored, settles⟩ := accounted.paid earlier
          exact ⟨old, isSent, paid, List.mem_append_left _ stored, settles⟩

theorem accounted_of_transition (accounted : Accounted uuid sent state)
    (transition : Transition uuid state label next) :
    Accounted uuid (label.sends state ++ sent) next := by
  cases transition with
  | begun req => exact accounted_of_send accounted req
  | served running charged =>
      exact accounted_of_charge accounted running charged
  | dropped running => exact accounted_of_finish accounted running

theorem answers_of_transition {answer : Nat × Option Status}
    (transition : Transition uuid state label next)
    (member : answer ∈ state.answers) : answer ∈ next.answers := by
  cases transition with
  | served => exact List.mem_cons_of_mem _ member
  | _ => exact member

theorem Accounted.row_of_success
    {call : Sent} (accounted : Accounted uuid sent state)
    (member : call ∈ sent) (succeeded : (call.call, none) ∈ state.answers) :
    ∃ row ∈ state.payments, Settles uuid call.req row := by
  obtain ⟨req, isSent, paid⟩ := accounted.paid succeeded
  have same : call = ⟨call.call, req⟩ :=
    accounted.numbered.distinct _ member _ isSent rfl
  rw [same]
  exact paid

end Step

end TicketWave.Payment
