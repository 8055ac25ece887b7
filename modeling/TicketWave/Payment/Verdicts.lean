import TicketWave.Payment.Receipts

/-! # Refused charges -/

namespace TicketWave.Payment

open Library

variable {uuid : UuidText}

section Call

variable {payments : List PaymentRow} {req : ChargeRequest}
  {outcome : Outcome} {paymentId : UUID}

/-- The `INSERT` of a call, with the error that the source wraps it in. -/
def insertAttempt
    (uuid : UuidText) (payments : List PaymentRow) (req : ChargeRequest)
    (outcome : Outcome) (paymentId : UUID) (status : PaymentStatus)
    (failure : String) : Attempt (List PaymentRow) Status :=
  attempt outcome payments
    (insertPayment uuid payments req paymentId status failure)
    (Status.wrapped failure)

theorem charge_of_accepted (accepted : declined req = false) :
    charge uuid payments req outcome paymentId =
      ((insertAttempt uuid payments req outcome paymentId .succeeded
          "record successful payment").db,
        (insertAttempt uuid payments req outcome paymentId .succeeded
          "record successful payment").error) := by
  unfold charge insertAttempt
  rw [if_neg (by simp [accepted])]
  dsimp only
  split <;> simp [*]

theorem charge_of_declined (isDeclined : declined req = true) :
    (charge uuid payments req outcome paymentId).1 =
      (insertAttempt uuid payments req outcome paymentId .failed
        "record failed payment").db := by
  unfold charge insertAttempt
  rw [if_pos isDeclined]
  dsimp only
  split <;> rfl

theorem insertAttempt_error {status : PaymentStatus} {failure : String}
    {err : Status}
    (failed :
      (insertAttempt uuid payments req outcome paymentId status
        failure).error = some err) : err = Status.wrapped failure := by
  have refused :
      ∀ {error : Status},
        insertPayment uuid payments req paymentId status failure =
            .error error →
          error = Status.wrapped failure := by
    intro error inserted
    unfold insertPayment at inserted
    split at inserted
    · cases inserted
      rfl
    · split at inserted
      · cases inserted
        rfl
      · cases inserted
  unfold insertAttempt at failed
  generalize insertPayment uuid payments req paymentId status failure = result
    at failed refused
  cases outcome with
  | done =>
      cases result with
      | ok next => cases failed
      | error error =>
          cases failed
          exact refused rfl
  | failed =>
      cases failed
      rfl
  | lost => cases result <;> cases failed <;> rfl

theorem mem_insertAttempt
    {status : PaymentStatus} {failure : String} {row : PaymentRow}
    (member :
      row ∈
        (insertAttempt uuid payments req outcome paymentId status failure).db) :
    row ∈ payments ∨
      uuid.column req.orderId = some row.orderId ∧ row.status = status := by
  unfold insertAttempt at member
  generalize tried :
    attempt outcome payments
      (insertPayment uuid payments req paymentId status failure)
      (Status.wrapped failure) = insert at member
  cases committed : insert.committed with
  | false =>
      have unchanged := (attempt_uncommitted (tried ▸ committed)).1
      rw [tried] at unchanged
      rw [unchanged] at member
      exact Or.inl member
  | true =>
      have ran := (attempt_committed (tried ▸ committed)).2
      rw [tried] at ran
      obtain ⟨new, order, _, isStatus, shape⟩ := insertPayment_ok ran
      rw [shape] at member
      rcases List.mem_append.mp member with old | isNew
      · exact Or.inl old
      · rw [List.mem_singleton.mp isNew]
        exact Or.inr ⟨order, isStatus⟩

theorem declined_of_refusal {err : Status}
    (answered : (charge uuid payments req outcome paymentId).2 = some err)
    (refusal : err.isRefusal = true) : declined req = true := by
  cases accepted : declined req with
  | true => rfl
  | false =>
      rw [charge_of_accepted accepted] at answered
      rw [insertAttempt_error answered] at refusal
      cases refusal

theorem success_of_charge {row : PaymentRow}
    (member : row ∈ (charge uuid payments req outcome paymentId).1)
    (succeeded : row.status = .succeeded) :
    row ∈ payments ∨
      uuid.column req.orderId = some row.orderId ∧ declined req = false := by
  cases isDeclined : declined req with
  | true =>
      rw [charge_of_declined isDeclined] at member
      rcases mem_insertAttempt member with old | ⟨_, failed⟩
      · exact Or.inl old
      · rw [succeeded] at failed
        cases failed
  | false =>
      rw [charge_of_accepted isDeclined] at member
      rcases mem_insertAttempt member with old | ⟨order, _⟩
      · exact Or.inl old
      · exact Or.inr ⟨order, rfl⟩

end Call

structure Ruled
    (uuid : UuidText) (sent : List Sent) (state : State) : Prop where
  running : ∀ {id req}, state.calls.get id = some req → ⟨id, req⟩ ∈ sent
  refused :
    ∀ {id err}, (id, some err) ∈ state.answers → err.isRefusal = true →
      ∃ req, ⟨id, req⟩ ∈ sent ∧ declined req = true
  succeeded :
    ∀ row ∈ state.payments, row.status = .succeeded →
      ∃ call ∈ sent, charges uuid row.orderId call.req = true ∧
        declined call.req = false

theorem ruled_empty : Ruled uuid [] State.empty where
  running := nofun
  refused := nofun
  succeeded := nofun

theorem ruled_of_step {sent : List Sent} {state next : State} {label : Label}
    (ruled : Ruled uuid sent state)
    (stepped : step uuid state label = some next) :
    Ruled uuid (label.sends state ++ sent) next := by
  cases label with
  | beginCall req =>
      cases stepped
      refine ⟨?_, ?_, ?_⟩
      · intro id value found
        rcases Registry.cases_of_get_launch found with ⟨rfl, rfl⟩ | stored
        · exact List.mem_cons_self
        · exact List.mem_cons_of_mem _ (ruled.running stored)
      · intro id err member refusal
        obtain ⟨value, isSent, isDeclined⟩ := ruled.refused member refusal
        exact ⟨value, List.mem_cons_of_mem _ isSent, isDeclined⟩
      · intro row member succeeded
        obtain ⟨call, isSent, facts⟩ := ruled.succeeded row member succeeded
        exact ⟨call, List.mem_cons_of_mem _ isSent, facts⟩
  | serve id outcome paymentId =>
      simp only [step] at stepped
      split at stepped
      · cases stepped
      · rename_i req running
        cases stepped
        have isSent := ruled.running running
        refine ⟨fun found => ruled.running (Registry.get_of_get_finish found).2,
          ?_, ?_⟩
        · intro other err member refusal
          rcases List.mem_cons.mp member with isNew | old
          · obtain ⟨rfl, answered⟩ := Prod.mk.inj isNew
            exact ⟨req, isSent, declined_of_refusal answered.symm refusal⟩
          · exact ruled.refused old refusal
        · intro row member succeeded
          rcases success_of_charge member succeeded with
            old | ⟨order, accepted⟩
          · exact ruled.succeeded row old succeeded
          · exact ⟨_, isSent, decide_eq_true order, accepted⟩
  | drop id =>
      simp only [step] at stepped
      split at stepped
      · cases stepped
      · cases stepped
        exact ⟨fun found => ruled.running (Registry.get_of_get_finish found).2,
          ruled.refused, ruled.succeeded⟩

end TicketWave.Payment
