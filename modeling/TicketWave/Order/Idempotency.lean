import TicketWave.Order.Ledger

/-! # One charge for each idempotency key -/

namespace TicketWave.Order

open Library

variable {uuid : UuidText}

/-- The entry belongs to a call of the user with the key. -/
def Entry.isFor
    (uuid : UuidText) (user : UUID) (key : String) (entry : Entry) : Bool :=
  decide
    (uuid.parse entry.req.userId = some user ∧ entry.req.idempotencyKey = key)

/-- The rows of the user with the key. -/
def keyedRows (db : Db) (user : UUID) (key : String) : List OrderRow :=
  db.orders.filter fun row =>
    decide (row.userId = user ∧ row.idempotencyKey = some key)

theorem keyedRows_length_le_one {db : Db} (consistent : Consistent uuid db)
    (user : UUID) (key : String) : (keyedRows db user key).length ≤ 1 := by
  have distinct : (keyedRows db user key).Nodup :=
    (List.Nodup.of_map OrderRow.id consistent.orderIds).sublist
      List.filter_sublist
  have same :
      ∀ left ∈ keyedRows db user key, ∀ right ∈ keyedRows db user key,
        left = right := by
    intro left leftMember right rightMember
    obtain ⟨leftStored, leftMatches⟩ := List.mem_filter.mp leftMember
    obtain ⟨rightStored, rightMatches⟩ := List.mem_filter.mp rightMember
    obtain ⟨leftUser, leftKey⟩ := of_decide_eq_true leftMatches
    obtain ⟨rightUser, rightKey⟩ := of_decide_eq_true rightMatches
    have keyed : left.idempotencyKey.isSome := by
      rw [leftKey]
      rfl
    exact consistent.keys left leftStored right rightStored
      (leftUser.trans rightUser.symm) (leftKey.trans rightKey.symm) keyed
  match rows : keyedRows db user key with
  | [] => exact Nat.zero_le 1
  | [_] => exact Nat.le_refl 1
  | first :: second :: rest =>
      rw [rows] at distinct same
      have equal : first = second :=
        same first List.mem_cons_self second
          (List.mem_cons_of_mem first List.mem_cons_self)
      have different := (List.nodup_cons.mp distinct).1
      rw [equal] at different
      exact absurd List.mem_cons_self different

/-- Everything done for a user and a key was done by one run. -/
theorem run_unique_of_key {state : State uuid} {user : UUID} {key : String}
    {left right : Entry} (ledger : Ledger state) (keyed : key ≠ "")
    (leftMember : left ∈ state.log) (rightMember : right ∈ state.log)
    (leftFor : left.isFor uuid user key = true)
    (rightFor : right.isFor uuid user key = true) : left.run = right.run := by
  -- the row of such an entry has the user and the key
  have row_of :
      ∀ entry ∈ state.log, entry.isFor uuid user key = true →
        ∃ row ∈ state.db.orders, row.id = entry.orderId ∧
          row.userId = user ∧ row.idempotencyKey = some key := by
    intro entry member isFor
    obtain ⟨parsed, hasKey⟩ := of_decide_eq_true isFor
    have origin := ledger.origin entry member
    obtain ⟨row, stored, same, stores⟩ := ledger.stored _ origin rfl
    refine ⟨row, stored, same, uuid.column_agrees parsed stores.user, ?_⟩
    rw [stores.key, hasKey, nullIfEmpty, if_neg keyed]
  obtain ⟨leftRow, leftStored, leftId, leftUser, leftKey⟩ :=
    row_of left leftMember leftFor
  obtain ⟨rightRow, rightStored, rightId, rightUser, rightKey⟩ :=
    row_of right rightMember rightFor
  have isSome : leftRow.idempotencyKey.isSome := by
    rw [leftKey]
    rfl
  have sameRow :=
    ledger.books.consistent.keys leftRow leftStored rightRow rightStored
      (leftUser.trans rightUser.symm) (leftKey.trans rightKey.symm) isSome
  have sameOrder : left.orderId = right.orderId := by
    rw [← leftId, ← rightId, sameRow]
  exact run_unique ledger leftMember rightMember sameOrder

theorem countP_le_charges {log : List Entry} {chosen : Entry → Bool} {id : Nat}
    (mine : ∀ entry ∈ log, chosen entry = true → entry.run = id) :
    log.countP (fun entry => chosen entry && entry.isCharge) ≤
      charges log id := by
  apply List.countP_mono_left
  intro entry member counted
  obtain ⟨isChosen, isCharge⟩ := Bool.and_eq_true_iff.mp counted
  rw [isCharge, Bool.and_true]
  exact decide_eq_true (mine entry member isChosen)

/-- One charge for each user and idempotency key. -/
theorem one_charge_per_key {labels : List Label} {state : State uuid}
    (ran : run step (State.empty uuid) labels = some state) (user : UUID)
    (key : String) (keyed : key ≠ "") :
    (keyedRows state.db user key).length ≤ 1 ∧
    (∀ left ∈ state.log, ∀ right ∈ state.log,
      left.isFor uuid user key = true → right.isFor uuid user key = true →
        left.run = right.run) ∧
    state.log.countP
        (fun entry => entry.isFor uuid user key && entry.isCharge) ≤ 1 ∧
    (∀ label next, step state label = some next → next.db ≠ state.db →
      ∃ id outcome rowId now run action,
        label = .database id outcome rowId now ∧
          state.runs.get id = some run ∧
          next.log = run.entry id action :: state.log ∧
          (run.entry id action).wrote = true) := by
  have ledger := ledger_of_run ledger_empty ran
  have unique :
      ∀ left ∈ state.log, ∀ right ∈ state.log,
        left.isFor uuid user key = true →
          right.isFor uuid user key = true → left.run = right.run := by
    intro left leftMember right rightMember leftFor rightFor
    exact run_unique_of_key ledger keyed leftMember rightMember leftFor rightFor
  refine ⟨keyedRows_length_le_one ledger.books.consistent user key, unique,
    ?_, ?_⟩
  · by_cases some : ∃ entry ∈ state.log, entry.isFor uuid user key = true
    · obtain ⟨winner, member, isFor⟩ := some
      have mine :
          ∀ entry ∈ state.log, entry.isFor uuid user key = true →
            entry.run = winner.run := by
        intro entry entryMember entryFor
        exact unique entry entryMember winner member entryFor isFor
      exact Nat.le_trans (countP_le_charges mine) (ledger.charges winner.run)
    · have none :
          state.log.countP
            (fun entry => entry.isFor uuid user key && entry.isCharge) = 0 := by
        apply List.countP_eq_zero.mpr
        intro entry member counted
        exact some ⟨entry, member, (Bool.and_eq_true_iff.mp counted).1⟩
      rw [none]
      exact Nat.zero_le 1
  · intro label next stepped changed
    exact write_is_logged (transition_of_step stepped) changed

-- Two calls with the key of the same user: the second starts while the first
-- is charging and is told that the request is in progress.
private def duplicateLabels : List Label :=
  [.start (buyRequest "retry-1") 9, .database 0 .done 20 0,
    .invoke 0, .answer 0 none, .invoke 0,
    .start (buyRequest "retry-1") 8, .database 1 .done 21 0,
    .database 1 .done 22 0]

theorem one_charge_per_key_of_a_duplicate :
    ∃ state : State standardText,
      run step (State.empty standardText) duplicateLabels = some state ∧
        state.log.countP
          (fun entry =>
            entry.isFor standardText 1 "retry-1" && entry.isCharge) = 1 ∧
        (keyedRows state.db 1 "retry-1").length ≤ 1 := by
  have ends :
      (run step (State.empty standardText) duplicateLabels).any
          (fun state =>
            decide
              (state.log.countP
                (fun entry =>
                  entry.isFor standardText 1 "retry-1" && entry.isCharge) =
                1)) = true := by
    decide +kernel
  obtain ⟨state, ran, checked⟩ := (Option.any_eq_true _ _).mp ends
  have rows := (one_charge_per_key ran 1 "retry-1" (by decide)).1
  exact ⟨state, ran, of_decide_eq_true checked, rows⟩

end TicketWave.Order
