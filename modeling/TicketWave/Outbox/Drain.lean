import TicketWave.Outbox.Relay

/-!
# Draining the outbox

One publisher by itself, with Kafka and the database answering and no new
rows.
-/

namespace TicketWave.Outbox

open Library

variable {Payload : Type} {uuid : UuidText} {batch : Nat}
  {rows : List (Row Payload)}

/-- What a call of `publishBatch` returns, hands to `Publish` and leaves. -/
structure Batch (Payload : Type) where
  count : Nat
  sent : List (Message Payload)
  rows : List (Row Payload)

/-- `publishBatch` when nothing fails. -/
def publishBatch (uuid : UuidText) (batch : Nat) (rows : List (Row Payload)) :
    Batch Payload :=
  let taken := (pending rows).take batch
  if taken.length = 0 then
    ⟨0, [], rows⟩
  else
    ⟨taken.length, taken.map (Row.message uuid),
      markPublished (taken.map Row.id) rows⟩

/-- The loop of `Run` until it sleeps: the batches it has sent and the table
it leaves.  There is no result when `fuel` calls are not enough. -/
def drain (uuid : UuidText) (batch : Nat) :
    Nat → List (Row Payload) →
      Option (List (List (Message Payload)) × List (Row Payload))
  | 0, _ => none
  | fuel + 1, rows =>
      let result := publishBatch uuid batch rows
      if result.count = 0 then
        some ([], rows)
      else
        (drain uuid batch fuel result.rows).map fun later =>
          (result.sent :: later.1, later.2)

theorem pending_perm (rows : List (Row Payload)) :
    (pending rows).Perm (rows.filter fun row => !row.published) :=
  List.perm_insertionSort Row.before _

theorem pending_ids_nodup (distinct : (rows.map Row.id).Nodup) :
    ((pending rows).map Row.id).Nodup :=
  ((pending_perm rows).map Row.id).nodup_iff.mpr
    (distinct.sublist (List.filter_sublist.map Row.id))

theorem filter_markPublished (ids : List UUID) (rows : List (Row Payload)) :
    (markPublished ids rows).filter (fun row => !row.published) =
      (rows.filter fun row => !row.published).filter fun row =>
        decide (row.id ∉ ids) := by
  induction rows with
  | nil => rfl
  | cons row rest ih =>
      rw [markPublished, updateWhere, List.map_cons]
      by_cases marked : row.id ∈ ids
      · rw [if_pos (decide_eq_true marked),
          List.filter_cons_of_neg (by simp [Row.publish])]
        cases published : row.published with
        | true =>
            rw [List.filter_cons_of_neg (by simp [published])]
            exact ih
        | false =>
            rw [List.filter_cons_of_pos (by simp [published]),
              List.filter_cons_of_neg (by simp [marked])]
            exact ih
      · rw [if_neg (by simpa using marked)]
        cases published : row.published with
        | true =>
            rw [List.filter_cons_of_neg (by simp [published]),
              List.filter_cons_of_neg (by simp [published])]
            exact ih
        | false =>
            rw [List.filter_cons_of_pos (by simp [published]),
              List.filter_cons_of_pos (by simp [published]),
              List.filter_cons_of_pos (by simp [marked])]
            exact congrArg (List.cons row) ih

/-- After a batch the query reads on where the batch has stopped. -/
theorem pending_markPublished
    (distinct : (rows.map Row.id).Nodup) (batch : Nat) :
    pending (markPublished (((pending rows).take batch).map Row.id) rows) =
      (pending rows).drop batch := by
  rw [← filter_not_taken (pending_ids_nodup distinct) batch]
  have perm :
      (pending
          (markPublished (((pending rows).take batch).map Row.id) rows)).Perm
        ((pending rows).filter fun row =>
          decide (row.id ∉ ((pending rows).take batch).map Row.id)) := by
    apply (pending_perm _).trans
    rw [filter_markPublished]
    exact (pending_perm rows).symm.filter _
  have antisymmetric :
      ∀ left right,
        left ∈
            pending
              (markPublished (((pending rows).take batch).map Row.id) rows) →
          right ∈
              (pending rows).filter (fun row =>
                decide (row.id ∉ ((pending rows).take batch).map Row.id)) →
            left.before right → right.before left → left = right := by
    intro left right leftMember rightMember there back
    have stored :
        ∀ row ∈ (pending rows).filter (fun row =>
            decide (row.id ∉ ((pending rows).take batch).map Row.id)),
          row ∈ rows :=
      fun row member => (mem_pending.mp (List.mem_of_mem_filter member)).1
    exact row_unique distinct (stored left (perm.mem_iff.mp leftMember))
      (stored right rightMember) (Row.id_of_before there back)
  exact perm.eq_of_pairwise antisymmetric (pending_sorted _)
    ((pending_sorted rows).sublist List.filter_sublist)

theorem map_publish_markPublished
    (ids : List UUID) (rows : List (Row Payload)) :
    (markPublished ids rows).map Row.publish = rows.map Row.publish := by
  apply map_key_updateWhere
  intro row
  rfl

theorem map_publish_of_none (none : pending rows = []) :
    rows.map Row.publish = rows := by
  have same : ∀ row ∈ rows, row.publish = id row := by
    intro row member
    cases published : row.published with
    | true =>
        show ({ row with published := true } : Row Payload) = row
        rw [← published]
    | false =>
        have waits : row ∈ pending rows := mem_pending.mpr ⟨member, published⟩
        rw [none] at waits
        cases waits
  rw [List.map_congr_left same, List.map_id]

theorem batches_succ {count : Nat} (positive : 0 < batch) (some : 0 < count) :
    (count + batch - 1) / batch = (count - batch + batch - 1) / batch + 1 := by
  rcases Nat.lt_or_ge count batch with fewer | more
  · have first : (count + batch - 1) / batch = 1 := by
      apply Nat.div_eq_of_lt_le <;> omega
    have rest : (count - batch + batch - 1) / batch = 0 := by
      apply Nat.div_eq_of_lt
      omega
    rw [first, rest]
  · have shifted :
        count + batch - 1 = count - batch + batch - 1 + batch := by
      omega
    rw [shifted, Nat.add_div_right _ positive]

theorem drain_of_none {fuel : Nat} (none : pending rows = []) :
    drain uuid batch (fuel + 1) rows = some ([], rows.map Row.publish) := by
  simp [drain, publishBatch, none, map_publish_of_none none]

theorem drain_of_some
    {fuel : Nat} (positive : 0 < batch) (found : pending rows ≠ []) :
    drain uuid batch (fuel + 1) rows =
      (drain uuid batch fuel
        (markPublished (((pending rows).take batch).map Row.id) rows)).map
          fun later =>
            (((pending rows).take batch).map (Row.message uuid) :: later.1,
              later.2) := by
  have taken : ((pending rows).take batch).length ≠ 0 := by
    have waiting := List.length_pos_of_ne_nil found
    rw [List.length_take]
    omega
  simp only [drain, publishBatch, if_neg taken]

theorem drain_of_pending
    {fuel : Nat} (distinct : (rows.map Row.id).Nodup) (positive : 0 < batch)
    (enough : ((pending rows).length + batch - 1) / batch < fuel) :
    ∃ batches,
      drain uuid batch fuel rows = some (batches, rows.map Row.publish) ∧
        batches.flatten = (pending rows).map (Row.message uuid) ∧
        batches.length = ((pending rows).length + batch - 1) / batch ∧
        ∀ sent ∈ batches, sent ≠ [] ∧ sent.length ≤ batch := by
  -- each batch of the induction takes the front of the query off
  induction fuel generalizing rows with
  | zero => exact absurd enough (Nat.not_lt_zero _)
  | succ fuel ih =>
      by_cases none : pending rows = []
      · refine ⟨[], drain_of_none none, by rw [none]; rfl, ?_, ?_⟩
        · rw [none]
          apply (Nat.div_eq_of_lt _).symm
          rw [List.length_nil, Nat.zero_add]
          exact Nat.sub_lt positive Nat.one_pos
        · exact nofun
      · have waiting := List.length_pos_of_ne_nil none
        have left := pending_markPublished distinct batch
        have leftCount :
            (pending
              (markPublished (((pending rows).take batch).map Row.id)
                rows)).length = (pending rows).length - batch := by
          rw [left, List.length_drop]
        have oneMore := batches_succ positive waiting
        obtain ⟨batches, drained, together, count, each⟩ :=
          @ih
            (markPublished (((pending rows).take batch).map Row.id) rows)
            (by rw [markPublished_ids]; exact distinct)
            (by rw [leftCount]; omega)
        refine ⟨((pending rows).take batch).map (Row.message uuid) :: batches,
          ?_, ?_, ?_, ?_⟩
        · rw [drain_of_some positive none, drained, Option.map_some,
            map_publish_markPublished]
        · rw [List.flatten_cons, together, left, ← List.map_append,
            List.take_append_drop]
        · rw [List.length_cons, count, leftCount, oneMore]
        · intro sent member
          rcases List.mem_cons.mp member with rfl | later
          · have taken : 0 < ((pending rows).take batch).length := by
              rw [List.length_take]
              omega
            refine ⟨?_, ?_⟩
            · intro empty
              rw [List.map_eq_nil_iff.mp empty] at taken
              exact absurd taken (Nat.lt_irrefl 0)
            · rw [List.length_map, List.length_take]
              exact Nat.min_le_left batch _
          · exact each sent later

/-- Every unpublished row goes out once, in the order of creation, and the
loop stops after as many batches as the rows fill. -/
theorem draining_is_complete_and_in_order
    {fuel : Nat} (distinct : (rows.map Row.id).Nodup) (positive : 0 < batch)
    (enough :
      ((rows.filter fun row => !row.published).length + batch - 1) / batch <
        fuel) :
    ∃ (waiting : List (Row Payload)) (batches : List (List (Message Payload))),
      waiting.Perm (rows.filter fun row => !row.published) ∧
        waiting.Pairwise Row.before ∧ (waiting.map Row.id).Nodup ∧
        drain uuid batch fuel rows = some (batches, rows.map Row.publish) ∧
        batches.flatten =
          waiting.map (fun row =>
            { key := uuid.string row.key
              value := row.payload
              messageId := uuid.string row.id
              eventType := row.eventType }) ∧
        batches.length =
          ((rows.filter fun row => !row.published).length + batch - 1) /
            batch ∧
        ∀ sent ∈ batches, sent ≠ [] ∧ sent.length ≤ batch := by
  rw [← (pending_perm rows).length_eq] at enough ⊢
  obtain ⟨batches, drained, together, count, each⟩ :=
    drain_of_pending distinct positive enough
  exact ⟨pending rows, batches, pending_perm rows, pending_sorted rows,
    pending_ids_nodup distinct, drained, together, count, each⟩

-- Five rows, one of them published, in batches of two.
private def drainRow (id createdAt : Nat) (published : Bool) : Row Nat where
  id := BitVec.ofNat 128 id
  key := 1
  eventType := "order.paid"
  payload := id
  published := published
  createdAt := createdAt

private def drainRows : List (Row Nat) :=
  [drainRow 5 9 false, drainRow 6 7 false, drainRow 7 3 true,
    drainRow 4 9 false, drainRow 8 8 false, drainRow 9 9 false]

theorem draining_five_rows_takes_three_batches :
    ∃ batches,
      drain standardText 2 4 drainRows =
          some (batches, drainRows.map Row.publish) ∧
        batches.length = 3 ∧
        batches.map (List.map Message.value) = [[6, 8], [4, 5], [9]] := by
  obtain ⟨_, batches, _, _, _, drained, _, count, _⟩ :=
    @draining_is_complete_and_in_order _ standardText 2 drainRows 4
      (by decide +kernel) (by decide) (by decide +kernel)
  have values :
      (drain standardText 2 4 drainRows).map (fun result =>
        result.1.map (List.map Message.value)) =
          some [[6, 8], [4, 5], [9]] := by
    decide +kernel
  rw [drained] at values
  exact ⟨batches, drained, count, Option.some.inj values⟩

-- A batch of a publisher that is alone, as steps of the relay, comes to what
-- `publishBatch` says.
section Relay

variable [DecidableEq Payload] {relay : Relay Payload}

def batchLabels (relay : Relay Payload) : List (Label Payload) :=
  [.select ((pending relay.rows).take batchSize), .publish relay.txs.next,
    .accept relay.txs.next, .update relay.txs.next, .commit relay.txs.next]

theorem selectable_of_idle (idle : ∀ id, relay.txs.get id = none) :
    relay.selectable ((pending relay.rows).take batchSize) = true := by
  apply decide_eq_true
  refine ⟨List.length_take_le _ _, List.take_sublist _ _, ?_⟩
  intro row _
  apply Bool.eq_false_iff.mpr
  intro locked
  obtain ⟨id, tx, found, _⟩ := Registry.any_eq_true_iff.mp locked
  rw [idle id] at found
  cases found

/-- The five steps of a batch, one after the other. -/
theorem run_batchLabels (idle : ∀ id, relay.txs.get id = none)
    (found : (pending relay.rows).take batchSize ≠ []) :
    ∃ next,
      run step relay (batchLabels relay) = some next ∧
        next.rows = (publishBatch uuid batchSize relay.rows).rows ∧
        next.log.map (Event.messages uuid) =
          List.replicate 3 (publishBatch uuid batchSize relay.rows).sent ++
            relay.log.map (Event.messages uuid) ∧
        ∀ id, next.txs.get id = none := by
  have positive : ((pending relay.rows).take batchSize).length ≠ 0 :=
    mt List.length_eq_zero_iff.mp found
  let id := relay.txs.next
  let taken := (pending relay.rows).take batchSize
  let selected : Relay Payload :=
    { relay with txs := relay.txs.launch ⟨taken, .selected, true⟩ }
  let handed :=
    (selected.advance id ⟨taken, .selected, true⟩ .publishing).record .handed id
      ⟨taken, .selected, true⟩
  let accepted :=
    (handed.advance id ⟨taken, .publishing, true⟩ .sent).record .accepted id
      ⟨taken, .publishing, true⟩
  let marked := accepted.advance id ⟨taken, .sent, true⟩ .marked
  let committed : Relay Payload :=
    { rows := markPublished (taken.map Row.id) relay.rows
      txs := marked.txs.finish id
      log := ⟨.committed, id, taken⟩ :: accepted.log }
  have isSelected : selected.txs.get id = some ⟨taken, .selected, true⟩ :=
    Registry.get_launch_self relay.txs _
  have isHanded : handed.txs.get id = some ⟨taken, .publishing, true⟩ :=
    Registry.get_put_self isSelected
  have isAccepted : accepted.txs.get id = some ⟨taken, .sent, true⟩ :=
    Registry.get_put_self isHanded
  have isMarked : marked.txs.get id = some ⟨taken, .marked, true⟩ :=
    Registry.get_put_self isAccepted
  have selects : step relay (.select taken) = some selected := by
    simp only [step, taken, selectable_of_idle idle, if_true, if_neg positive]
    rfl
  have hands : step selected (.publish id) = some handed := by
    simp only [step, isSelected]
    rfl
  have accepts : step handed (.accept id) = some accepted := by
    simp only [step, isHanded]
    rfl
  have marks : step accepted (.update id) = some marked := by
    simp only [step, isAccepted]
    rfl
  have commits : step marked (.commit id) = some committed := by
    simp only [step, isMarked]
    rfl
  have result :
      publishBatch uuid batchSize relay.rows =
        ⟨taken.length, taken.map (Row.message uuid),
          markPublished (taken.map Row.id) relay.rows⟩ := by
    simp only [publishBatch, if_neg positive]
    rfl
  refine ⟨committed, ?_, by rw [result], by rw [result]; rfl, ?_⟩
  · rw [batchLabels, run, selects, Option.bind_some, run, hands,
      Option.bind_some, run, accepts, Option.bind_some, run, marks,
      Option.bind_some, run, commits]
    rfl
  · intro other
    by_cases same : other = id
    · rw [same, Registry.get_finish, if_pos rfl]
    · have unchanged : marked.txs.get other = selected.txs.get other :=
        (Registry.get_put_of_ne same).trans
          ((Registry.get_put_of_ne same).trans (Registry.get_put_of_ne same))
      rw [Registry.get_finish_of_ne same, unchanged, Registry.get_launch,
        if_neg same, idle other]

end Relay

end TicketWave.Outbox
