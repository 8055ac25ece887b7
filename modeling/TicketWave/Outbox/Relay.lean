import TicketWave.Library.Registry
import TicketWave.Library.Runs
import TicketWave.Outbox.Table
import Mathlib.Data.List.Sort

/-!
# The outbox relay

`publishBatch` of `pkg/outbox`, run by any number of publishers on one table.
An abort releases the locks and leaves the table as it was, and Kafka may have
accepted the rows of an aborted transaction.  Postgres may also end a
transaction by itself, which its publisher learns from the `UPDATE` or the
`COMMIT`.  `log` only records the calls of `Publish`, their successful returns
and the commits.
-/

namespace TicketWave.Outbox

open Library

variable {Payload : Type}

/-- `ORDER BY created_at, id` -/
def Row.before (left right : Row Payload) : Prop :=
  left.createdAt < right.createdAt ∨
    left.createdAt = right.createdAt ∧ left.id ≤ right.id

instance (left right : Row Payload) : Decidable (left.before right) :=
  inferInstanceAs
    (Decidable
      (left.createdAt < right.createdAt ∨
        left.createdAt = right.createdAt ∧ left.id ≤ right.id))

/-- What `selectSQL` reads, apart from its limit and the locks. -/
def pending (rows : List (Row Payload)) : List (Row Payload) :=
  (rows.filter fun row => !row.published).insertionSort Row.before

def Row.publish (row : Row Payload) : Row Payload :=
  { row with published := true }

/-- `updateSQL` -/
def markPublished (ids : List UUID) (rows : List (Row Payload)) :
    List (Row Payload) :=
  updateWhere (fun row => decide (row.id ∈ ids)) Row.publish rows

/-- The limit of a batch. -/
def batchSize : Nat := 100

structure Message (Payload : Type) where
  key : String
  value : Payload
  messageId : String
  eventType : String
  deriving DecidableEq, Repr

def Row.message (uuid : UuidText) (row : Row Payload) : Message Payload where
  key := uuid.string row.key
  value := row.payload
  messageId := uuid.string row.id
  eventType := row.eventType

inductive Phase where
  /-- the rows are locked and read -/
  | selected
  /-- `Publish` has been called -/
  | publishing
  /-- `Publish` has returned nil -/
  | sent
  /-- the `UPDATE` has run -/
  | marked
  deriving DecidableEq, Repr

/-- A publisher with its batch, and whether its transaction is open. -/
structure Tx (Payload : Type) where
  rows : List (Row Payload)
  phase : Phase
  isOpen : Bool

def Tx.ids (tx : Tx Payload) : List UUID :=
  tx.rows.map Row.id

inductive Kind where
  | handed
  /-- handed to `Publish` after the transaction has ended -/
  | late
  | accepted
  | committed
  deriving DecidableEq, Repr

/-- The event is a call of `Publish`. -/
def Kind.hands : Kind → Bool
  | .handed | .late => true
  | .accepted | .committed => false

def Tx.handing (tx : Tx Payload) : Kind :=
  if tx.isOpen then .handed else .late

structure Event (Payload : Type) where
  kind : Kind
  tx : Nat
  rows : List (Row Payload)

def Event.ids (event : Event Payload) : List UUID :=
  event.rows.map Row.id

/-- The arguments of the `Publish` call the event is about. -/
def Event.messages (uuid : UuidText) (event : Event Payload) :
    List (Message Payload) :=
  event.rows.map (Row.message uuid)

structure Relay (Payload : Type) where
  rows : List (Row Payload)
  txs : Registry (Tx Payload)
  log : List (Event Payload)

def Relay.empty (Payload : Type) : Relay Payload where
  rows := []
  txs := Registry.empty
  log := []

/-- Some open transaction has locked the row. -/
def Relay.locked (relay : Relay Payload) (row : Row Payload) : Bool :=
  relay.txs.any fun tx => tx.isOpen && decide (row.id ∈ tx.ids)

def Relay.advance (relay : Relay Payload) (id : Nat) (tx : Tx Payload)
    (phase : Phase) : Relay Payload :=
  { relay with txs := relay.txs.put id { tx with phase := phase } }

def Relay.record (relay : Relay Payload) (kind : Kind) (id : Nat)
    (tx : Tx Payload) : Relay Payload :=
  { relay with log := ⟨kind, id, tx.rows⟩ :: relay.log }

inductive Label (Payload : Type) where
  /-- a service commits a new row -/
  | insert (row : Row Payload)
  /-- a publisher begins a batch and reads these rows -/
  | select (taken : List (Row Payload))
  /-- `Publish` is called -/
  | publish (tx : Nat)
  /-- `Publish` returns nil -/
  | accept (tx : Nat)
  | update (tx : Nat)
  | commit (tx : Nat)
  | abort (tx : Nat)
  /-- the database ends the transaction, and its publisher does not notice -/
  | drop (tx : Nat)

section Step

variable [DecidableEq Payload]

/-- `SKIP LOCKED`: any unlocked rows in the order of the query, up to the
limit. -/
def Relay.selectable (relay : Relay Payload) (taken : List (Row Payload)) :
    Bool :=
  decide
    (taken.length ≤ batchSize ∧ taken.Sublist (pending relay.rows) ∧
      ∀ row ∈ taken, relay.locked row = false)

def step (relay : Relay Payload) : Label Payload → Option (Relay Payload)
  | .insert row =>
      if row.published then
        none
      else
        (Outbox.insert relay.rows row).map fun rows =>
          { relay with rows := rows }
  | .select taken =>
      if relay.selectable taken then
        if taken.length = 0 then
          some relay
        else
          some
            { relay with txs := relay.txs.launch ⟨taken, .selected, true⟩ }
      else
        none
  | .publish id =>
      match relay.txs.get id with
      | some ⟨rows, .selected, isOpen⟩ =>
          let tx : Tx Payload := ⟨rows, .selected, isOpen⟩
          some ((relay.advance id tx .publishing).record tx.handing id tx)
      | _ => none
  | .accept id =>
      match relay.txs.get id with
      | some ⟨rows, .publishing, isOpen⟩ =>
          let tx : Tx Payload := ⟨rows, .publishing, isOpen⟩
          some ((relay.advance id tx .sent).record .accepted id tx)
      | _ => none
  | .update id =>
      match relay.txs.get id with
      | some ⟨rows, .sent, true⟩ =>
          some (relay.advance id ⟨rows, .sent, true⟩ .marked)
      | _ => none
  | .commit id =>
      match relay.txs.get id with
      | some ⟨rows, .marked, true⟩ =>
          some
            { rows := markPublished (rows.map Row.id) relay.rows
              txs := relay.txs.finish id
              log := ⟨.committed, id, rows⟩ :: relay.log }
      | _ => none
  | .abort id =>
      match relay.txs.get id with
      | some _ => some { relay with txs := relay.txs.finish id }
      | none => none
  | .drop id =>
      match relay.txs.get id with
      | some tx =>
          some
            { relay with txs := relay.txs.put id { tx with isOpen := false } }
      | none => none

inductive Transition (relay : Relay Payload) :
    Label Payload → Relay Payload → Prop
  | inserted
      {row : Row Payload} (fresh : row.id ∉ relay.rows.map Row.id)
      (unpublished : row.published = false) :
      Transition relay (.insert row)
        { relay with rows := relay.rows ++ [row] }
  | nothing : Transition relay (.select []) relay
  | selected
      {taken : List (Row Payload)}
      (reads : taken.Sublist (pending relay.rows))
      (unlocked : ∀ row ∈ taken, relay.locked row = false) :
      Transition relay (.select taken)
        { relay with txs := relay.txs.launch ⟨taken, .selected, true⟩ }
  | handed
      {id : Nat} {tx : Tx Payload}
      (found : relay.txs.get id = some tx) (phase : tx.phase = .selected) :
      Transition relay (.publish id)
        ((relay.advance id tx .publishing).record tx.handing id tx)
  | accepted
      {id : Nat} {tx : Tx Payload}
      (found : relay.txs.get id = some tx) (phase : tx.phase = .publishing) :
      Transition relay (.accept id)
        ((relay.advance id tx .sent).record .accepted id tx)
  | updated
      {id : Nat} {tx : Tx Payload}
      (found : relay.txs.get id = some tx) (phase : tx.phase = .sent)
      (isOpen : tx.isOpen = true) :
      Transition relay (.update id) (relay.advance id tx .marked)
  | committed
      {id : Nat} {tx : Tx Payload}
      (found : relay.txs.get id = some tx) (phase : tx.phase = .marked)
      (isOpen : tx.isOpen = true) :
      Transition relay (.commit id)
        { rows := markPublished tx.ids relay.rows
          txs := relay.txs.finish id
          log := ⟨.committed, id, tx.rows⟩ :: relay.log }
  | aborted
      {id : Nat} {tx : Tx Payload} (found : relay.txs.get id = some tx) :
      Transition relay (.abort id)
        { relay with txs := relay.txs.finish id }
  | dropped
      {id : Nat} {tx : Tx Payload} (found : relay.txs.get id = some tx) :
      Transition relay (.drop id)
        { relay with txs := relay.txs.put id { tx with isOpen := false } }

theorem transition_of_step {relay next : Relay Payload} {label : Label Payload}
    (stepped : step relay label = some next) : Transition relay label next := by
  cases label with
  | insert row =>
      simp only [step] at stepped
      split at stepped
      · cases stepped
      · rename_i unpublished
        unfold Outbox.insert at stepped
        split at stepped
        · cases stepped
        · rename_i fresh
          cases stepped
          exact .inserted fresh (Bool.eq_false_iff.mpr unpublished)
  | select taken =>
      simp only [step] at stepped
      split at stepped
      · rename_i selectable
        obtain ⟨_, reads, unlocked⟩ := of_decide_eq_true selectable
        split at stepped
        · rename_i none
          cases stepped
          rw [List.length_eq_zero_iff.mp none]
          exact .nothing
        · cases stepped
          exact .selected reads unlocked
      · cases stepped
  | publish id =>
      simp only [step] at stepped
      split at stepped
      · rename_i rows isOpen found
        cases stepped
        exact .handed found rfl
      · cases stepped
  | accept id =>
      simp only [step] at stepped
      split at stepped
      · rename_i rows isOpen found
        cases stepped
        exact .accepted found rfl
      · cases stepped
  | update id =>
      simp only [step] at stepped
      split at stepped
      · rename_i rows found
        cases stepped
        exact .updated found rfl rfl
      · cases stepped
  | commit id =>
      simp only [step] at stepped
      split at stepped
      · rename_i rows found
        cases stepped
        exact .committed found rfl rfl
      · cases stepped
  | abort id =>
      simp only [step] at stepped
      split at stepped
      · rename_i tx found
        cases stepped
        exact .aborted found
      · cases stepped
  | drop id =>
      simp only [step] at stepped
      split at stepped
      · rename_i tx found
        cases stepped
        exact .dropped found
      · cases stepped

end Step

variable {rows : List (Row Payload)} {row : Row Payload}

theorem mem_pending :
    row ∈ pending rows ↔ row ∈ rows ∧ row.published = false := by
  unfold pending
  rw [List.mem_insertionSort, List.mem_filter]
  simp

theorem Row.before_total (left right : Row Payload) :
    left.before right ∨ right.before left := by
  unfold Row.before
  rcases Nat.lt_trichotomy left.createdAt right.createdAt with
    earlier | same | later
  · exact Or.inl (Or.inl earlier)
  · rcases BitVec.le_total left.id right.id with smaller | greater
    · exact Or.inl (Or.inr ⟨same, smaller⟩)
    · exact Or.inr (Or.inr ⟨same.symm, greater⟩)
  · exact Or.inr (Or.inl later)

theorem Row.before_trans {first second third : Row Payload}
    (left : first.before second) (right : second.before third) :
    first.before third := by
  unfold Row.before at *
  rcases left with earlier | ⟨same, smaller⟩
  · rcases right with earlier' | ⟨same', _⟩
    · exact Or.inl (Nat.lt_trans earlier earlier')
    · exact Or.inl (same' ▸ earlier)
  · rcases right with earlier | ⟨same', smaller'⟩
    · exact Or.inl (same ▸ earlier)
    · exact Or.inr ⟨same.trans same', BitVec.le_trans smaller smaller'⟩

theorem Row.id_of_before {left right : Row Payload} (there : left.before right)
    (back : right.before left) : left.id = right.id := by
  unfold Row.before at *
  rcases there with earlier | ⟨_, smaller⟩
  · rcases back with later | ⟨same, _⟩ <;> omega
  · rcases back with later | ⟨_, greater⟩
    · omega
    · exact BitVec.le_antisymm smaller greater

instance : Std.Total (@Row.before Payload) :=
  ⟨Row.before_total⟩

instance : IsTrans (Row Payload) Row.before :=
  ⟨fun _ _ _ => Row.before_trans⟩

theorem pending_sorted (rows : List (Row Payload)) :
    (pending rows).Pairwise Row.before :=
  List.pairwise_insertionSort Row.before _

theorem pending_nodup (distinct : (rows.map Row.id).Nodup) :
    (pending rows).Nodup := by
  have rowsNodup : rows.Nodup := List.Nodup.of_map Row.id distinct
  exact (List.perm_insertionSort Row.before _).nodup_iff.mpr
    (rowsNodup.sublist List.filter_sublist)

theorem markPublished_ids (ids : List UUID) (rows : List (Row Payload)) :
    (markPublished ids rows).map Row.id = rows.map Row.id :=
  map_key_updateWhere (by intro row; rfl) rows

theorem mem_markPublished {ids : List UUID} :
    row ∈ markPublished ids rows ↔
      ∃ old ∈ rows, (if old.id ∈ ids then old.publish else old) = row := by
  unfold markPublished
  rw [mem_updateWhere]
  simp only [decide_eq_true_eq]

/-- A row that is published already stays as it is. -/
theorem published_of_markPublished {ids : List UUID} (member : row ∈ rows)
    (published : row.published = true) : row ∈ markPublished ids rows := by
  refine mem_markPublished.mpr ⟨row, member, ?_⟩
  have same : row.publish = row := by
    unfold Row.publish
    rw [← published]
  rw [same, ite_self]

/-- There is no open transaction with this number. -/
def Closed (txs : Registry (Tx Payload)) (id : Nat) : Prop :=
  ∀ tx, txs.get id = some tx → tx.isOpen = false

/-- A call of `Publish` in an open transaction repeats a row of an earlier
call only when the earlier transaction is over without a commit. -/
def Superseded (txs : Registry (Tx Payload)) (log : List (Event Payload))
    (newer older : Event Payload) : Prop :=
  newer.kind = .handed → older.kind.hands = true →
    ∀ id ∈ newer.ids, id ∈ older.ids →
      Closed txs older.tx ∧
        ∀ event ∈ log, event.tx = older.tx → event.kind ≠ .committed

structure Sound (relay : Relay Payload) : Prop where
  rowIds : (relay.rows.map Row.id).Nodup
  held :
    ∀ {id tx}, relay.txs.get id = some tx → tx.isOpen = true →
      ∀ row ∈ tx.rows, row ∈ relay.rows ∧ row.published = false
  alone :
    ∀ {left right leftTx rightTx}, relay.txs.get left = some leftTx →
      leftTx.isOpen = true → relay.txs.get right = some rightTx →
        rightTx.isOpen = true →
          ∀ id ∈ leftTx.ids, id ∈ rightTx.ids → left = right
  bounded : ∀ event ∈ relay.log, event.tx < relay.txs.next
  current :
    ∀ {id tx}, relay.txs.get id = some tx →
      ∀ event ∈ relay.log, event.tx = id →
        event.rows = tx.rows ∧ event.kind ≠ .committed ∧ tx.phase ≠ .selected
  accepted :
    ∀ {id tx}, relay.txs.get id = some tx →
      tx.phase = .sent ∨ tx.phase = .marked →
        ⟨.accepted, id, tx.rows⟩ ∈ relay.log
  together :
    ∀ left ∈ relay.log, ∀ right ∈ relay.log, left.tx = right.tx →
      left.rows = right.rows
  published :
    ∀ row ∈ relay.rows, row.published = true →
      ∃ event ∈ relay.log, event.kind = .accepted ∧
        ∃ old ∈ event.rows, row = old.publish
  committed :
    ∀ event ∈ relay.log, event.kind = .committed →
      ∀ row ∈ event.rows, row.publish ∈ relay.rows
  again : relay.log.Pairwise (Superseded relay.txs relay.log)

theorem sound_empty : Sound (Relay.empty Payload) where
  rowIds := List.nodup_nil
  held := nofun
  alone := nofun
  bounded := nofun
  current := nofun
  accepted := nofun
  together := nofun
  published := nofun
  committed := nofun
  again := .nil

section Keep

variable {relay : Relay Payload} {id : Nat} {tx : Tx Payload}

/-- What is over stays over, and only an open transaction commits. -/
theorem again_mono {txs : Registry (Tx Payload)} {log : List (Event Payload)}
    (sound : Sound relay)
    (gone : ∀ other < relay.txs.next, Closed relay.txs other → Closed txs other)
    (commits :
      ∀ event ∈ log, event.kind = .committed →
        event ∈ relay.log ∨ ¬ Closed relay.txs event.tx) :
    relay.log.Pairwise (Superseded txs log) := by
  apply List.Pairwise.imp_of_mem _ sound.again
  intro newer older _ olderMember superseded newerHanded olderHanded id
    newerId olderId
  obtain ⟨ended, uncommitted⟩ :=
    superseded newerHanded olderHanded id newerId olderId
  refine ⟨gone older.tx (sound.bounded older olderMember) ended, ?_⟩
  intro event member same isCommitted
  rcases commits event member isCommitted with old | isOpen
  · exact uncommitted event old same isCommitted
  · rw [same] at isOpen
    exact isOpen ended

theorem Sound.held_unique {row : Row Payload} (sound : Sound relay)
    (found : relay.txs.get id = some tx) (isOpen : tx.isOpen = true)
    (member : row ∈ relay.rows) (locked : row.id ∈ tx.ids) :
    row ∈ tx.rows ∧ row.published = false := by
  obtain ⟨own, ownMember, same⟩ := List.mem_map.mp locked
  obtain ⟨stored, unpublished⟩ := sound.held found isOpen own ownMember
  have isOwn : own = row := row_unique sound.rowIds stored member same
  rw [← isOwn]
  exact ⟨ownMember, unpublished⟩

theorem sound_insert {row : Row Payload} (sound : Sound relay)
    (fresh : row.id ∉ relay.rows.map Row.id)
    (unpublished : row.published = false) :
    Sound { relay with rows := relay.rows ++ [row] } where
  rowIds := nodup_keys_append sound.rowIds fresh
  held := by
    intro id tx found isOpen old member
    obtain ⟨stored, isUnpublished⟩ := sound.held found isOpen old member
    exact ⟨List.mem_append_left _ stored, isUnpublished⟩
  alone := sound.alone
  bounded := sound.bounded
  current := sound.current
  accepted := sound.accepted
  together := sound.together
  published := by
    intro old member isPublished
    rcases List.mem_append.mp member with stored | new
    · exact sound.published old stored isPublished
    · rw [List.mem_singleton.mp new, unpublished] at isPublished
      cases isPublished
  committed := fun event member isCommitted old oldMember =>
    List.mem_append_left _
      (sound.committed event member isCommitted old oldMember)
  again := sound.again

theorem sound_select {taken : List (Row Payload)} (sound : Sound relay)
    (reads : taken.Sublist (pending relay.rows))
    (unlocked : ∀ row ∈ taken, relay.locked row = false) :
    Sound { relay with txs := relay.txs.launch ⟨taken, .selected, true⟩ } := by
  -- no open transaction has locked a row that is taken
  have apart :
      ∀ {other : Nat} {holder : Tx Payload},
        relay.txs.get other = some holder → holder.isOpen = true →
          ∀ id ∈ taken.map Row.id, id ∉ holder.ids := by
    intro other holder found isOpen id isTaken locked
    obtain ⟨row, member, rfl⟩ := List.mem_map.mp isTaken
    have free := unlocked row member
    have isLocked : relay.locked row = true :=
      Registry.any_eq_true_iff.mpr
        ⟨other, holder, found,
          Bool.and_eq_true_iff.mpr ⟨isOpen, decide_eq_true locked⟩⟩
    rw [isLocked] at free
    cases free
  refine ⟨sound.rowIds, ?_, ?_, ?_, ?_, ?_, sound.together, sound.published,
    sound.committed, ?_⟩
  · intro other value found isOpen row member
    rcases Registry.cases_of_get_launch found with ⟨_, rfl⟩ | stored
    · exact mem_pending.mp (reads.mem member)
    · exact sound.held stored isOpen row member
  · intro left right leftTx rightTx leftFound leftOpen rightFound rightOpen id
      inLeft inRight
    rcases Registry.cases_of_get_launch leftFound with
      ⟨leftNew, rfl⟩ | leftStored
    · rcases Registry.cases_of_get_launch rightFound with
        ⟨rightNew, _⟩ | rightStored
      · exact leftNew.trans rightNew.symm
      · exact absurd inRight (apart rightStored rightOpen id inLeft)
    · rcases Registry.cases_of_get_launch rightFound with
        ⟨_, rfl⟩ | rightStored
      · exact absurd inLeft (apart leftStored leftOpen id inRight)
      · exact sound.alone leftStored leftOpen rightStored rightOpen id inLeft
          inRight
  · intro event member
    exact Nat.lt_succ_of_lt (sound.bounded event member)
  · intro other value found event member same
    rcases Registry.cases_of_get_launch found with ⟨isNew, _⟩ | stored
    · have bound := sound.bounded event member
      rw [same, isNew] at bound
      exact absurd bound (Nat.lt_irrefl _)
    · exact sound.current stored event member same
  · intro other value found phase
    rcases Registry.cases_of_get_launch found with ⟨_, rfl⟩ | stored
    · rcases phase with isSent | isMarked
      · cases isSent
      · cases isMarked
    · exact sound.accepted stored phase
  · apply again_mono sound
    · intro other bound ended value found
      rw [Registry.get_launch, if_neg (Nat.ne_of_lt bound)] at found
      exact ended value found
    · exact fun event member _ => Or.inl member

theorem closed_finish {txs : Registry (Tx Payload)} {other : Nat}
    (ended : Closed txs other) : Closed (txs.finish id) other :=
  fun value found => ended value (Registry.get_of_get_finish found).2

theorem sound_finish (sound : Sound relay) :
    Sound { relay with txs := relay.txs.finish id } where
  rowIds := sound.rowIds
  held := fun found => sound.held (Registry.get_of_get_finish found).2
  alone := fun left leftOpen right =>
    sound.alone (Registry.get_of_get_finish left).2 leftOpen
      (Registry.get_of_get_finish right).2
  bounded := sound.bounded
  current := fun found => sound.current (Registry.get_of_get_finish found).2
  accepted := fun found =>
    sound.accepted (Registry.get_of_get_finish found).2
  together := sound.together
  published := sound.published
  committed := sound.committed
  again := by
    apply again_mono sound
    · exact fun other _ => closed_finish
    · exact fun event member _ => Or.inl member

theorem sound_put
    {after : Tx Payload} {log : List (Event Payload)} (sound : Sound relay)
    (found : relay.txs.get id = some tx) (sameRows : after.rows = tx.rows)
    (stillOpen : after.isOpen = true → tx.isOpen = true)
    (started : ∀ event ∈ log, event.tx = id → after.phase ≠ .selected)
    (keeps : ∀ event ∈ relay.log, event ∈ log)
    (records :
      ∀ event ∈ log, event ∈ relay.log ∨
        event.tx = id ∧ event.rows = tx.rows ∧ event.kind ≠ .committed)
    (isAccepted :
      after.phase = .sent ∨ after.phase = .marked →
        ⟨.accepted, id, tx.rows⟩ ∈ log)
    (again : log.Pairwise (Superseded (relay.txs.put id after) log)) :
    Sound ⟨relay.rows, relay.txs.put id after, log⟩ := by
  have own :
      ∀ event ∈ log, event.tx = id →
        event.rows = tx.rows ∧ event.kind ≠ .committed := by
    intro event member same
    rcases records event member with old | ⟨_, facts⟩
    · obtain ⟨rows, kind, _⟩ := sound.current found event old same
      exact ⟨rows, kind⟩
    · exact facts
  -- the registry holds the same rows under the same numbers as before
  have before :
      ∀ {other : Nat} {value : Tx Payload},
        (relay.txs.put id after).get other = some value →
          ∃ old, relay.txs.get other = some old ∧ old.rows = value.rows ∧
            (value.isOpen = true → old.isOpen = true) := by
    intro other value stored
    rcases Registry.cases_of_get_put stored with ⟨rfl, rfl⟩ | ⟨_, kept⟩
    · exact ⟨tx, found, sameRows.symm, stillOpen⟩
    · exact ⟨value, kept, rfl, fun isOpen => isOpen⟩
  refine ⟨sound.rowIds, ?_, ?_, ?_, ?_, ?_, ?_, ?_, ?_, again⟩
  · intro other value stored isOpen row member
    obtain ⟨old, kept, rows, wasOpen⟩ := before stored
    exact sound.held kept (wasOpen isOpen) row (rows ▸ member)
  · intro left right leftTx rightTx leftStored leftOpen rightStored rightOpen
      name inLeft inRight
    obtain ⟨leftOld, leftKept, leftRows, leftWas⟩ := before leftStored
    obtain ⟨rightOld, rightKept, rightRows, rightWas⟩ := before rightStored
    unfold Tx.ids at inLeft inRight
    rw [← leftRows] at inLeft
    rw [← rightRows] at inRight
    exact sound.alone leftKept (leftWas leftOpen) rightKept (rightWas rightOpen)
      name inLeft inRight
  · intro event member
    rcases records event member with old | ⟨same, _⟩
    · exact sound.bounded event old
    · have bound := Registry.lt_next_of_get found
      rw [same]
      exact bound
  · intro other value stored event member same
    rcases Registry.cases_of_get_put stored with ⟨rfl, rfl⟩ | ⟨notMe, kept⟩
    · obtain ⟨rows, kind⟩ := own event member same
      exact ⟨rows.trans sameRows.symm, kind, started event member same⟩
    · rcases records event member with old | ⟨mine, _⟩
      · exact sound.current kept event old same
      · exact absurd (same.symm.trans mine) notMe
  · intro other value stored isPhase
    rcases Registry.cases_of_get_put stored with ⟨rfl, rfl⟩ | ⟨_, kept⟩
    · rw [sameRows]
      exact isAccepted isPhase
    · exact keeps _ (sound.accepted kept isPhase)
  · intro left leftMember right rightMember same
    by_cases mine : left.tx = id
    · have leftRows := (own left leftMember mine).1
      have rightRows := (own right rightMember (same.symm.trans mine)).1
      exact leftRows.trans rightRows.symm
    · have leftOld :=
        (records left leftMember).resolve_right fun new => mine new.1
      have rightOld :=
        (records right rightMember).resolve_right fun new =>
          mine (same.trans new.1)
      exact sound.together left leftOld right rightOld same
  · intro row member isPublished
    obtain ⟨event, old, facts⟩ := sound.published row member isPublished
    exact ⟨event, keeps event old, facts⟩
  · intro event member isCommitted
    have old :=
      (records event member).resolve_right fun new => new.2.2 isCommitted
    exact sound.committed event old isCommitted

theorem closed_put {after : Tx Payload} (found : relay.txs.get id = some tx)
    (stillOpen : after.isOpen = true → tx.isOpen = true) :
    ∀ other < relay.txs.next, Closed relay.txs other →
      Closed (relay.txs.put id after) other := by
  intro other _ ended value stored
  rcases Registry.cases_of_get_put stored with ⟨rfl, rfl⟩ | ⟨_, kept⟩
  · have wasClosed := ended tx found
    exact Bool.eq_false_iff.mpr fun isOpen => by
      rw [stillOpen isOpen] at wasClosed
      cases wasClosed
  · exact ended value kept

/-- A transaction goes on and records its rows: what the new record repeats
has to be superseded. -/
theorem sound_record {kind : Kind} {phase : Phase} (sound : Sound relay)
    (found : relay.txs.get id = some tx) (started : phase ≠ .selected)
    (uncommitted : kind ≠ .committed)
    (isAccepted : phase = .sent ∨ phase = .marked → kind = .accepted)
    (superseded :
      ∀ older ∈ relay.log,
        Superseded (relay.txs.put id { tx with phase := phase })
          (⟨kind, id, tx.rows⟩ :: relay.log) ⟨kind, id, tx.rows⟩ older) :
    Sound ((relay.advance id tx phase).record kind id tx) := by
  apply @sound_put _ relay id tx { tx with phase := phase } _ sound found rfl
    fun isOpen => isOpen
  · exact fun _ _ _ => started
  · exact fun event member => List.mem_cons_of_mem _ member
  · intro event member
    rcases List.mem_cons.mp member with rfl | old
    · exact Or.inr ⟨rfl, rfl, uncommitted⟩
    · exact Or.inl old
  · intro isPhase
    rw [isAccepted isPhase]
    exact List.mem_cons_self
  · refine List.pairwise_cons.mpr ⟨superseded, ?_⟩
    have others :=
      @closed_put _ relay id tx { tx with phase := phase } found
        fun isOpen => isOpen
    apply again_mono sound others
    intro event member isCommitted
    rcases List.mem_cons.mp member with rfl | old
    · exact absurd isCommitted uncommitted
    · exact Or.inl old

theorem sound_handed (sound : Sound relay) (found : relay.txs.get id = some tx)
    (phase : tx.phase = .selected) :
    Sound ((relay.advance id tx .publishing).record tx.handing id tx) := by
  apply sound_record sound found
  · decide
  · unfold Tx.handing
    split <;> decide
  · rintro (isSent | isMarked)
    · cases isSent
    · cases isMarked
  · intro older member inTx _ name mine theirs
    have isOpen : tx.isOpen = true := by
      unfold Tx.handing at inTx
      split at inTx
      · assumption
      · cases inTx
    -- the row is unpublished, for the transaction that is to send it holds it
    obtain ⟨row, rowMember, same⟩ := List.mem_map.mp mine
    obtain ⟨stored, unpublished⟩ := sound.held found isOpen row rowMember
    have notMine : older.tx ≠ id := by
      intro isMine
      exact (sound.current found older member isMine).2.2 phase
    constructor
    · intro other isOther
      rw [Registry.get_put_of_ne notMine] at isOther
      have rows := (sound.current isOther older member rfl).1
      have locked : name ∈ other.ids := by
        unfold Tx.ids
        rw [← rows]
        exact theirs
      refine Bool.eq_false_iff.mpr fun otherOpen => notMine ?_
      exact sound.alone isOther otherOpen found isOpen name locked mine
    · intro event eventMember eventTx isCommitted
      rcases List.mem_cons.mp eventMember with rfl | old
      · exact notMine eventTx.symm
      · have rows := sound.together event old older member eventTx
        obtain ⟨other, otherMember, otherId⟩ := List.mem_map.mp theirs
        have published :=
          sound.committed event old isCommitted other (rows ▸ otherMember)
        have equal : row = other.publish :=
          row_unique sound.rowIds stored published
            (same.trans otherId.symm)
        rw [equal] at unpublished
        cases unpublished

theorem sound_accepted
    (sound : Sound relay) (found : relay.txs.get id = some tx) :
    Sound ((relay.advance id tx .sent).record .accepted id tx) := by
  apply sound_record sound found
  · decide
  · decide
  · exact fun _ => rfl
  · exact nofun

theorem sound_updated (sound : Sound relay) (found : relay.txs.get id = some tx)
    (phase : tx.phase = .sent) : Sound (relay.advance id tx .marked) := by
  apply @sound_put _ relay id tx { tx with phase := .marked } _ sound found rfl
    fun isOpen => isOpen
  · exact fun _ _ _ => nofun
  · exact fun _ member => member
  · exact fun _ member => Or.inl member
  · exact fun _ => sound.accepted found (Or.inl phase)
  · refine again_mono sound (closed_put found ?_) ?_
    · exact fun isOpen => isOpen
    · exact fun _ member _ => Or.inl member

theorem sound_dropped
    (sound : Sound relay) (found : relay.txs.get id = some tx) :
    Sound
      { relay with txs := relay.txs.put id { tx with isOpen := false } } := by
  have neverOpen : false = true → tx.isOpen = true := nofun
  apply @sound_put _ relay id tx { tx with isOpen := false } _ sound found rfl
    neverOpen
  · exact fun event member same =>
      (sound.current found event member same).2.2
  · exact fun _ member => member
  · exact fun _ member => Or.inl member
  · exact fun isPhase => sound.accepted found isPhase
  · refine again_mono sound (closed_put found ?_) ?_
    · exact neverOpen
    · exact fun _ member _ => Or.inl member

theorem sound_committed
    (sound : Sound relay) (found : relay.txs.get id = some tx)
    (phase : tx.phase = .marked) (isOpen : tx.isOpen = true) :
    Sound
      { rows := markPublished tx.ids relay.rows
        txs := relay.txs.finish id
        log := ⟨.committed, id, tx.rows⟩ :: relay.log } := by
  have finished : Sound { relay with txs := relay.txs.finish id } :=
    sound_finish sound
  have isAccepted := sound.accepted found (Or.inr phase)
  refine ⟨?_, ?_, finished.alone, ?_, ?_, ?_, ?_, ?_, ?_, ?_⟩
  · rw [markPublished_ids]
    exact sound.rowIds
  · intro other value stored otherOpen row member
    obtain ⟨notMe, kept⟩ := Registry.get_of_get_finish stored
    obtain ⟨old, unpublished⟩ := sound.held kept otherOpen row member
    have notMine : row.id ∉ tx.ids := by
      intro mine
      exact notMe
        (sound.alone kept otherOpen found isOpen row.id
          (List.mem_map_of_mem member) mine)
    exact ⟨mem_markPublished.mpr ⟨row, old, if_neg notMine⟩, unpublished⟩
  · intro event member
    rcases List.mem_cons.mp member with rfl | old
    · have bound := Registry.lt_next_of_get found
      exact bound
    · exact sound.bounded event old
  · intro other value stored event member same
    obtain ⟨notMe, kept⟩ := Registry.get_of_get_finish stored
    rcases List.mem_cons.mp member with rfl | old
    · exact absurd same.symm notMe
    · exact sound.current kept event old same
  · intro other value stored isPhase
    exact List.mem_cons_of_mem _ (finished.accepted stored isPhase)
  · intro left leftMember right rightMember same
    rcases List.mem_cons.mp leftMember with rfl | leftOld
    · rcases List.mem_cons.mp rightMember with rfl | rightOld
      · rfl
      · exact (sound.current found right rightOld same.symm).1.symm
    · rcases List.mem_cons.mp rightMember with rfl | rightOld
      · exact (sound.current found left leftOld same).1
      · exact sound.together left leftOld right rightOld same
  · intro row member isPublished
    obtain ⟨old, stored, shape⟩ := mem_markPublished.mp member
    by_cases mine : old.id ∈ tx.ids
    · rw [if_pos mine] at shape
      have own := (sound.held_unique found isOpen stored mine).1
      exact ⟨_, List.mem_cons_of_mem _ isAccepted, rfl, old, own, shape.symm⟩
    · rw [if_neg mine] at shape
      subst shape
      obtain ⟨event, logged, facts⟩ := sound.published old stored isPublished
      exact ⟨event, List.mem_cons_of_mem _ logged, facts⟩
  · intro event member isCommitted row rowMember
    rcases List.mem_cons.mp member with rfl | old
    · have stored := (sound.held found isOpen row rowMember).1
      exact mem_markPublished.mpr
        ⟨row, stored, if_pos (List.mem_map_of_mem rowMember)⟩
    · exact published_of_markPublished
        (sound.committed event old isCommitted row rowMember) rfl
  · refine List.pairwise_cons.mpr ⟨?_, ?_⟩
    · exact nofun
    · apply again_mono sound
      · exact fun other _ => closed_finish
      · intro event member _
        rcases List.mem_cons.mp member with rfl | old
        · refine Or.inr fun ended => ?_
          have isClosed := ended tx found
          rw [isOpen] at isClosed
          cases isClosed
        · exact Or.inl old

end Keep

theorem sound_of_transition {relay next : Relay Payload} {label : Label Payload}
    (sound : Sound relay) (transition : Transition relay label next) :
    Sound next := by
  cases transition with
  | inserted fresh unpublished => exact sound_insert sound fresh unpublished
  | nothing => exact sound
  | selected reads unlocked => exact sound_select sound reads unlocked
  | handed found phase => exact sound_handed sound found phase
  | accepted found phase => exact sound_accepted sound found
  | updated found phase isOpen => exact sound_updated sound found phase
  | committed found phase isOpen =>
      exact sound_committed sound found phase isOpen
  | aborted found => exact sound_finish sound
  | dropped found => exact sound_dropped sound found

theorem published_of_transition {relay next : Relay Payload}
    {label : Label Payload} (transition : Transition relay label next)
    (member : row ∈ relay.rows) (published : row.published = true) :
    row ∈ next.rows := by
  cases transition with
  | inserted => exact List.mem_append_left _ member
  | committed => exact published_of_markPublished member published
  | _ => exact member

section Run

variable [DecidableEq Payload]

theorem sound_of_run {labels : List (Label Payload)}
    {relay final : Relay Payload} (sound : Sound relay)
    (ran : run step relay labels = some final) : Sound final :=
  invariant_of_run
    (fun kept stepped => sound_of_transition kept (transition_of_step stepped))
    sound ran

theorem published_of_run {labels : List (Label Payload)}
    {relay final : Relay Payload} {row : Row Payload}
    (member : row ∈ relay.rows) (published : row.published = true)
    (ran : run step relay labels = some final) : row ∈ final.rows := by
  let kept : Relay Payload → Prop := fun relay => row ∈ relay.rows
  have preserved :
      ∀ {before after : Relay Payload} {label : Label Payload},
        kept before → step before label = some after → kept after := by
    intro before after label stored stepped
    exact published_of_transition (transition_of_step stepped) stored published
  exact invariant_of_run preserved member ran

/-- The relay does not lose a row, and it repeats none needlessly as long as
the publisher that hands it over has its transaction. -/
theorem relay_neither_loses_nor_repeats
    {labels : List (Label Payload)} {relay : Relay Payload}
    (ran : run step (Relay.empty Payload) labels = some relay) :
    (∀ row ∈ relay.rows, row.published = true →
      ∃ event ∈ relay.log, event.kind = .accepted ∧
        ∀ uuid, row.message uuid ∈ event.messages uuid) ∧
    (∀ later final, run step relay later = some final →
      ∀ row ∈ relay.rows, row.published = true → row ∈ final.rows) ∧
    (∀ left right leftTx rightTx, relay.txs.get left = some leftTx →
      leftTx.isOpen = true → relay.txs.get right = some rightTx →
        rightTx.isOpen = true →
          ∀ id ∈ leftTx.ids, id ∈ rightTx.ids → left = right) ∧
    relay.log.Pairwise (fun newer older =>
      newer.kind = .handed → older.kind.hands = true →
        ∀ id ∈ newer.ids, id ∈ older.ids →
          ∀ event ∈ relay.log, event.tx = older.tx →
            event.kind ≠ .committed) := by
  have sound := sound_of_run sound_empty ran
  refine ⟨?_, ?_, ?_, ?_⟩
  · intro row member isPublished
    obtain ⟨event, logged, kind, old, sent, rfl⟩ :=
      sound.published row member isPublished
    refine ⟨event, logged, kind, ?_⟩
    intro uuid
    exact List.mem_map.mpr ⟨old, sent, rfl⟩
  · intro later final ranLater row member isPublished
    exact published_of_run member isPublished ranLater
  · intro left right leftTx rightTx leftFound leftOpen rightFound rightOpen
    exact sound.alone leftFound leftOpen rightFound rightOpen
  · apply List.Pairwise.imp _ sound.again
    intro newer older superseded newerHanded olderHands id inNewer inOlder
    exact (superseded newerHanded olderHands id inNewer inOlder).2

private def crashRow : Row Nat :=
  ⟨5, 1, "seat.held", 0, false, 0⟩

-- A publisher crashes after Kafka has accepted its row; another one sends the
-- row again and commits.
private def crashLabels : List (Label Nat) :=
  [.insert crashRow, .select [crashRow], .publish 0, .accept 0, .abort 0,
    .select [crashRow], .publish 1, .accept 1, .update 1, .commit 1]

theorem relay_neither_loses_nor_repeats_after_a_crash :
    ∃ relay : Relay Nat,
      run step (Relay.empty Nat) crashLabels = some relay ∧
        relay.rows = [crashRow.publish] ∧
        ∃ event ∈ relay.log, event.kind = .accepted ∧
          crashRow.message standardText ∈ event.messages standardText := by
  have ends :
      (run step (Relay.empty Nat) crashLabels).any
          (fun relay => decide (relay.rows = [crashRow.publish])) =
        true := by
    decide +kernel
  obtain ⟨relay, ran, checked⟩ := (Option.any_eq_true _ _).mp ends
  have rows := of_decide_eq_true checked
  have published := (relay_neither_loses_nor_repeats ran).1
  have member : crashRow.publish ∈ relay.rows := by
    rw [rows]
    exact List.mem_singleton_self _
  obtain ⟨event, logged, kind, sent⟩ := published _ member rfl
  exact ⟨relay, ran, rows, event, logged, kind, sent standardText⟩

-- Postgres ends the transaction of a publisher that has read its row; another
-- one sends the row and commits, and then the first one sends it.
private def droppedLabels : List (Label Nat) :=
  [.insert crashRow, .select [crashRow], .drop 0, .select [crashRow],
    .publish 1, .accept 1, .update 1, .commit 1, .publish 0]

theorem dropped_publisher_repeats_a_committed_row :
    ∃ (relay : Relay Nat) (newer older committed : Event Nat)
      (between : List (Event Nat)),
      run step (Relay.empty Nat) droppedLabels = some relay ∧
        relay.log = newer :: committed :: (between ++ [older]) ∧
        newer.kind.hands = true ∧ older.kind.hands = true ∧
        newer.ids = [crashRow.id] ∧ older.ids = [crashRow.id] ∧
        committed.kind = .committed ∧ committed.tx = older.tx :=
  ⟨_, _, _, _, [_], rfl, rfl, rfl, rfl, rfl, rfl, rfl, rfl⟩

end Run

end TicketWave.Outbox
