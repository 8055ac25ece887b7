import TicketWave.Inventory.SeatSales
import TicketWave.Library.Queue
import TicketWave.Outbox.Relay

/-!
# The live seat map

The publisher sends rows in the order of `created_at`, while the changes of a
seat happen in the order of the commits.
-/

namespace TicketWave.Inventory

open Library

variable {uuid : UuidText}

inductive Publisher where
  | idle
  /-- the batch is selected -/
  | holding (batch : List (Outbox.Row SeatEvent))
  /-- `Publish` of the batch has returned nil -/
  | sent (batch : List (Outbox.Row SeatEvent))

/-- The rows the publisher's transaction has locked. -/
def Publisher.batch : Publisher → List (Outbox.Row SeatEvent)
  | .idle => []
  | .holding batch => batch
  | .sent batch => batch

def Publisher.unsent : Publisher → List (Outbox.Row SeatEvent)
  | .idle => []
  | .holding batch => batch
  | .sent _ => []

structure Feed (uuid : UuidText) where
  inventory : State uuid
  publisher : Publisher
  /-- the rows whose messages were published, oldest first -/
  topic : List (Outbox.Row SeatEvent)

def Feed.empty (uuid : UuidText) : Feed uuid where
  inventory := State.empty uuid
  publisher := .idle
  topic := []

def Feed.outbox (feed : Feed uuid) : List (Outbox.Row SeatEvent) :=
  feed.inventory.db.outbox

def Feed.setOutbox (feed : Feed uuid) (rows : List (Outbox.Row SeatEvent)) :
    State uuid :=
  { feed.inventory with db := { feed.inventory.db with outbox := rows } }

inductive FeedLabel where
  | service (label : Label)
  | select
  | publish
  /-- the `UPDATE` and the commit -/
  | commit

def Feed.step (feed : Feed uuid) : FeedLabel → Option (Feed uuid)
  | .service label =>
      (Inventory.step feed.inventory label).map fun inventory =>
        { feed with inventory := inventory }
  | .select =>
      match feed.publisher with
      | .idle =>
          let batch := (Outbox.pending feed.outbox).take Outbox.batchSize
          if batch.length = 0 then some feed
          else some { feed with publisher := .holding batch }
      | _ => none
  | .publish =>
      match feed.publisher with
      | .holding batch =>
          some
            { feed with
              publisher := .sent batch
              topic := feed.topic ++ batch }
      | _ => none
  | .commit =>
      match feed.publisher with
      | .sent batch =>
          some
            { feed with
              publisher := .idle
              inventory :=
                feed.setOutbox
                  (Outbox.markPublished (batch.map Outbox.Row.id) feed.outbox) }
      | _ => none

inductive FeedTransition (feed : Feed uuid) :
    FeedLabel → Feed uuid → Prop
  | served
      {label : Label} {inventory : State uuid}
      (stepped : Inventory.step feed.inventory label = some inventory) :
      FeedTransition feed (.service label)
        { feed with inventory := inventory }
  | nothing (idle : feed.publisher = .idle) :
      FeedTransition feed .select feed
  | selected
      {first rest : List (Outbox.Row SeatEvent)}
      (idle : feed.publisher = .idle)
      (split : first ++ rest = Outbox.pending feed.outbox)
      (some : first ≠ []) :
      FeedTransition feed .select { feed with publisher := .holding first }
  | published
      {batch : List (Outbox.Row SeatEvent)}
      (holding : feed.publisher = .holding batch) :
      FeedTransition feed .publish
        { feed with
          publisher := .sent batch
          topic := feed.topic ++ batch }
  | committed
      {batch : List (Outbox.Row SeatEvent)}
      (sent : feed.publisher = .sent batch) :
      FeedTransition feed .commit
        { feed with
          publisher := .idle
          inventory :=
            feed.setOutbox
              (Outbox.markPublished (batch.map Outbox.Row.id) feed.outbox) }

theorem feedTransition_of_step {feed next : Feed uuid} {label : FeedLabel}
    (stepped : feed.step label = some next) :
    FeedTransition feed label next := by
  cases label with
  | service label =>
      obtain ⟨inventory, moved, rfl⟩ := Option.map_eq_some_iff.mp stepped
      exact .served moved
  | select =>
      simp only [Feed.step] at stepped
      split at stepped
      · rename_i idle
        split at stepped
        · cases stepped
          exact .nothing idle
        · rename_i some
          cases stepped
          refine .selected idle (List.take_append_drop _ _) ?_
          intro none
          exact some (List.length_eq_zero_iff.mpr none)
      · cases stepped
  | publish =>
      simp only [Feed.step] at stepped
      split at stepped
      · rename_i batch holding
        cases stepped
        exact .published holding
      · cases stepped
  | commit =>
      simp only [Feed.step] at stepped
      split at stepped
      · rename_i batch sent
        cases stepped
        exact .committed sent
      · cases stepped

def concerns (uuid : UuidText) (seat : UUID) (row : Outbox.Row SeatEvent) :
    Bool :=
  decide (seat ∈ listed uuid row)

/-- The state in the last event that lists the seat. -/
def shown (uuid : UuidText) (topic : List (Outbox.Row SeatEvent))
    (seat : UUID) : Option SeatState :=
  lastValue (concerns uuid seat) (fun row => row.payload.state) topic

/-- Once every row is published, the map shows the seats as they are. -/
def MapCurrent (feed : Feed uuid) : Prop :=
  (∀ row ∈ feed.outbox, row.published = true) →
    ∀ seat state, shown uuid feed.topic seat = some state →
      (feed.inventory.db.status seat).map SeatStatus.state = some state

/-- The rows that no batch has taken up yet. -/
def Feed.waiting (feed : Feed uuid) : List (Outbox.Row SeatEvent) :=
  feed.outbox.filter fun row =>
    !row.published &&
      decide (row.id ∉ feed.publisher.batch.map Outbox.Row.id)

def sharesSeat (uuid : UuidText) (left right : Outbox.Row SeatEvent) : Bool :=
  (listed uuid left).any fun seat => concerns uuid seat right

/-- Every row the step adds comes behind the waiting rows that list one of its
seats. -/
def InOrder (feed : Feed uuid) : FeedLabel → Prop
  | .service label =>
      ∀ inventory ∈ Inventory.step feed.inventory label,
        ∀ new ∈ inventory.db.outbox, new ∉ feed.outbox →
          ∀ old ∈ feed.waiting, sharesSeat uuid old new = true → old.before new
  | _ => True

instance (feed : Feed uuid) : DecidablePred (InOrder feed)
  | .service label =>
      inferInstanceAs
        (Decidable
          (∀ inventory ∈ Inventory.step feed.inventory label,
            ∀ new ∈ inventory.db.outbox, new ∉ feed.outbox →
              ∀ old ∈ feed.waiting, sharesSeat uuid old new = true →
                old.before new))
  | .select => inferInstanceAs (Decidable True)
  | .publish => inferInstanceAs (Decidable True)
  | .commit => inferInstanceAs (Decidable True)

/-- A step of the service announces the new state of every seat it changes,
but for the creation of a seat. -/
theorem announced_of_effect {state next : State uuid}
    (wellFormed : WellFormed state.db) (effect : Effect state next) :
    ∃ added,
      next.db.outbox = state.db.outbox ++ added ∧
        (∀ row ∈ added, row.published = false) ∧
        ∀ seat,
          (∃ row ∈ added, seat ∈ listed uuid row) ∧
              (∀ row ∈ added,
                (next.db.status seat).map SeatStatus.state =
                  some row.payload.state) ∨
            (∀ row ∈ added, seat ∉ listed uuid row) ∧
              (next.db.status seat = state.db.status seat ∨
                state.db.status seat = none ∧
                  next.db.status seat = some .available) := by
  cases effect with
  | nothing db _ =>
      refine ⟨[], by rw [db, List.append_nil], by simp, ?_⟩
      intro seat
      rw [db]
      exact Or.inr ⟨by simp, Or.inl rfl⟩
  | created committed _ =>
      obtain ⟨_, outbox, _⟩ := createEvent_ok committed
      refine ⟨[], by rw [outbox, List.append_nil], by simp, ?_⟩
      intro seat
      refine Or.inr ⟨by simp, ?_⟩
      rcases createEvent_seat committed seat with
        kept | ⟨absent, row, found, status, _⟩
      · exact Or.inl (by rw [Db.status, Db.status, kept])
      · right
        constructor
        · rw [Db.status, absent, Option.map_none]
        · rw [status_of_seat found, status]
  | @called id rowId method request start done committed db _ =>
      have moved := (transact_ok wellFormed request.valid committed).1
      have status := (transact_status wellFormed request.valid committed).2
      obtain ⟨row, outbox, _, lists, state, unpublished, _⟩ := moved.outbox
      refine ⟨[row], by rw [db, outbox], by simp [unpublished], ?_⟩
      intro seat
      rw [db, status seat]
      by_cases named : seat ∈ done.seats
      · left
        refine ⟨⟨row, List.mem_singleton_self row, lists ▸ named⟩, ?_⟩
        intro other member
        rw [List.mem_singleton.mp member, state, if_pos named]
        rfl
      · right
        rw [if_neg named]
        refine ⟨?_, Or.inl rfl⟩
        intro other member
        rw [List.mem_singleton.mp member, lists]
        exact named
  | @swept id newId expired start committed _ =>
      have swept := sweepHolds_ok wellFormed committed
      obtain ⟨added, outbox, facts, lists⟩ := swept.outbox
      refine ⟨added, outbox, fun row member => (facts row member).2.1, ?_⟩
      intro seat
      rw [swept.status wellFormed seat]
      by_cases freed : seat ∈ freedIds state.db expired
      · left
        obtain ⟨row, isFreed, isSeat⟩ := List.mem_map.mp freed
        obtain ⟨stored, passed⟩ := List.mem_filter.mp isFreed
        refine ⟨(lists seat).mpr ⟨row, stored, isSeat, passed⟩, ?_⟩
        intro other member
        rw [if_pos freed, (facts other member).1]
        rfl
      · right
        rw [if_neg freed]
        refine ⟨?_, Or.inl rfl⟩
        intro other member named
        obtain ⟨row, stored, isSeat, passed⟩ :=
          (lists seat).mp ⟨other, member, named⟩
        apply freed
        exact List.mem_map.mpr
          ⟨row, List.mem_filter.mpr ⟨stored, passed⟩, isSeat⟩

/-- The map shows the state of the seat, or nothing for a new seat. -/
def Matches (status : Option SeatStatus) : Option SeatState → Prop
  | none => status = none ∨ status = some .available
  | some state => status.map SeatStatus.state = some state

theorem matches_of_created {state : Option SeatState}
    (isMatch : Matches none state) : Matches (some .available) state := by
  cases state with
  | none => exact Or.inr rfl
  | some state => cases isMatch

/-- What goes out before the waiting rows. -/
def Feed.out (feed : Feed uuid) : List (Outbox.Row SeatEvent) :=
  feed.topic ++ feed.publisher.unsent

/-- When all that waits has gone out, the map will show the seat as it is. -/
def Feed.WillShow (feed : Feed uuid) (seat : UUID) : Prop :=
  ∃ state,
    Ahead Outbox.Row.before (concerns uuid seat)
        (fun row => row.payload.state) feed.waiting feed.out state ∧
      Matches (feed.inventory.db.status seat) state

structure Orderly (feed : Feed uuid) : Prop where
  wellFormed : WellFormed feed.inventory.db
  batch :
    ∀ row ∈ feed.publisher.batch, row ∈ feed.outbox ∧ row.published = false
  busy : feed.publisher.batch = [] → feed.publisher = .idle
  willShow : ∀ seat, feed.WillShow seat

theorem orderly_empty : Orderly (Feed.empty uuid) where
  wellFormed := wellFormed_empty
  batch := nofun
  busy := fun _ => rfl
  willShow := by
    intro seat
    refine ⟨none, Or.inr ⟨?_, rfl⟩, Or.inl rfl⟩
    intro row member
    cases member

section Step

variable {feed next : Feed uuid}

theorem mem_waiting {row : Outbox.Row SeatEvent} :
    row ∈ feed.waiting ↔
      row ∈ feed.outbox ∧ row.published = false ∧
        row.id ∉ feed.publisher.batch.map Outbox.Row.id := by
  unfold Feed.waiting
  rw [List.mem_filter, Bool.and_eq_true_iff, decide_eq_true_eq,
    Bool.not_eq_true']

theorem sharesSeat_of_concerns {seat : UUID} {left right : Outbox.Row SeatEvent}
    (leftLists : concerns uuid seat left = true)
    (rightLists : concerns uuid seat right = true) :
    sharesSeat uuid left right = true :=
  List.any_eq_true.mpr ⟨seat, of_decide_eq_true leftLists, rightLists⟩

theorem mem_waiting_of_added {inventory : State uuid}
    {added : List (Outbox.Row SeatEvent)} (orderly : Orderly feed)
    (outbox : inventory.db.outbox = feed.outbox ++ added)
    (unpublished : ∀ row ∈ added, row.published = false)
    (fresh : ∀ row ∈ added, row.id ∉ feed.outbox.map Outbox.Row.id)
    (row : Outbox.Row SeatEvent) :
    row ∈ Feed.waiting { feed with inventory := inventory } ↔
      row ∈ feed.waiting ∨ row ∈ added := by
  have inOutbox :
      row ∈ Feed.outbox { feed with inventory := inventory } ↔
        row ∈ feed.outbox ∨ row ∈ added := by
    show row ∈ inventory.db.outbox ↔ _
    rw [outbox]
    exact List.mem_append
  rw [mem_waiting, mem_waiting, inOutbox]
  constructor
  · rintro ⟨old | new, facts⟩
    · exact Or.inl ⟨old, facts⟩
    · exact Or.inr new
  · rintro (⟨old, facts⟩ | new)
    · exact ⟨Or.inl old, facts⟩
    · refine ⟨Or.inr new, unpublished row new, ?_⟩
      intro locked
      obtain ⟨own, isOwn, same⟩ := List.mem_map.mp locked
      have stored := (orderly.batch own isOwn).1
      apply fresh row new
      rw [← same]
      exact List.mem_map_of_mem stored

/-- The service takes a step: what it adds waits behind the rows with the same
seats. -/
theorem orderly_of_service {label : Label} {inventory : State uuid}
    (orderly : Orderly feed) (inOrder : InOrder feed (.service label))
    (stepped : Inventory.step feed.inventory label = some inventory) :
    Orderly { feed with inventory := inventory } := by
  have effect := (transition_of_step stepped).effect
  have wellFormed := wellFormed_of_effect orderly.wellFormed effect
  obtain ⟨added, outbox, unpublished, announced⟩ :=
    announced_of_effect orderly.wellFormed effect
  have distinct := wellFormed.outboxIds
  rw [outbox, List.map_append] at distinct
  have fresh :
      ∀ row ∈ added, row.id ∉ feed.outbox.map Outbox.Row.id := by
    intro row member old
    exact (List.nodup_append.mp distinct).2.2 row.id old row.id
      (List.mem_map_of_mem member) rfl
  have notOld : ∀ row ∈ added, row ∉ feed.outbox :=
    fun row member old => fresh row member (List.mem_map_of_mem old)
  have members := mem_waiting_of_added orderly outbox unpublished fresh
  refine ⟨wellFormed, ?_, orderly.busy, ?_⟩
  · intro row member
    obtain ⟨stored, isUnpublished⟩ := orderly.batch row member
    refine ⟨?_, isUnpublished⟩
    show row ∈ inventory.db.outbox
    rw [outbox]
    exact List.mem_append_left _ stored
  · intro seat
    obtain ⟨state, ahead, isMatch⟩ := orderly.willShow seat
    rcases announced seat with
      ⟨⟨new, isNew, lists⟩, states⟩ | ⟨silent, status⟩
    · refine ⟨some new.payload.state, ?_, states new isNew⟩
      refine ahead_of_added members ⟨new, isNew, decide_eq_true lists⟩ ?_ ?_
      · intro row member _
        rw [← states row member, ← states new isNew]
      · intro old isOld oldLists row member rowLists
        have stored : row ∈ inventory.db.outbox := by
          rw [outbox]
          exact List.mem_append_right _ member
        refine
          ⟨inOrder inventory stepped row stored (notOld row member) old isOld
            (sharesSeat_of_concerns oldLists rowLists), ?_⟩
        rintro rfl
        exact notOld old member (mem_waiting.mp isOld).1
    · refine ⟨state, ahead.of_same ?_, ?_⟩
      · intro row rowLists
        rw [members row]
        refine ⟨fun isWaiting => isWaiting.resolve_right ?_, Or.inl⟩
        intro isAdded
        exact silent row isAdded (of_decide_eq_true rowLists)
      · rcases status with same | ⟨absent, created⟩
        · show Matches (inventory.db.status seat) state
          rw [same]
          exact isMatch
        · show Matches (inventory.db.status seat) state
          rw [created]
          rw [absent] at isMatch
          exact matches_of_created isMatch

theorem orderly_of_select {first rest : List (Outbox.Row SeatEvent)}
    (orderly : Orderly feed) (idle : feed.publisher = .idle)
    (split : first ++ rest = Outbox.pending feed.outbox)
    (nonempty : first ≠ []) :
    Orderly { feed with publisher := .holding first } := by
  have isPending :
      ∀ row, row ∈ first ++ rest ↔
        row ∈ feed.outbox ∧ row.published = false := by
    intro row
    rw [split]
    exact Outbox.mem_pending
  have unique :
      ∀ left ∈ first ++ rest, ∀ right ∈ first ++ rest,
        left.id = right.id → left = right := by
    intro left leftMember right rightMember same
    exact row_unique orderly.wellFormed.outboxIds
      ((isPending left).mp leftMember).1
      ((isPending right).mp rightMember).1 same
  have sorted : (first ++ rest).Pairwise Outbox.Row.before := by
    rw [split]
    exact Outbox.pending_sorted feed.outbox
  have apart : ∀ row ∈ rest, row ∉ first := by
    have distinct : (first ++ rest).Nodup := by
      rw [split]
      exact Outbox.pending_nodup orderly.wellFormed.outboxIds
    intro row inRest inFirst
    exact (List.nodup_append.mp distinct).2.2 row inFirst row inRest rfl
  refine ⟨orderly.wellFormed, ?_, ?_, ?_⟩
  · intro row member
    exact (isPending row).mp (List.mem_append_left _ member)
  · intro empty
    exact absurd empty nonempty
  · intro seat
    obtain ⟨state, ahead, isMatch⟩ := orderly.willShow seat
    refine ⟨state, ?_, isMatch⟩
    have queued :
        Ahead Outbox.Row.before (concerns uuid seat)
          (fun row => row.payload.state) (first ++ rest) feed.topic state := by
      have out : feed.out = feed.topic := by
        unfold Feed.out
        rw [idle]
        exact List.append_nil feed.topic
      rw [out] at ahead
      apply ahead.of_same
      intro row _
      rw [isPending row, mem_waiting, idle]
      simp [Publisher.batch]
    have departed :=
      queued.depart sorted fun left leftMember right rightMember there back =>
        unique left leftMember right rightMember
          (Outbox.Row.id_of_before there back)
    apply departed.of_same
    intro row _
    rw [mem_waiting]
    constructor
    · rintro ⟨stored, unpublished, notTaken⟩
      rcases
          List.mem_append.mp ((isPending row).mpr ⟨stored, unpublished⟩) with
        taken | left
      · exact absurd (List.mem_map_of_mem taken) notTaken
      · exact left
    · intro left
      obtain ⟨stored, unpublished⟩ :=
        (isPending row).mp (List.mem_append_right _ left)
      refine ⟨stored, unpublished, ?_⟩
      intro taken
      obtain ⟨other, isTaken, same⟩ := List.mem_map.mp taken
      have equal :=
        unique other (List.mem_append_left _ isTaken) row
          (List.mem_append_right _ left) same
      exact apart row left (equal ▸ isTaken)

theorem orderly_of_publish {batch : List (Outbox.Row SeatEvent)}
    (orderly : Orderly feed) (holding : feed.publisher = .holding batch) :
    Orderly
      { feed with
        publisher := .sent batch
        topic := feed.topic ++ batch } := by
  have sameBatch : feed.publisher.batch = batch := by
    rw [holding]
    rfl
  refine ⟨orderly.wellFormed, ?_, ?_, ?_⟩
  · intro row member
    exact orderly.batch row (sameBatch.symm ▸ member)
  · intro empty
    have idle := orderly.busy (sameBatch.trans empty)
    rw [holding] at idle
    cases idle
  · intro seat
    obtain ⟨state, ahead, isMatch⟩ := orderly.willShow seat
    refine ⟨state, ?_, isMatch⟩
    have out : feed.out = feed.topic ++ batch ++ [] := by
      unfold Feed.out
      rw [holding, List.append_nil]
      rfl
    rw [out] at ahead
    apply ahead.of_same
    intro row _
    rw [mem_waiting, mem_waiting, sameBatch]
    rfl

theorem orderly_of_commit {batch : List (Outbox.Row SeatEvent)}
    (orderly : Orderly feed) (sent : feed.publisher = .sent batch) :
    Orderly
      { feed with
        publisher := .idle
        inventory :=
          feed.setOutbox
            (Outbox.markPublished (batch.map Outbox.Row.id) feed.outbox) } := by
  have sameBatch : feed.publisher.batch = batch := by
    rw [sent]
    rfl
  refine ⟨⟨orderly.wellFormed.seatIds, ?_, orderly.wellFormed.holder⟩, ?_,
    fun _ => rfl, ?_⟩
  · show
      ((Outbox.markPublished (batch.map Outbox.Row.id) feed.outbox).map
        Outbox.Row.id).Nodup
    rw [Outbox.markPublished_ids]
    exact orderly.wellFormed.outboxIds
  · exact nofun
  · intro seat
    obtain ⟨state, ahead, isMatch⟩ := orderly.willShow seat
    refine ⟨state, ?_, isMatch⟩
    have out : feed.out = feed.topic ++ [] := by
      unfold Feed.out
      rw [sent]
      rfl
    rw [out] at ahead
    apply ahead.of_same
    intro row _
    rw [mem_waiting, mem_waiting, sameBatch]
    -- the rows of the batch are marked, and no other row changes
    constructor
    · rintro ⟨stored, unpublished, _⟩
      obtain ⟨old, isOld, shape⟩ := Outbox.mem_markPublished.mp stored
      by_cases isSent : old.id ∈ batch.map Outbox.Row.id
      · rw [if_pos isSent] at shape
        rw [← shape] at unpublished
        cases unpublished
      · rw [if_neg isSent] at shape
        subst shape
        exact ⟨isOld, unpublished, isSent⟩
    · rintro ⟨stored, unpublished, notSent⟩
      refine ⟨?_, unpublished, List.not_mem_nil⟩
      exact Outbox.mem_markPublished.mpr ⟨row, stored, if_neg notSent⟩

theorem orderly_of_transition {label : FeedLabel} (orderly : Orderly feed)
    (inOrder : InOrder feed label)
    (transition : FeedTransition feed label next) : Orderly next := by
  cases transition with
  | served stepped => exact orderly_of_service orderly inOrder stepped
  | nothing => exact orderly
  | selected idle split nonempty =>
      exact orderly_of_select orderly idle split nonempty
  | published holding => exact orderly_of_publish orderly holding
  | committed sent => exact orderly_of_commit orderly sent

end Step

/-- In a run in which every transaction commits in order, the map shows the
seats as they are whenever every row is published. -/
theorem map_is_current_when_in_order
    {labels : List FeedLabel} {feed : Feed uuid}
    (inOrder : EveryStep Feed.step InOrder (Feed.empty uuid) labels)
    (ran : run Feed.step (Feed.empty uuid) labels = some feed) :
    MapCurrent feed := by
  have orderly : Orderly feed :=
    invariant_of_restricted_run
      (fun kept allowed stepped =>
        orderly_of_transition kept allowed (feedTransition_of_step stepped))
      orderly_empty inOrder ran
  intro allPublished seat state isShown
  have noBatch : feed.publisher.batch = [] := by
    apply List.eq_nil_iff_forall_not_mem.mpr
    intro row member
    obtain ⟨stored, unpublished⟩ := orderly.batch row member
    rw [allPublished row stored] at unpublished
    cases unpublished
  have out : feed.out = feed.topic := by
    unfold Feed.out
    rw [orderly.busy noBatch]
    exact List.append_nil feed.topic
  obtain ⟨last, ahead, isMatch⟩ := orderly.willShow seat
  rcases ahead with announces | ⟨_, isLast⟩
  · obtain ⟨row, waiting, _⟩ := announces.exists_item
    obtain ⟨stored, unpublished, _⟩ := mem_waiting.mp waiting
    rw [allPublished row stored] at unpublished
    cases unpublished
  · rw [out] at isLast
    have same : last = some state := isLast.symm.trans isShown
    rw [same] at isMatch
    exact isMatch

-- Order 9 holds seat 2 and releases it, and both events are published in one
-- batch.
private def releaseLabels : List FeedLabel :=
  [.service (.createEvent ⟨"Concert", 1⟩ 1 [2]),
    .service (.beginCall .reserveSeats (seatRequest 9 [2])),
    .service (.commitCall 0 11), .service (.tick 1),
    .service (.beginCall .releaseSeats (seatRequest 9 [2])),
    .service (.commitCall 1 10), .select, .publish, .commit]

theorem map_is_current_when_in_order_after_a_release :
    EveryStep Feed.step InOrder (Feed.empty standardText) releaseLabels ∧
      ∃ feed : Feed standardText,
        run Feed.step (Feed.empty standardText) releaseLabels = some feed ∧
          shown standardText feed.topic 2 = some .available ∧
          (feed.inventory.db.status 2).map SeatStatus.state =
            some .available := by
  have inOrder :
      EveryStep Feed.step InOrder (Feed.empty standardText)
        releaseLabels := by
    decide +kernel
  have ends :
      (run Feed.step (Feed.empty standardText) releaseLabels).any
          (fun feed =>
            feed.outbox.all (fun row => row.published) &&
              decide (shown standardText feed.topic 2 = some .available)) =
        true := by
    decide +kernel
  obtain ⟨feed, ran, checked⟩ := (Option.any_eq_true _ _).mp ends
  obtain ⟨published, isShown⟩ := Bool.and_eq_true_iff.mp checked
  have lastIs := of_decide_eq_true isShown
  have current := map_is_current_when_in_order inOrder ran
  exact ⟨inOrder, feed, ran, lastIs,
    current (List.all_eq_true.mp published) 2 _ lastIs⟩

-- Order 8 begins to reserve seat 2 and waits; order 9, which holds the seat,
-- begins to release it later and commits first.  The release has the later
-- `created_at`, so it is published last, but it is order 8 that has the seat.
private def overtakenLabels : List FeedLabel :=
  [.service (.createEvent ⟨"Concert", 1⟩ 1 [2]),
    .service (.beginCall .reserveSeats (seatRequest 9 [2])),
    .service (.commitCall 0 10),
    .service (.beginCall .reserveSeats (seatRequest 8 [2])),
    .service (.tick 1),
    .service (.beginCall .releaseSeats (seatRequest 9 [2])),
    .service (.commitCall 2 11), .service (.commitCall 1 12),
    .select, .publish, .commit]

theorem overtaken_reservation_is_not_shown :
    ∃ feed : Feed standardText,
      run Feed.step (Feed.empty standardText) overtakenLabels = some feed ∧
        ¬ MapCurrent feed := by
  have ends :
      (run Feed.step (Feed.empty standardText) overtakenLabels).any
          (fun feed =>
            feed.outbox.all (fun row => row.published) &&
              decide
                (shown standardText feed.topic 2 = some .available ∧
                  feed.inventory.db.status 2 = some .held)) = true := by
    decide +kernel
  obtain ⟨feed, ran, checked⟩ := (Option.any_eq_true _ _).mp ends
  obtain ⟨published, facts⟩ := Bool.and_eq_true_iff.mp checked
  obtain ⟨isShown, isHeld⟩ := of_decide_eq_true facts
  refine ⟨feed, ran, ?_⟩
  intro current
  have shownState := current (List.all_eq_true.mp published) 2 _ isShown
  rw [isHeld] at shownState
  cases shownState

end TicketWave.Inventory
