import TicketWave.Realtime.Feed

/-!
# From the snapshot to the stream

What was written before the tail knows its start is never read.
-/

namespace TicketWave.Realtime

open Library TicketWave.Inventory

variable {uuid : UuidText}

/-- The updates that the messages bring to an event. -/
def updatesFor (eventId : String) (rows : List (Outbox.Row SeatEvent)) :
    List Update :=
  rows.filterMap fun row =>
    (handler row.payload).bind fun sent =>
      if sent.1 = eventId then some sent.2 else none

/-- The messages from one offset up to another. -/
def slice (rows : List (Outbox.Row SeatEvent)) (first last : Nat) :
    List (Outbox.Row SeatEvent) :=
  (rows.take last).drop first

theorem slice_self (rows : List (Outbox.Row SeatEvent)) (first : Nat) :
    slice rows first first = [] := by
  apply List.drop_eq_nil_of_le
  rw [List.length_take]
  exact Nat.min_le_left _ _

variable {rows : List (Outbox.Row SeatEvent)} {first last : Nat}

theorem slice_append {added : List (Outbox.Row SeatEvent)}
    (within : last ≤ rows.length) :
    slice (rows ++ added) first last = slice rows first last := by
  rw [slice, List.take_append_of_le_length within, slice]

theorem slice_succ {row : Outbox.Row SeatEvent} (ordered : first ≤ last)
    (next : rows[last]? = some row) :
    slice rows first (last + 1) = slice rows first last ++ [row] := by
  obtain ⟨bound, isRow⟩ := List.getElem?_eq_some_iff.mp next
  have length : first ≤ (rows.take last).length := by
    rw [List.length_take]
    omega
  rw [slice, List.take_succ_eq_append_getElem bound, isRow,
    List.drop_append_of_le_length length, slice]

theorem slice_split {row : Outbox.Row SeatEvent} {offset : Nat}
    (ordered : first ≤ offset) (behind : offset < last)
    (isRow : rows[offset]? = some row) :
    slice rows first last =
      slice rows first offset ++ row :: slice rows (offset + 1) last := by
  obtain ⟨bound, same⟩ := List.getElem?_eq_some_iff.mp isRow
  have inTake : offset < (rows.take last).length := by
    rw [List.length_take]
    omega
  have split :
      rows.take last =
        rows.take offset ++ row :: (rows.take last).drop (offset + 1) := by
    have parted := (List.take_append_drop offset (rows.take last)).symm
    rw [List.take_take, Nat.min_eq_left (Nat.le_of_lt behind),
      List.drop_eq_getElem_cons inTake, List.getElem_take, same] at parted
    exact parted
  have length : first ≤ (rows.take offset).length := by
    rw [List.length_take]
    omega
  conv_lhs => rw [slice, split]
  rw [List.drop_append_of_le_length length]
  rfl

/-- When a seat list is read, the tail has its start offset. -/
def Resolved (process : Process uuid) : Move → Prop
  | .list _ => process.tail.isSome = true
  | _ => True

instance Resolved.decidable (process : Process uuid) :
    ∀ move, Decidable (Resolved process move)
  | .list _ => inferInstanceAs (Decidable (process.tail.isSome = true))
  | .service _ => inferInstanceAs (Decidable True)
  | .relay _ => inferInstanceAs (Decidable True)
  | .resolve => inferInstanceAs (Decidable True)
  | .consume => inferInstanceAs (Decidable True)
  | .connect _ => inferInstanceAs (Decidable True)
  | .opens _ => inferInstanceAs (Decidable True)
  | .receive _ => inferInstanceAs (Decidable True)
  | .leave _ => inferInstanceAs (Decidable True)
  | .shutdown => inferInstanceAs (Decidable True)

/-- The channel has what the tail has read from `first` on, and what was
committed after the list of the connection was read lies behind `first`. -/
structure Fed
    (topic outbox : List (Outbox.Row SeatEvent)) (connection : Connection)
    (channel : Mailbox Update) (offset first : Nat) : Prop where
  ordered : first ≤ offset
  follows :
    channel.Follows
      (updatesFor connection.eventId (slice topic first offset))
  later :
    ∀ {taken place row},
      connection.visit = .listed taken → topic[place]? = some row →
        row ∈ outbox.drop taken → first ≤ place

/-- The subscription of a connection, before and after the start offset is
resolved. -/
structure Served
    (topic outbox : List (Outbox.Row SeatEvent)) (tail : Option Nat)
    (connection : Connection) (channel : Mailbox Update) : Prop where
  before :
    tail = none → channel.Follows [] ∧ ∀ taken, connection.visit ≠ .listed taken
  after :
    ∀ offset, tail = some offset →
      ∃ first, Fed topic outbox connection channel offset first

structure Linked (process : Process uuid) : Prop where
  narrated : Narrated (fun _ => True) process.inventory
  hub : Sound process.hub
  relayed : ∀ row ∈ process.topic, row ∈ process.outbox
  within :
    ∀ {offset}, process.tail = some offset → offset ≤ process.topic.length
  connected :
    ∀ {id connection}, process.connections.get id = some connection →
      ∃ sub, process.hub.heap.get connection.subscription = some sub ∧
        sub.eventId = connection.eventId ∧
        Served process.topic process.outbox process.tail connection
          sub.channel

theorem linked_new (max : Int) : Linked (Process.new uuid max) where
  narrated := narrated_empty
  hub := sound_new max
  relayed := nofun
  within := fun position => by cases position
  connected := fun found => by cases found

theorem follows_of_own {sub : Subscription} {items : List Update}
    (follows : sub.channel.Follows items) (id : Nat) (label : Label) :
    (sub.applyAll (label.own id sub.eventId).toList).channel.Follows
      (items ++ publishedTo sub.eventId [label]) := by
  have fed :=
    follows.applyAll subscriberBuffer
      ([label].filterMap (Label.own id sub.eventId))
  rw [sent_own] at fed
  have own :
      [label].filterMap (Label.own id sub.eventId) =
        (label.own id sub.eventId).toList := by
    rw [List.filterMap_cons]
    cases label.own id sub.eventId <;> rfl
  rw [own] at fed
  exact fed

section Steps

variable {process : Process uuid}

theorem linked_of_service {label : Inventory.Label}
    {inventory : Inventory.State uuid} (linked : Linked process)
    (stepped : Inventory.step process.inventory label = some inventory) :
    Linked { process with inventory := inventory } := by
  have requests : Requests (fun _ => True) label := by
    cases label <;> trivial
  have narrated := narrated_of_step linked.narrated requests stepped
  obtain ⟨added, outbox, _⟩ :=
    announced_of_effect linked.narrated.wellFormed
      (Inventory.transition_of_step stepped).effect
  have distinct := narrated.wellFormed.outboxIds
  rw [outbox, List.map_append] at distinct
  refine
    { narrated := narrated
      hub := linked.hub
      relayed := ?_
      within := linked.within
      connected := ?_ }
  · intro row member
    show row ∈ inventory.db.outbox
    rw [outbox]
    exact List.mem_append_left _ (linked.relayed row member)
  · intro id connection found
    obtain ⟨sub, subFound, isEvent, served⟩ := linked.connected found
    refine ⟨sub, subFound, isEvent, served.before, ?_⟩
    intro offset position
    obtain ⟨first, fed⟩ := served.after _ position
    refine ⟨first, fed.ordered, fed.follows, ?_⟩
    intro taken place row isListed isRow member
    apply fed.later isListed isRow
    -- a row of the topic is an old one, and IDs tell old from new
    have old : row ∈ process.inventory.db.outbox :=
      linked.relayed row (List.mem_of_getElem? isRow)
    have grown : row ∈ inventory.db.outbox.drop taken := member
    rw [outbox, List.drop_append] at grown
    rcases List.mem_append.mp grown with kept | new
    · exact kept
    · exact absurd rfl
        ((List.nodup_append.mp distinct).2.2 row.id
          (List.mem_map_of_mem old) row.id
          (List.mem_map_of_mem (List.mem_of_mem_drop new)))

theorem linked_of_relay {index : Nat} {row : Outbox.Row SeatEvent}
    (linked : Linked process) (committed : process.outbox[index]? = some row) :
    Linked { process with topic := process.topic ++ [row] } := by
  refine
    { narrated := linked.narrated
      hub := linked.hub
      relayed := ?_
      within := ?_
      connected := ?_ }
  · intro other member
    rcases List.mem_append.mp member with old | new
    · exact linked.relayed other old
    · rw [List.mem_singleton.mp new]
      exact List.mem_of_getElem? committed
  · intro offset position
    rw [List.length_append]
    exact Nat.le_add_right_of_le (linked.within position)
  · intro id connection found
    obtain ⟨sub, subFound, isEvent, served⟩ := linked.connected found
    refine ⟨sub, subFound, isEvent, served.before, ?_⟩
    intro offset position
    have within := linked.within position
    obtain ⟨first, fed⟩ := served.after _ position
    refine ⟨first, fed.ordered, ?_, ?_⟩
    · rw [slice_append within]
      exact fed.follows
    · intro taken place other isListed isRow member
      by_cases old : place < process.topic.length
      · have before : process.topic[place]? = some other := by
          rw [← isRow]
          exact (List.getElem?_append_left old).symm
        exact fed.later isListed before member
      · exact fed.ordered.trans (within.trans (Nat.le_of_not_lt old))

theorem linked_of_resolve
    (linked : Linked process) (unresolved : process.tail = none) :
    Linked { process with tail := some process.topic.length } := by
  refine
    { narrated := linked.narrated
      hub := linked.hub
      relayed := linked.relayed
      within := ?_
      connected := ?_ }
  · rintro offset ⟨⟩
    exact Nat.le_refl _
  · intro id connection found
    obtain ⟨sub, subFound, isEvent, served⟩ := linked.connected found
    obtain ⟨follows, unlisted⟩ := served.before unresolved
    refine ⟨sub, subFound, isEvent, ?_, ?_⟩
    · exact nofun
    rintro offset ⟨⟩
    refine ⟨process.topic.length, Nat.le_refl _, ?_, ?_⟩
    · rw [slice_self]
      exact follows
    · intro taken place row isListed
      exact absurd isListed (unlisted taken)

/-- The tail goes on one message, and every subscription gets its part. -/
theorem linked_of_consume
    {offset : Nat} {row : Outbox.Row SeatEvent} {hub : Hub}
    (linked : Linked process) (position : process.tail = some offset)
    (next : process.topic[offset]? = some row) (sound : Sound hub)
    (gets :
      ∀ {id sub items}, process.hub.heap.get id = some sub →
        sub.channel.Follows items →
          ∃ after, hub.heap.get id = some after ∧
            after.eventId = sub.eventId ∧
            after.channel.Follows
              (items ++ updatesFor sub.eventId [row])) :
    Linked { process with tail := some (offset + 1), hub := hub } := by
  refine
    { narrated := linked.narrated
      hub := sound
      relayed := linked.relayed
      within := ?_
      connected := ?_ }
  · rintro other ⟨⟩
    exact (List.getElem?_eq_some_iff.mp next).1
  · intro id connection found
    obtain ⟨sub, subFound, isEvent, served⟩ := linked.connected found
    obtain ⟨first, fed⟩ := served.after _ position
    obtain ⟨after, afterFound, sameEvent, follows⟩ := gets subFound fed.follows
    refine ⟨after, afterFound, sameEvent.trans isEvent, ?_, ?_⟩
    · exact nofun
    rintro other ⟨⟩
    refine ⟨first, Nat.le_succ_of_le fed.ordered, ?_, fed.later⟩
    rw [slice_succ fed.ordered next, updatesFor, List.filterMap_append,
      ← isEvent]
    rw [isEvent] at follows ⊢
    exact follows

theorem linked_of_connect
    {eventId : String} {id : Nat} (linked : Linked process)
    (subscribed : (process.hub.subscribe eventId).2 = some id) :
    Linked
      { process with
        hub := (process.hub.subscribe eventId).1
        connections :=
          process.connections.launch ⟨eventId, id, .connected⟩ } := by
  have stepped := stepped_of_subscribe linked.hub eventId
  refine
    { narrated := linked.narrated
      hub := stepped.sound
      relayed := linked.relayed
      within := linked.within
      connected := ?_ }
  intro key connection found
  rcases Registry.cases_of_get_launch found with ⟨_, rfl⟩ | stored
  · have fresh :
        (process.hub.subscribe eventId).1.heap.get id =
          some ⟨eventId, Mailbox.empty⟩ := by
      unfold Hub.subscribe at subscribed ⊢
      split at subscribed
      · cases subscribed
      · rename_i accepted
        cases subscribed
        rw [if_neg accepted]
        exact Registry.get_launch_self _ _
    refine ⟨_, fresh, rfl, ?_, ?_⟩
    · intro _
      exact ⟨Mailbox.follows_empty, fun taken same => by cases same⟩
    · intro offset position
      refine ⟨offset, Nat.le_refl _, ?_, fun isListed => by cases isListed⟩
      rw [slice_self]
      exact Mailbox.follows_empty
  · obtain ⟨sub, subFound, isEvent, served⟩ := linked.connected stored
    exact ⟨sub, stepped.old _ sub subFound, isEvent, served.before,
      served.after⟩

theorem linked_of_advance {id : Nat} {connection : Connection} {visit : Visit}
    (linked : Linked process)
    (found : process.connections.get id = some connection)
    (fresh :
      ∀ taken, visit = .listed taken →
        process.tail.isSome = true ∧ taken = process.outbox.length) :
    Linked (process.advance id connection visit) := by
  refine
    { narrated := linked.narrated
      hub := linked.hub
      relayed := linked.relayed
      within := linked.within
      connected := ?_ }
  intro key value got
  rcases Registry.cases_of_get_put got with ⟨_, rfl⟩ | ⟨_, stored⟩
  · obtain ⟨sub, subFound, isEvent, served⟩ := linked.connected found
    refine ⟨sub, subFound, isEvent, ?_, ?_⟩
    · intro unresolved
      refine ⟨(served.before unresolved).1, ?_⟩
      intro taken isListed
      have resolved := (fresh taken isListed).1
      rw [show process.tail = none from unresolved] at resolved
      cases resolved
    · intro offset position
      obtain ⟨first, fed⟩ := served.after _ position
      refine ⟨first, fed.ordered, fed.follows, ?_⟩
      intro taken place row isListed isRow member
      have now := (fresh taken isListed).2
      have inRest : row ∈ process.outbox.drop taken := member
      rw [now, List.drop_length] at inRest
      cases inRest
  · exact linked.connected stored

theorem linked_of_hub {label : Label} {hub : Hub} (linked : Linked process)
    (quiet : ∀ eventId, publishedTo eventId [label] = [])
    (stepped : process.hub.step label = some hub) :
    Linked { process with hub := hub } := by
  have moved := stepped_of_step linked.hub stepped
  refine
    { narrated := linked.narrated
      hub := moved.sound
      relayed := linked.relayed
      within := linked.within
      connected := ?_ }
  intro id connection found
  obtain ⟨sub, subFound, isEvent, served⟩ := linked.connected found
  have keeps :
      ∀ {items}, sub.channel.Follows items →
        (sub.applyAll
            (label.own connection.subscription
              sub.eventId).toList).channel.Follows items := by
    intro items follows
    have after := follows_of_own follows connection.subscription label
    rw [quiet, List.append_nil] at after
    exact after
  refine ⟨_, moved.old _ sub subFound, isEvent, ?_, ?_⟩
  · intro unresolved
    obtain ⟨follows, unlisted⟩ := served.before unresolved
    exact ⟨keeps follows, unlisted⟩
  · intro offset position
    obtain ⟨first, fed⟩ := served.after _ position
    exact ⟨first, fed.ordered, keeps fed.follows, fed.later⟩

end Steps

theorem linked_of_happens {process next : Process uuid} {move : Move}
    (linked : Linked process) (resolved : Resolved process move)
    (happens : Happens process move next) : Linked next := by
  cases happens with
  | served stepped => exact linked_of_service linked stepped
  | relayed committed => exact linked_of_relay linked committed
  | resolved unresolved => exact linked_of_resolve linked unresolved
  | @skipped offset row position isNext nothing =>
      apply linked_of_consume linked position isNext linked.hub
      intro id sub items found follows
      refine ⟨sub, found, rfl, ?_⟩
      have silent : updatesFor sub.eventId [row] = [] := by
        simp [updatesFor, nothing]
      rw [silent, List.append_nil]
      exact follows
  | @published offset row eventId update hub position isNext sent stepped =>
      have moved := stepped_of_step linked.hub stepped
      apply linked_of_consume linked position isNext moved.sound
      intro id sub items found follows
      refine ⟨_, moved.old id sub found, rfl, ?_⟩
      have same :
          publishedTo sub.eventId [.publish eventId update] =
            updatesFor sub.eventId [row] := by
        rw [publishedTo, updatesFor, List.filterMap_cons, List.filterMap_cons,
          sent]
        rfl
      rw [← same]
      exact follows_of_own follows id (.publish eventId update)
  | turnedAway eventId => exact linked
  | connected subscribed => exact linked_of_connect linked subscribed
  | opened found =>
      apply linked_of_advance linked found
      intro taken same
      cases same
  | listed found =>
      apply linked_of_advance linked found
      rintro taken ⟨⟩
      exact ⟨resolved, rfl⟩
  | hub quiet stepped =>
      apply linked_of_hub linked ?_ stepped
      intro eventId
      rcases quiet with rfl | ⟨id, rfl | rfl⟩
      · rfl
      · rfl
      · rfl

/-- What was committed after the list was read, and has come past the tail, is
on the open subscription, at its place among the updates. -/
theorem no_change_falls_into_the_gap {max : Int} {moves : List Move}
    {process : Process uuid} (blank : uuid.column "" = none)
    (resolved : EveryStep Process.step Resolved (Process.new uuid max) moves)
    (ran : run Process.step (Process.new uuid max) moves = some process)
    {id taken position offset : Nat} {connection : Connection}
    {sub : Subscription} {row : Outbox.Row SeatEvent}
    (found : process.connections.get id = some connection)
    (isListed : connection.visit = .listed taken)
    (isSub : process.hub.heap.get connection.subscription = some sub)
    (opened : sub.channel.closed = false)
    (isTail : process.tail = some position)
    (after : row ∈ process.outbox.drop taken)
    (written : process.topic[offset]? = some row) (passed : offset < position)
    (spelled : row.payload.eventId = connection.eventId) :
    ∃ first,
      sub.channel.received ++ sub.channel.buffer =
        updatesFor connection.eventId (slice process.topic first offset) ++
          updateOf row ::
            updatesFor connection.eventId
              (slice process.topic (offset + 1) position) := by
  have linked : Linked process :=
    invariant_of_restricted_run
      (fun held allowed stepped =>
        linked_of_happens held allowed (happens_of_step stepped))
      (linked_new max) resolved ran
  obtain ⟨own, ownFound, _, served⟩ := linked.connected found
  rw [isSub] at ownFound
  cases ownFound
  obtain ⟨first, fed⟩ := served.after _ isTail
  have ordered := fed.later isListed written after
  have isRow : row ∈ process.outbox := List.mem_of_mem_drop after
  have sent := handler_eq blank (linked.narrated.told row isRow)
  refine ⟨first, ?_⟩
  have whole := fed.follows.whole opened
  rw [slice_split ordered passed written, updatesFor, List.filterMap_append,
    List.filterMap_cons, sent, Option.bind_some, if_pos spelled] at whole
  exact whole

-- A browser watches the concert 171, whose seat 2 the order 9 takes after the
-- list was read.  In `early` the browser has the page open before the tail has
-- its start offset; in `capitals` the address of the page is in capitals.
private def watched (path : String) : List Move :=
  [.connect path, .opens 0, .list 0]

private def sold : List Move :=
  [.service (.createEvent ⟨"Concert", 1⟩ 171 [2]),
    .service
      (.beginCall .reserveSeats
        ⟨standardString 171, [standardString 2], standardString 9⟩),
    .service (.commitCall 0 10), .relay 0]

private def capitalPath : String := "00000000-0000-0000-0000-0000000000AB"

private def early : List Move :=
  watched (standardString 171) ++ sold ++ [.resolve]

private def capitals : List Move :=
  [.resolve] ++ watched capitalPath ++ sold ++ [.consume]

private def timely : List Move :=
  [.resolve] ++ watched (standardString 171) ++ sold ++
    [.relay 0, .consume, .receive 0, .consume]

private def launched : Process standardText := Process.new standardText 10

/-- The tail is past the message of the row, and the open subscription has
got nothing. -/
private def misses (path : String) (process : Process standardText) : Bool :=
  match process.hub.heap.get 0, process.topic with
  | some sub, [row] =>
      decide
        (process.connections.get 0 = some ⟨path, 0, .listed 0⟩ ∧
          sub.channel = Mailbox.empty ∧ process.tail = some 1 ∧
          row ∈ process.outbox.drop 0 ∧
          standardText.column path = some row.key)
  | _, _ => false

theorem early_lists_and_capital_paths_miss_a_change :
    (∃ process,
      run Process.step launched early = some process ∧
        misses (standardString 171) process = true) ∧
      ∃ process,
        run Process.step launched capitals = some process ∧
          EveryStep Process.step Resolved launched capitals ∧
          misses capitalPath process = true := by
  have unseen :
      (run Process.step launched early).any
        (misses (standardString 171)) = true := by
    decide +kernel
  have astray :
      (run Process.step launched capitals).any (misses capitalPath) = true := by
    decide +kernel
  obtain ⟨process, ran, missed⟩ := (Option.any_eq_true _ _).mp unseen
  obtain ⟨other, otherRan, otherMissed⟩ := (Option.any_eq_true _ _).mp astray
  exact
    ⟨⟨process, ran, missed⟩, other, otherRan, by decide +kernel, otherMissed⟩

theorem no_change_falls_into_the_gap_of_a_watcher :
    ∃ process sub row,
      run Process.step launched timely = some process ∧
        process.hub.heap.get 0 = some sub ∧
        process.topic[0]? = some row ∧
        row ∈ process.outbox.drop 0 ∧
        ∃ first,
          sub.channel.received ++ sub.channel.buffer =
            updatesFor (standardString 171) (slice process.topic first 0) ++
              updateOf row ::
                updatesFor (standardString 171)
                  (slice process.topic 1 2) := by
  have ends :
      (run Process.step launched timely).any
          (fun process =>
            (process.hub.heap.get 0).any fun sub =>
              (process.topic[0]?).any fun row =>
                decide
                  (process.connections.get 0 =
                      some ⟨standardString 171, 0, .listed 0⟩ ∧
                    sub.channel.closed = false ∧ process.tail = some 2 ∧
                    row ∈ process.outbox.drop 0 ∧
                    row.payload.eventId = standardString 171)) = true := by
    decide +kernel
  have resolved : EveryStep Process.step Resolved launched timely := by
    decide +kernel
  obtain ⟨process, ran, checked⟩ := (Option.any_eq_true _ _).mp ends
  obtain ⟨sub, isSub, more⟩ := (Option.any_eq_true _ _).mp checked
  obtain ⟨row, written, facts⟩ := (Option.any_eq_true _ _).mp more
  obtain ⟨found, opened, isTail, after, spelled⟩ := of_decide_eq_true facts
  exact ⟨process, sub, row, ran, isSub, written, after,
    no_change_falls_into_the_gap (by decide) resolved ran found rfl isSub
      opened isTail after written (by decide) spelled⟩

end TicketWave.Realtime
