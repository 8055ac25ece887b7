import TicketWave.Library.Mailbox
import TicketWave.Library.Registry
import TicketWave.Library.Runs

/-!
# The hub

`services/realtime/internal/hub`; a pointer to a subscription is a number in
`heap`.  The lock makes every operation one step, and a panic is a `none`.
-/

namespace TicketWave.Realtime

open Library

structure Update where
  seatIds : List String
  state : String
  deriving DecidableEq, Repr

def subscriberBuffer : Nat := 64

structure Subscription where
  eventId : String
  channel : Mailbox Update
  deriving DecidableEq, Repr

def Subscription.apply (sub : Subscription) (op : MailboxOp Update) :
    Subscription :=
  { sub with channel := sub.channel.apply subscriberBuffer op }

structure Hub where
  /-- event ID to watchers -/
  subs : List (String × List Nat)
  count : Int
  max : Int
  closed : Bool
  heap : Registry Subscription

/-- `New` -/
def Hub.new (max : Int) : Hub where
  subs := []
  count := 0
  max := max
  closed := false
  heap := Registry.empty

def watchersIn (subs : List (String × List Nat)) (eventId : String) :
    List Nat :=
  ((lookup Prod.fst subs eventId).map Prod.snd).getD []

def Hub.watchers (hub : Hub) (eventId : String) : List Nat :=
  watchersIn hub.subs eventId

/-- The inner map is made when the first watcher comes. -/
def insertWatcher (subs : List (String × List Nat)) (eventId : String)
    (id : Nat) : List (String × List Nat) :=
  let made :=
    if eventId ∈ subs.map Prod.fst then subs else subs ++ [(eventId, [])]
  updateWhere (fun entry => decide (entry.1 = eventId))
    (fun entry => (entry.1, entry.2 ++ [id])) made

/-- The inner map goes with its last watcher. -/
def deleteWatcher (subs : List (String × List Nat)) (eventId : String)
    (id : Nat) : List (String × List Nat) :=
  let left :=
    updateWhere (fun entry => decide (entry.1 = eventId))
      (fun entry =>
        (entry.1, entry.2.filter fun other => decide (other ≠ id))) subs
  left.filter fun entry =>
    decide (¬ (entry.1 = eventId ∧ entry.2.length = 0))

/-- `Subscribe`, with the new subscription unless the hub refuses. -/
def Hub.subscribe (hub : Hub) (eventId : String) : Hub × Option Nat :=
  if hub.closed = true ∨ hub.count ≥ hub.max then
    (hub, none)
  else
    ({ hub with
       subs := insertWatcher hub.subs eventId hub.heap.next
       count := hub.count + 1
       heap := hub.heap.launch ⟨eventId, Mailbox.empty⟩ },
      some hub.heap.next)

/-- `remove`, and `Subscription.Close`, which is `remove` under the lock. -/
def Hub.remove (hub : Hub) (id : Nat) : Option Hub :=
  match hub.heap.get id with
  | none => none
  | some sub =>
      if id ∉ hub.watchers sub.eventId then
        some hub
      else if sub.channel.closed then
        none
      else
        some
          { hub with
            subs := deleteWatcher hub.subs sub.eventId id
            count := hub.count - 1
            heap := hub.heap.put id (sub.apply .close) }

/-- The body of the loop in `Publish`. -/
def Hub.offer (update : Update) (hub : Hub) (id : Nat) : Option Hub :=
  match hub.heap.get id with
  | none => none
  | some sub =>
      if sub.channel.closed then
        none
      else if sub.channel.buffer.length < subscriberBuffer then
        some { hub with heap := hub.heap.put id (sub.apply (.send update)) }
      else
        hub.remove id

-- Go visits the watchers in no fixed order; an iteration touches nothing but
-- its own watcher.
def Hub.publish (hub : Hub) (eventId : String) (update : Update) : Option Hub :=
  (hub.watchers eventId).foldlM (Hub.offer update) hub

/-- `Hub.Close` -/
def Hub.close (hub : Hub) : Option Hub :=
  (hub.subs.flatMap Prod.snd).foldlM Hub.remove { hub with closed := true }

inductive Label where
  | subscribe (eventId : String)
  | publish (eventId : String) (update : Update)
  /-- a read from `C`; it waits while the channel is empty and open -/
  | receive (id : Nat)
  | unsubscribe (id : Nat)
  | close
  deriving DecidableEq, Repr

def Hub.step (hub : Hub) : Label → Option Hub
  | .subscribe eventId => some (hub.subscribe eventId).1
  | .publish eventId update => hub.publish eventId update
  | .receive id =>
      match hub.heap.get id with
      | none => none
      | some sub =>
          if sub.channel.buffer = [] ∧ sub.channel.closed = false then none
          else
            some { hub with heap := hub.heap.put id (sub.apply .receive) }
  | .unsubscribe id => hub.remove id
  | .close => hub.close

theorem watchersIn_insertWatcher (subs : List (String × List Nat))
    (eventId : String) (id : Nat) (other : String) :
    watchersIn (insertWatcher subs eventId id) other =
      if other = eventId then watchersIn subs eventId ++ [id]
      else watchersIn subs other := by
  unfold watchersIn insertWatcher
  rw [lookup_updateWhere (by intro entry; rfl)]
  by_cases known : eventId ∈ subs.map Prod.fst
  · rw [if_pos known]
    by_cases same : other = eventId
    · subst same
      rw [if_pos rfl]
      cases found : lookup Prod.fst subs other with
      | none =>
          obtain ⟨entry, stored, isKey⟩ := List.mem_map.mp known
          have missing := List.find?_eq_none.mp found entry stored
          simp [isKey] at missing
      | some entry =>
          have isKey : entry.1 = other := key_of_lookup found
          simp [isKey]
    · rw [if_neg same]
      cases found : lookup Prod.fst subs other with
      | none => rfl
      | some entry =>
          have isKey : entry.1 = other := key_of_lookup found
          simp [isKey, same]
  · rw [if_neg known, lookup_append]
    have absent : lookup Prod.fst subs eventId = none := by
      cases found : lookup Prod.fst subs eventId with
      | none => rfl
      | some entry =>
          have isKey : entry.1 = eventId := key_of_lookup found
          rw [← isKey] at known
          exact absurd (List.mem_map_of_mem (mem_of_lookup found)) known
    by_cases same : other = eventId
    · subst same
      rw [absent, if_pos rfl]
      simp [lookup]
    · rw [if_neg same]
      cases found : lookup Prod.fst subs other with
      | none => simp [lookup, Ne.symm same]
      | some entry =>
          have isKey : entry.1 = other := key_of_lookup found
          simp [isKey, same]

variable {subs : List (String × List Nat)}

theorem watchersIn_deleteWatcher (distinct : (subs.map Prod.fst).Nodup)
    (eventId : String) (id : Nat) (other : String) :
    watchersIn (deleteWatcher subs eventId id) other =
      if other = eventId then
        (watchersIn subs eventId).filter fun watcher =>
          decide (watcher ≠ id)
      else watchersIn subs other := by
  unfold watchersIn deleteWatcher
  rw [lookup_filter
    (by rw [map_key_updateWhere (by intro entry; rfl)]; exact distinct),
    lookup_updateWhere (by intro entry; rfl)]
  cases found : lookup Prod.fst subs other with
  | none =>
      by_cases same : other = eventId
      · subst same
        simp [found]
      · simp [same]
  | some entry =>
      have isKey : entry.1 = other := key_of_lookup found
      by_cases same : other = eventId
      · subst same
        rw [found, if_pos rfl, Option.map_some,
          if_pos (decide_eq_true isKey), Option.map_some, Option.getD_some]
        cases entry.2.filter fun watcher => decide (watcher ≠ id) with
        | nil => simp [Option.filter, isKey]
        | cons first rest => simp [Option.filter]
      · simp [Option.filter, isKey, same]

theorem keys_insertWatcher (distinct : (subs.map Prod.fst).Nodup)
    (eventId : String) (id : Nat) :
    ((insertWatcher subs eventId id).map Prod.fst).Nodup := by
  unfold insertWatcher
  rw [map_key_updateWhere (by intro entry; rfl)]
  by_cases known : eventId ∈ subs.map Prod.fst
  · rw [if_pos known]
    exact distinct
  · rw [if_neg known]
    exact nodup_keys_append distinct known

theorem keys_deleteWatcher (distinct : (subs.map Prod.fst).Nodup)
    (eventId : String) (id : Nat) :
    ((deleteWatcher subs eventId id).map Prod.fst).Nodup := by
  unfold deleteWatcher
  refine List.Nodup.sublist (List.filter_sublist.map Prod.fst) ?_
  rw [map_key_updateWhere (by intro entry; rfl)]
  exact distinct

/-- The watchers of an event are its open subscriptions. -/
structure Sound (hub : Hub) : Prop where
  keys : (hub.subs.map Prod.fst).Nodup
  distinct : ∀ eventId, (hub.watchers eventId).Nodup
  watching :
    ∀ eventId id, id ∈ hub.watchers eventId ↔
      ∃ sub, hub.heap.get id = some sub ∧ sub.eventId = eventId ∧
        sub.channel.closed = false

theorem sound_new (max : Int) : Sound (Hub.new max) where
  keys := List.nodup_nil
  distinct := fun _ => List.nodup_nil
  watching := by
    intro eventId id
    constructor
    · exact nofun
    · rintro ⟨sub, found, _⟩
      cases found

section Operations

variable {hub next : Hub} {id : Nat} {sub : Subscription}

theorem Sound.mem_watchers_iff (sound : Sound hub)
    (found : hub.heap.get id = some sub) (eventId : String) :
    id ∈ hub.watchers eventId ↔
      eventId = sub.eventId ∧ sub.channel.closed = false := by
  rw [sound.watching]
  constructor
  · rintro ⟨other, otherFound, rfl, opened⟩
    cases found.symm.trans otherFound
    exact ⟨rfl, opened⟩
  · rintro ⟨rfl, opened⟩
    exact ⟨sub, found, rfl, opened⟩

theorem sound_put {id : Nat} {sub : Subscription} {op : MailboxOp Update}
    (sound : Sound hub) (found : hub.heap.get id = some sub)
    (kept : (sub.apply op).channel.closed = sub.channel.closed) :
    Sound { hub with heap := hub.heap.put id (sub.apply op) } where
  keys := sound.keys
  distinct := sound.distinct
  watching := by
    intro eventId other
    refine Iff.trans (sound.watching eventId other) ?_
    by_cases same : other = id
    · subst same
      constructor
      · rintro ⟨old, oldFound, isEvent, opened⟩
        cases found.symm.trans oldFound
        exact ⟨sub.apply op, Registry.get_put_self found, isEvent,
          kept.trans opened⟩
      · rintro ⟨new, newFound, isEvent, opened⟩
        cases (Registry.get_put_self found).symm.trans newFound
        exact ⟨sub, found, isEvent, kept.symm.trans opened⟩
    · show _ ↔
        ∃ sub', (hub.heap.put id (sub.apply op)).get other = some sub' ∧ _
      rw [Registry.get_put_of_ne same]

theorem remove_of_closed (sound : Sound hub)
    (found : hub.heap.get id = some sub) (closed : sub.channel.closed = true) :
    hub.remove id = some hub := by
  have absent : id ∉ hub.watchers sub.eventId := by
    rw [sound.mem_watchers_iff found, closed]
    rintro ⟨_, impossible⟩
    cases impossible
  simp only [Hub.remove, found]
  rw [if_pos absent]

theorem remove_of_open (sound : Sound hub) (found : hub.heap.get id = some sub)
    (opened : sub.channel.closed = false) :
    hub.remove id =
      some
        { hub with
          subs := deleteWatcher hub.subs sub.eventId id
          count := hub.count - 1
          heap := hub.heap.put id (sub.apply .close) } := by
  have member : id ∈ hub.watchers sub.eventId :=
    (sound.mem_watchers_iff found _).mpr ⟨rfl, opened⟩
  simp only [Hub.remove, found]
  rw [if_neg (not_not_intro member), if_neg (by simp [opened])]

theorem sound_remove (sound : Sound hub) (found : hub.heap.get id = some sub) :
    Sound
      { hub with
        subs := deleteWatcher hub.subs sub.eventId id
        count := hub.count - 1
        heap := hub.heap.put id (sub.apply .close) } where
  keys := keys_deleteWatcher sound.keys sub.eventId id
  distinct := by
    intro eventId
    show (watchersIn (deleteWatcher hub.subs sub.eventId id) eventId).Nodup
    rw [watchersIn_deleteWatcher sound.keys]
    by_cases same : eventId = sub.eventId
    · rw [if_pos same]
      exact (sound.distinct sub.eventId).filter _
    · rw [if_neg same]
      exact sound.distinct eventId
  watching := by
    intro eventId other
    have listed :
        other ∈ watchersIn (deleteWatcher hub.subs sub.eventId id) eventId ↔
          other ∈ hub.watchers eventId ∧ other ≠ id := by
      rw [watchersIn_deleteWatcher sound.keys]
      by_cases same : eventId = sub.eventId
      · rw [if_pos same, List.mem_filter, decide_eq_true_eq, same]
        rfl
      · rw [if_neg same]
        constructor
        · intro member
          refine ⟨member, ?_⟩
          rintro rfl
          exact same ((sound.mem_watchers_iff found eventId).mp member).1
        · exact fun both => both.1
    refine Iff.trans listed ?_
    rw [sound.watching]
    by_cases same : other = id
    · subst same
      constructor
      · rintro ⟨_, impossible⟩
        exact absurd rfl impossible
      · rintro ⟨new, newFound, _, stillOpen⟩
        cases (Registry.get_put_self found).symm.trans newFound
        cases stillOpen
    · show _ ↔
        ∃ sub', (hub.heap.put id (sub.apply .close)).get other = some sub' ∧ _
      rw [Registry.get_put_of_ne same]
      exact ⟨fun both => both.1, fun open_ => ⟨open_, same⟩⟩

/-- What an operation did to the channels: the subscriptions in `ids` went
through `op` and the others are as they were. -/
structure Through
    (hub : Hub) (op : MailboxOp Update) (ids : List Nat) (next : Hub) :
    Prop where
  sound : Sound next
  drawn : next.heap.next = hub.heap.next
  channels :
    ∀ id, next.heap.get id =
      (hub.heap.get id).map fun sub =>
        if id ∈ ids then sub.apply op else sub

theorem through_of_put {op : MailboxOp Update} (sound : Sound next)
    (found : hub.heap.get id = some sub)
    (heap : next.heap = hub.heap.put id (sub.apply op)) :
    Through hub op [id] next where
  sound := sound
  drawn := by rw [heap]; rfl
  channels := by
    intro other
    rw [heap, Registry.get_put]
    by_cases same : other = id
    · subst same
      simp [found]
    · simp [same]

theorem through_remove (sound : Sound hub) (found : hub.heap.get id = some sub)
    (opened : sub.channel.closed = false) :
    ∃ next, hub.remove id = some next ∧ Through hub .close [id] next :=
  ⟨_, remove_of_open sound found opened,
    through_of_put (sound_remove sound found) found rfl⟩

theorem through_offer (update : Update) (sound : Sound hub)
    (found : hub.heap.get id = some sub) (opened : sub.channel.closed = false) :
    ∃ next, hub.offer update id = some next ∧
      Through hub (.send update) [id] next := by
  have notClosed : ¬ sub.channel.closed = true := by simp [opened]
  by_cases room : sub.channel.buffer.length < subscriberBuffer
  · refine ⟨{ hub with heap := hub.heap.put id (sub.apply (.send update)) }, ?_,
      through_of_put (sound_put sound found ?_) found rfl⟩
    · simp only [Hub.offer, found]
      rw [if_neg notClosed, if_pos room]
    · rw [Subscription.apply, Mailbox.apply, if_neg notClosed, if_pos room]
  · -- a full channel is closed, which is what sending to it amounts to
    obtain ⟨next, removed, through⟩ := through_remove sound found opened
    have sameOp : sub.apply (.send update) = sub.apply .close := by
      rw [Subscription.apply, Mailbox.apply_send_of_full opened room]
      rfl
    refine ⟨next, ?_, through.sound, through.drawn, ?_⟩
    · simp only [Hub.offer, found]
      rw [if_neg notClosed, if_neg room, removed]
    · intro other
      rw [through.channels other]
      by_cases same : other = id
      · subst same
        rw [found, Option.map_some, Option.map_some, sameOp]
      · simp [same]

/-- A loop whose body takes one open subscription through `op`. -/
theorem through_loop {op : MailboxOp Update} {body : Hub → Nat → Option Hub}
    (each :
      ∀ {hub : Hub} {id : Nat} {sub : Subscription}, Sound hub →
        hub.heap.get id = some sub → sub.channel.closed = false →
          ∃ next, body hub id = some next ∧ Through hub op [id] next)
    {ids : List Nat} (distinct : ids.Nodup) (sound : Sound hub)
    (opened :
      ∀ id ∈ ids, ∃ sub, hub.heap.get id = some sub ∧
        sub.channel.closed = false) :
    ∃ next, ids.foldlM body hub = some next ∧ Through hub op ids next := by
  induction ids generalizing hub with
  | nil =>
      refine ⟨hub, rfl, sound, rfl, ?_⟩
      intro id
      simp
  | cons id rest ih =>
      obtain ⟨absent, restDistinct⟩ := List.nodup_cons.mp distinct
      obtain ⟨sub, found, isOpen⟩ := opened id List.mem_cons_self
      obtain ⟨middle, stepped, through⟩ := each sound found isOpen
      have laterOpened :
          ∀ other ∈ rest, ∃ sub, middle.heap.get other = some sub ∧
            sub.channel.closed = false := by
        intro other member
        obtain ⟨later, laterFound, laterOpen⟩ :=
          opened other (List.mem_cons_of_mem id member)
        have different : other ∉ [id] := by
          rw [List.mem_singleton]
          rintro rfl
          exact absent member
        refine ⟨later, ?_, laterOpen⟩
        rw [through.channels other, laterFound, Option.map_some,
          if_neg different]
      obtain ⟨next, folded, rests⟩ := ih restDistinct through.sound laterOpened
      refine ⟨next, ?_, rests.sound, rests.drawn.trans through.drawn, ?_⟩
      · rw [List.foldlM_cons, stepped]
        exact folded
      · intro other
        rw [rests.channels other, through.channels other, Option.map_map]
        congr 1
        funext sub'
        by_cases isFirst : other = id
        · subst isFirst
          simp [absent]
        · simp [isFirst]

/-- The watchers of an event are sent the update, in whatever order. -/
theorem through_publish_in
    (sound : Sound hub) (eventId : String) (update : Update)
    {order : List Nat} (visits : order.Perm (hub.watchers eventId)) :
    ∃ next, order.foldlM (Hub.offer update) hub = some next ∧
      Through hub (.send update) order next := by
  apply through_loop (through_offer update)
    (visits.nodup_iff.mpr (sound.distinct eventId)) sound
  intro id member
  obtain ⟨sub, found, _, opened⟩ :=
    (sound.watching eventId id).mp (visits.mem_iff.mp member)
  exact ⟨sub, found, opened⟩

theorem through_publish
    (sound : Sound hub) (eventId : String) (update : Update) :
    ∃ next, hub.publish eventId update = some next ∧
      Through hub (.send update) (hub.watchers eventId) next :=
  through_publish_in sound eventId update (List.Perm.refl _)

theorem mem_flatMap_watchers (sound : Sound hub) (id : Nat) :
    id ∈ hub.subs.flatMap Prod.snd ↔
      ∃ sub, hub.heap.get id = some sub ∧ sub.channel.closed = false := by
  rw [List.mem_flatMap]
  constructor
  · rintro ⟨entry, stored, member⟩
    have found : lookup Prod.fst hub.subs entry.1 = some entry :=
      lookup_of_mem sound.keys stored
    have watching : id ∈ hub.watchers entry.1 := by
      rw [Hub.watchers, watchersIn, found]
      exact member
    obtain ⟨sub, isSub, _, opened⟩ := (sound.watching entry.1 id).mp watching
    exact ⟨sub, isSub, opened⟩
  · rintro ⟨sub, isSub, opened⟩
    have watching : id ∈ hub.watchers sub.eventId :=
      (sound.mem_watchers_iff isSub _).mpr ⟨rfl, opened⟩
    rw [Hub.watchers, watchersIn] at watching
    cases found : lookup Prod.fst hub.subs sub.eventId with
    | none =>
        rw [found] at watching
        cases watching
    | some entry =>
        rw [found] at watching
        exact ⟨entry, mem_of_lookup found, watching⟩

theorem nodup_flatMap_watchers (sound : Sound hub) :
    (hub.subs.flatMap Prod.snd).Nodup := by
  rw [List.nodup_flatMap]
  constructor
  · intro entry stored
    have distinct := sound.distinct entry.1
    rw [Hub.watchers, watchersIn, lookup_of_mem sound.keys stored] at distinct
    exact distinct
  · have pairwise := List.pairwise_map.mp sound.keys
    refine pairwise.imp_of_mem ?_
    intro left right leftStored rightStored different id inLeft inRight
    have watches :
        ∀ entry ∈ hub.subs, id ∈ entry.2 → id ∈ hub.watchers entry.1 := by
      intro entry stored member
      rw [Hub.watchers, watchersIn, lookup_of_mem sound.keys stored]
      exact member
    obtain ⟨sub, found, leftEvent, _⟩ :=
      (sound.watching left.1 id).mp (watches left leftStored inLeft)
    obtain ⟨other, otherFound, rightEvent, _⟩ :=
      (sound.watching right.1 id).mp (watches right rightStored inRight)
    cases found.symm.trans otherFound
    exact different (leftEvent.symm.trans rightEvent)

theorem through_close_in (sound : Sound hub) {order : List Nat}
    (visits : order.Perm (hub.subs.flatMap Prod.snd)) :
    ∃ next, order.foldlM Hub.remove { hub with closed := true } = some next ∧
      Through { hub with closed := true } .close order next := by
  have closing : Sound { hub with closed := true } :=
    ⟨sound.keys, sound.distinct, sound.watching⟩
  apply through_loop through_remove
    (visits.nodup_iff.mpr (nodup_flatMap_watchers sound)) closing
  intro id member
  exact (mem_flatMap_watchers sound id).mp (visits.mem_iff.mp member)

theorem through_close (sound : Sound hub) :
    ∃ next, hub.close = some next ∧
      Through hub .close (hub.subs.flatMap Prod.snd) next := by
  obtain ⟨next, folded, through⟩ := through_close_in sound (List.Perm.refl _)
  exact ⟨next, folded, through.sound, through.drawn, through.channels⟩

theorem sound_subscribe (sound : Sound hub) (eventId : String) :
    Sound
      { hub with
        subs := insertWatcher hub.subs eventId hub.heap.next
        count := hub.count + 1
        heap := hub.heap.launch ⟨eventId, Mailbox.empty⟩ } where
  keys := keys_insertWatcher sound.keys eventId hub.heap.next
  distinct := by
    intro other
    show (watchersIn (insertWatcher hub.subs eventId hub.heap.next) other).Nodup
    rw [watchersIn_insertWatcher]
    by_cases same : other = eventId
    · rw [if_pos same]
      have isNew : hub.heap.next ∉ hub.watchers eventId := by
        intro member
        obtain ⟨sub, found, _⟩ := (sound.watching _ _).mp member
        exact Nat.lt_irrefl _ (Registry.lt_next_of_get found)
      exact (sound.distinct eventId).append (List.nodup_singleton _) (by
        simpa [List.disjoint_singleton] using isNew)
    · rw [if_neg same]
      exact sound.distinct other
  watching := by
    intro other id
    have listed :
        id ∈ watchersIn (insertWatcher hub.subs eventId hub.heap.next)
            other ↔
          id ∈ hub.watchers other ∨ other = eventId ∧ id = hub.heap.next := by
      rw [watchersIn_insertWatcher]
      by_cases same : other = eventId
      · rw [if_pos same, List.mem_append, List.mem_singleton, same]
        simp [Hub.watchers]
      · rw [if_neg same]
        simp [Hub.watchers, same]
    refine Iff.trans listed ?_
    rw [sound.watching]
    show _ ↔
      ∃ sub, (hub.heap.launch ⟨eventId, Mailbox.empty⟩).get id = some sub ∧ _
    constructor
    · rintro (⟨sub, found, facts⟩ | ⟨rfl, rfl⟩)
      · exact ⟨sub, Registry.get_launch_of_get found, facts⟩
      · exact ⟨_, Registry.get_launch_self _ _, rfl, rfl⟩
    · rintro ⟨sub, found, isEvent, opened⟩
      rcases Registry.cases_of_get_launch found with ⟨isNew, rfl⟩ | old
      · exact Or.inr ⟨isEvent.symm, isNew⟩
      · exact Or.inl ⟨sub, old, isEvent, opened⟩

end Operations

end TicketWave.Realtime
