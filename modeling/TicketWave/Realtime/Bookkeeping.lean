import TicketWave.Realtime.Hub

/-!
# The books of the hub

`count`, `subs` and the channels say the same about who is subscribed.  Go
visits the entries of a map in any order.
-/

namespace TicketWave.Realtime

open Library

/-- The subscriptions in `subs`, of all events. -/
def Hub.subscriptions (hub : Hub) : List Nat :=
  hub.subs.flatMap Prod.snd

inductive Call where
  | subscribe (eventId : String)
  | publish (eventId : String) (update : Update) (order : List Nat)
  /-- a read from `C` -/
  | receive (id : Nat)
  /-- `Subscription.Close` -/
  | unsubscribe (id : Nat)
  /-- `Hub.Close` -/
  | close (order : List Nat)
  deriving DecidableEq, Repr

def Hub.perform (hub : Hub) : Call → Option Hub
  | .subscribe eventId => some (hub.subscribe eventId).1
  | .publish _ update order => order.foldlM (Hub.offer update) hub
  | .receive id => hub.step (.receive id)
  | .unsubscribe id => hub.remove id
  | .close order => order.foldlM Hub.remove { hub with closed := true }

/-- A loop visits every watcher once, only a subscription that was handed out
is read from or closed, and a read does not wait. -/
def Call.Possible (hub : Hub) : Call → Prop
  | .subscribe _ => True
  | .publish eventId _ order => order.Perm (hub.watchers eventId)
  | .receive id =>
      ∃ sub ∈ hub.heap.get id,
        sub.channel.buffer ≠ [] ∨ sub.channel.closed = true
  | .unsubscribe id => (hub.heap.get id).isSome = true
  | .close order => order.Perm hub.subscriptions

instance (hub : Hub) (call : Call) : Decidable (call.Possible hub) := by
  cases call <;> unfold Call.Possible <;> infer_instance

/-- A step of the hub is a call that visits the watchers as they are
listed. -/
def Label.call (hub : Hub) : Label → Call
  | .subscribe eventId => .subscribe eventId
  | .publish eventId update => .publish eventId update (hub.watchers eventId)
  | .receive id => .receive id
  | .unsubscribe id => .unsubscribe id
  | .close => .close hub.subscriptions

theorem step_eq_perform (hub : Hub) (label : Label) :
    hub.step label = hub.perform (label.call hub) := by
  cases label <;> rfl

structure Balanced (hub : Hub) : Prop where
  sound : Sound hub
  counted : hub.count = hub.subscriptions.length
  bounded : hub.count ≤ hub.max
  inhabited : ∀ entry ∈ hub.subs, entry.2 ≠ []
  buffered :
    ∀ id sub, hub.heap.get id = some sub →
      sub.channel.buffer.length ≤ subscriberBuffer

theorem balanced_new {max : Int} (nonneg : 0 ≤ max) :
    Balanced (Hub.new max) where
  sound := sound_new max
  counted := rfl
  bounded := nonneg
  inhabited := nofun
  buffered := nofun

/-- `remove` and the loops leave the limit and the flag alone. -/
structure Spared (hub next : Hub) : Prop where
  balanced : Balanced next
  max : next.max = hub.max
  closed : next.closed = hub.closed

theorem Spared.trans {hub middle next : Hub} (first : Spared hub middle)
    (second : Spared middle next) : Spared hub next :=
  ⟨second.balanced, second.max.trans first.max,
    second.closed.trans first.closed⟩

section Maps

variable {subs : List (String × List Nat)}

theorem inhabited_insertWatcher (inhabited : ∀ entry ∈ subs, entry.2 ≠ [])
    (eventId : String) (id : Nat) :
    ∀ entry ∈ insertWatcher subs eventId id, entry.2 ≠ [] := by
  intro entry member
  unfold insertWatcher at member
  obtain ⟨old, stored, rfl⟩ := mem_updateWhere.mp member
  by_cases isEvent : old.1 = eventId
  · rw [if_pos (decide_eq_true isEvent)]
    exact List.append_ne_nil_of_right_ne_nil _ (List.cons_ne_nil id [])
  · rw [if_neg (by simpa using isEvent)]
    split at stored
    · exact inhabited old stored
    · rcases List.mem_append.mp stored with before | made
      · exact inhabited old before
      · rw [List.mem_singleton.mp made] at isEvent
        exact absurd rfl isEvent

theorem inhabited_deleteWatcher (inhabited : ∀ entry ∈ subs, entry.2 ≠ [])
    (eventId : String) (id : Nat) :
    ∀ entry ∈ deleteWatcher subs eventId id, entry.2 ≠ [] := by
  intro entry member
  unfold deleteWatcher at member
  obtain ⟨updated, kept⟩ := List.mem_filter.mp member
  obtain ⟨old, stored, rfl⟩ := mem_updateWhere.mp updated
  by_cases isEvent : old.1 = eventId
  · rw [if_pos (decide_eq_true isEvent)] at kept ⊢
    intro empty
    exact of_decide_eq_true kept ⟨isEvent, by rw [empty]; rfl⟩
  · rw [if_neg (by simpa using isEvent)]
    exact inhabited old stored

end Maps

section Calls

variable {hub next : Hub} {id : Nat} {sub : Subscription}

theorem Sound.mem_subscriptions_iff
    (sound : Sound hub) (found : hub.heap.get id = some sub) :
    id ∈ hub.subscriptions ↔ sub.channel.closed = false := by
  rw [Hub.subscriptions, mem_flatMap_watchers sound]
  constructor
  · rintro ⟨other, otherFound, opened⟩
    cases found.symm.trans otherFound
    exact opened
  · intro opened
    exact ⟨sub, found, opened⟩

theorem length_subscriptions
    (sound : Sound hub) {ids : List Nat} (distinct : ids.Nodup)
    (same :
      ∀ id, id ∈ ids ↔ ∃ sub, hub.heap.get id = some sub ∧
        sub.channel.closed = false) :
    hub.subscriptions.length = ids.length := by
  apply List.Perm.length_eq
  apply (List.perm_ext_iff_of_nodup (nodup_flatMap_watchers sound) distinct).mpr
  intro id
  rw [same]
  exact mem_flatMap_watchers sound id

theorem spared_of_put {op : MailboxOp Update} (balanced : Balanced hub)
    (found : hub.heap.get id = some sub)
    (kept : (sub.apply op).channel.closed = sub.channel.closed)
    (fits : (sub.apply op).channel.buffer.length ≤ subscriberBuffer) :
    Spared hub { hub with heap := hub.heap.put id (sub.apply op) } where
  balanced :=
    { sound := sound_put balanced.sound found kept
      counted := balanced.counted
      bounded := balanced.bounded
      inhabited := balanced.inhabited
      buffered := by
        intro other current got
        rcases Registry.cases_of_get_put got with ⟨_, rfl⟩ | ⟨_, stored⟩
        · exact fits
        · exact balanced.buffered other current stored }
  max := rfl
  closed := rfl

/-- The hub after a removal. -/
def Hub.without (hub : Hub) (id : Nat) (sub : Subscription) : Hub :=
  { hub with
    subs := deleteWatcher hub.subs sub.eventId id
    count := hub.count - 1
    heap := hub.heap.put id (sub.apply .close) }

theorem length_subscriptions_without (sound : Sound hub)
    (found : hub.heap.get id = some sub) (opened : sub.channel.closed = false) :
    (hub.without id sub).subscriptions.length + 1 =
      hub.subscriptions.length := by
  have listed := (sound.mem_subscriptions_iff found).mpr opened
  have nodup : hub.subscriptions.Nodup := nodup_flatMap_watchers sound
  have left :
      (hub.without id sub).subscriptions.length =
        (hub.subscriptions.erase id).length := by
    apply length_subscriptions (sound_remove sound found) (nodup.erase id)
    intro other
    rw [nodup.mem_erase_iff, Hub.subscriptions, mem_flatMap_watchers sound]
    constructor
    · rintro ⟨different, current, stored, isOpen⟩
      exact ⟨current, (Registry.get_put_of_ne different).trans stored, isOpen⟩
    · rintro ⟨current, got, isOpen⟩
      rcases Registry.cases_of_get_put got with
        ⟨_, rfl⟩ | ⟨different, stored⟩
      · cases isOpen
      · exact ⟨different, current, stored, isOpen⟩
  rw [left, List.length_erase_of_mem listed]
  exact Nat.sub_add_cancel (List.length_pos_of_mem listed)

theorem spared_of_remove (balanced : Balanced hub)
    (removed : hub.remove id = some next) : Spared hub next := by
  have sound := balanced.sound
  cases found : hub.heap.get id with
  | none =>
      simp only [Hub.remove, found] at removed
      cases removed
  | some sub =>
      cases closed : sub.channel.closed with
      | true =>
          rw [remove_of_closed sound found closed] at removed
          cases removed
          exact ⟨balanced, rfl, rfl⟩
      | false =>
          rw [remove_of_open sound found closed] at removed
          cases removed
          have fewer := length_subscriptions_without sound found closed
          have counted := balanced.counted
          have bounded := balanced.bounded
          refine ⟨⟨sound_remove sound found, ?_, ?_, ?_, ?_⟩, rfl, rfl⟩
          · show hub.count - 1 = (hub.without id sub).subscriptions.length
            omega
          · show hub.count - 1 ≤ hub.max
            omega
          · exact inhabited_deleteWatcher balanced.inhabited sub.eventId id
          · intro other current got
            rcases Registry.cases_of_get_put got with
              ⟨_, rfl⟩ | ⟨_, stored⟩
            · exact balanced.buffered id sub found
            · exact balanced.buffered other current stored

theorem spared_of_offer {update : Update} (balanced : Balanced hub)
    (offered : hub.offer update id = some next) : Spared hub next := by
  unfold Hub.offer at offered
  split at offered
  · cases offered
  · rename_i sub found
    split at offered
    · cases offered
    · rename_i notClosed
      split at offered
      · rename_i room
        cases offered
        have sent :
            (sub.apply (.send update)).channel =
              { sub.channel with
                buffer := sub.channel.buffer ++ [update] } := by
          rw [Subscription.apply, Mailbox.apply, if_neg notClosed, if_pos room]
        apply spared_of_put balanced found
        · rw [sent]
        · rw [sent, List.length_append]
          exact room
      · exact spared_of_remove balanced offered

/-- Whatever order the loop takes. -/
theorem spared_of_loop {body : Hub → Nat → Option Hub}
    (each :
      ∀ {hub next : Hub} {id : Nat}, Balanced hub →
        body hub id = some next → Spared hub next) {order : List Nat}
    (balanced : Balanced hub) (looped : order.foldlM body hub = some next) :
    Spared hub next := by
  rw [foldlM_eq_run] at looped
  apply invariant_of_run
    (fun {middle _ _} (spared : Spared hub middle) stepped =>
      spared.trans (each spared.balanced stepped))
    ⟨balanced, rfl, rfl⟩ looped

theorem balanced_subscribe (balanced : Balanced hub) (eventId : String) :
    Balanced (hub.subscribe eventId).1 := by
  have sound := balanced.sound
  unfold Hub.subscribe
  split
  · exact balanced
  · rename_i accepted
    have later := sound_subscribe sound eventId
    have isNew : hub.heap.next ∉ hub.subscriptions := by
      intro member
      obtain ⟨sub, found, _⟩ := (mem_flatMap_watchers sound _).mp member
      exact Nat.lt_irrefl _ (Registry.lt_next_of_get found)
    have nodup : hub.subscriptions.Nodup := nodup_flatMap_watchers sound
    have more := length_subscriptions later (nodup.cons isNew) ?_
    · have counted := balanced.counted
      rw [List.length_cons] at more
      refine ⟨later, ?_, ?_, ?_, ?_⟩
      · rw [more, counted]
        rfl
      · show hub.count + 1 ≤ hub.max
        have room : ¬ hub.count ≥ hub.max := fun full =>
          accepted (Or.inr full)
        omega
      · exact inhabited_insertWatcher balanced.inhabited _ _
      · intro id sub found
        rcases Registry.cases_of_get_launch found with ⟨_, rfl⟩ | stored
        · exact Nat.zero_le _
        · exact balanced.buffered id sub stored
    · intro id
      rw [List.mem_cons, Hub.subscriptions, mem_flatMap_watchers sound]
      constructor
      · rintro (rfl | ⟨sub, found, opened⟩)
        · exact ⟨_, Registry.get_launch_self _ _, rfl⟩
        · exact ⟨sub, Registry.get_launch_of_get found, opened⟩
      · rintro ⟨sub, found, opened⟩
        rcases Registry.cases_of_get_launch found with ⟨isNext, _⟩ | stored
        · exact Or.inl isNext
        · exact Or.inr ⟨sub, stored, opened⟩

theorem spared_of_receive (balanced : Balanced hub)
    (received : hub.step (.receive id) = some next) : Spared hub next := by
  simp only [Hub.step] at received
  split at received
  · cases received
  · rename_i sub found
    split at received
    · cases received
    · cases received
      have fits := balanced.buffered id sub found
      apply spared_of_put balanced found
      · rw [Subscription.apply, Mailbox.closed_receive]
      · unfold Subscription.apply Mailbox.apply
        cases buffer : sub.channel.buffer with
        | nil => simp [buffer]
        | cons first rest =>
            rw [buffer] at fits
            exact Nat.le_of_succ_le fits

end Calls

/-- Nobody is left in a hub that was closed. -/
structure Kept (hub : Hub) : Prop where
  balanced : Balanced hub
  ended : hub.closed = true → hub.subs = []

def Call.isClose : Call → Bool
  | .close _ => true
  | _ => false

section Close

variable {hub next : Hub} {id : Nat}

theorem Balanced.subs_eq_nil (balanced : Balanced hub)
    (nobody : hub.subscriptions = []) : hub.subs = [] := by
  rw [List.eq_nil_iff_forall_not_mem]
  intro entry stored
  have empty := List.flatMap_eq_nil_iff.mp nobody entry stored
  exact balanced.inhabited entry stored empty

theorem remove_of_no_subs (nobody : hub.subs = [])
    (removed : hub.remove id = some next) : next = hub := by
  unfold Hub.remove at removed
  split at removed
  · cases removed
  · rename_i sub found
    have absent : id ∉ hub.watchers sub.eventId := by
      rw [Hub.watchers, nobody]
      exact List.not_mem_nil
    rw [if_pos absent] at removed
    exact (Option.some.inj removed).symm

theorem subscriptions_of_close (sound : Sound hub) {order : List Nat}
    (visits : order.Perm hub.subscriptions)
    (through : Through { hub with closed := true } .close order next) :
    next.subscriptions = [] := by
  rw [List.eq_nil_iff_forall_not_mem]
  intro id member
  obtain ⟨sub, found, opened⟩ :=
    (mem_flatMap_watchers through.sound id).mp member
  rw [through.channels id] at found
  obtain ⟨old, stored, rfl⟩ := Option.map_eq_some_iff.mp found
  by_cases visited : id ∈ order
  · rw [if_pos visited] at opened
    cases opened
  · rw [if_neg visited] at opened
    exact visited
      (visits.mem_iff.mpr ((sound.mem_subscriptions_iff stored).mpr opened))

theorem kept_of_spared (kept : Kept hub) (spared : Spared hub next)
    (same : hub.subs = [] → next.subs = []) : Kept next :=
  ⟨spared.balanced, fun closed =>
    same (kept.ended (spared.closed.symm.trans closed))⟩

theorem kept_of_perform {call : Call} (kept : Kept hub)
    (possible : call.Possible hub) (performed : hub.perform call = some next) :
    Kept next ∧ next.max = hub.max ∧
      next.closed = (hub.closed || call.isClose) := by
  have balanced := kept.balanced
  cases call with
  | subscribe eventId =>
      cases performed
      refine ⟨⟨balanced_subscribe balanced eventId, ?_⟩, ?_⟩
      · unfold Hub.subscribe
        split
        · exact kept.ended
        · rename_i accepted
          intro closed
          exact absurd (Or.inl closed) accepted
      · unfold Hub.subscribe
        split
        · exact ⟨rfl, (Bool.or_false _).symm⟩
        · exact ⟨rfl, (Bool.or_false _).symm⟩
  | publish eventId update order =>
      have spared := spared_of_loop spared_of_offer balanced performed
      refine ⟨kept_of_spared kept spared ?_, spared.max,
        spared.closed.trans (Bool.or_false _).symm⟩
      intro nobody
      have visits : order.Perm (hub.watchers eventId) := possible
      have none_ : hub.watchers eventId = [] := by
        rw [Hub.watchers, nobody]
        rfl
      rw [none_] at visits
      rw [visits.eq_nil] at performed
      cases performed
      exact nobody
  | receive id =>
      have spared := spared_of_receive balanced performed
      refine ⟨kept_of_spared kept spared ?_, spared.max,
        spared.closed.trans (Bool.or_false _).symm⟩
      intro nobody
      simp only [Hub.perform, Hub.step] at performed
      split at performed
      · cases performed
      · split at performed
        · cases performed
        · cases performed
          exact nobody
  | unsubscribe id =>
      have spared := spared_of_remove balanced performed
      refine ⟨kept_of_spared kept spared ?_, spared.max,
        spared.closed.trans (Bool.or_false _).symm⟩
      intro nobody
      rw [remove_of_no_subs nobody performed]
      exact nobody
  | close order =>
      obtain ⟨after, closing, through⟩ :=
        through_close_in balanced.sound possible
      cases performed.symm.trans closing
      have marked : Balanced { hub with closed := true } :=
        ⟨⟨balanced.sound.keys, balanced.sound.distinct,
            balanced.sound.watching⟩,
          balanced.counted, balanced.bounded, balanced.inhabited,
          balanced.buffered⟩
      have spared := spared_of_loop spared_of_remove marked performed
      have nobody := subscriptions_of_close balanced.sound possible through
      refine ⟨⟨spared.balanced, fun _ => spared.balanced.subs_eq_nil nobody⟩,
        spared.max, spared.closed.trans (Bool.or_true _).symm⟩

theorem perform_total {call : Call} (kept : Kept hub)
    (possible : call.Possible hub) : ∃ next, hub.perform call = some next := by
  have sound := kept.balanced.sound
  cases call with
  | subscribe eventId => exact ⟨_, rfl⟩
  | publish eventId update order =>
      obtain ⟨next, published, _⟩ :=
        through_publish_in sound eventId update possible
      exact ⟨next, published⟩
  | receive id =>
      obtain ⟨sub, found, ready⟩ := possible
      have goesOn :
          ¬ (sub.channel.buffer = [] ∧ sub.channel.closed = false) := by
        rintro ⟨empty, opened⟩
        rcases ready with filled | closed
        · exact filled empty
        · rw [opened] at closed
          cases closed
      refine ⟨{ hub with heap := hub.heap.put id (sub.apply .receive) }, ?_⟩
      simp only [Hub.perform, Hub.step, Option.mem_def.mp found]
      rw [if_neg goesOn]
  | unsubscribe id =>
      obtain ⟨sub, found⟩ := Option.isSome_iff_exists.mp possible
      cases closed : sub.channel.closed with
      | true => exact ⟨_, remove_of_closed sound found closed⟩
      | false => exact ⟨_, remove_of_open sound found closed⟩
  | close order =>
      obtain ⟨next, closing, _⟩ := through_close_in sound possible
      exact ⟨next, closing⟩

end Close

section Run

variable {hub final : Hub} {calls : List Call}

theorem kept_new {max : Int} (nonneg : 0 ≤ max) : Kept (Hub.new max) where
  balanced := balanced_new nonneg
  ended := nofun

theorem closed_of_run (kept : Kept hub)
    (possible :
      EveryStep Hub.perform (fun hub call => call.Possible hub) hub calls)
    (ran : run Hub.perform hub calls = some final) :
    final.closed = (hub.closed || calls.any Call.isClose) := by
  induction calls generalizing hub with
  | nil =>
      cases ran
      exact (Bool.or_false _).symm
  | cons call rest ih =>
      obtain ⟨next, performed, ranRest⟩ := run_cons_eq_some_iff.mp ran
      obtain ⟨later, _, closed⟩ := kept_of_perform kept possible.1 performed
      rw [ih later (possible.2 next performed) ranRest,
        closed, List.any_cons, Bool.or_assoc]

end Run

/-- The hub counts the subscriptions it has, a channel is closed when its
subscription is removed, and a hub that was closed stays empty. -/
theorem hub_keeps_its_books {max : Int} (nonneg : 0 ≤ max) {calls : List Call}
    (possible :
      EveryStep Hub.perform (fun hub call => call.Possible hub) (Hub.new max)
        calls) :
    ∃ hub,
      run Hub.perform (Hub.new max) calls = some hub ∧
      hub.subscriptions.Nodup ∧
      hub.count = hub.subscriptions.length ∧
      hub.count ≤ max ∧
      (∀ entry ∈ hub.subs, entry.2 ≠ []) ∧
      (∀ id sub, hub.heap.get id = some sub →
        (sub.channel.closed = true ↔ id ∉ hub.subscriptions) ∧
          sub.channel.buffer.length ≤ subscriberBuffer) ∧
      (∀ call, call.Possible hub → ∃ next, hub.perform call = some next) ∧
      ((∃ order, .close order ∈ calls) →
        hub.subs = [] ∧ hub.count = 0 ∧
          ∀ eventId, hub.subscribe eventId = (hub, none)) := by
  have preserved :
      ∀ {hub next : Hub} {call : Call}, (Kept hub ∧ hub.max = max) →
        call.Possible hub → hub.perform call = some next →
          Kept next ∧ next.max = max := by
    rintro hub next call ⟨kept, isMax⟩ isPossible performed
    obtain ⟨later, sameMax, _⟩ := kept_of_perform kept isPossible performed
    exact ⟨later, sameMax.trans isMax⟩
  obtain ⟨hub, ran, kept, isMax⟩ :=
    exists_run_of_restricted preserved
      (fun held isPossible => perform_total held.1 isPossible)
      ⟨kept_new nonneg, rfl⟩ possible
  have balanced := kept.balanced
  have sound := balanced.sound
  refine ⟨hub, ran, nodup_flatMap_watchers sound, balanced.counted,
    isMax ▸ balanced.bounded, balanced.inhabited, ?_,
    fun call isPossible => perform_total kept isPossible, ?_⟩
  · intro id sub found
    refine ⟨?_, balanced.buffered id sub found⟩
    rw [sound.mem_subscriptions_iff found, Bool.not_eq_false]
  · rintro ⟨order, member⟩
    have closed : hub.closed = true := by
      rw [closed_of_run (kept_new nonneg) possible ran]
      exact List.any_eq_true.mpr ⟨_, member, rfl⟩
    have nobody := kept.ended closed
    refine ⟨nobody, ?_, ?_⟩
    · rw [balanced.counted, Hub.subscriptions, nobody]
      rfl
    · intro eventId
      rw [Hub.subscribe, if_pos (Or.inl closed)]

-- Two browsers watch A and one watches B, `Publish` visits the watchers of A
-- in the other order, one of them leaves twice, and the hub is closed.
private def threeBrowsers : List Call :=
  [.subscribe "A", .subscribe "B", .subscribe "A", .subscribe "A",
    .publish "A" ⟨["s1"], "held"⟩ [2, 0], .receive 0, .unsubscribe 2,
    .unsubscribe 2, .receive 2, .close [1, 0], .unsubscribe 0,
    .subscribe "A"]

theorem hub_keeps_its_books_for_three_browsers :
    EveryStep Hub.perform (fun hub call => call.Possible hub) (Hub.new 3)
        threeBrowsers ∧
      ∃ hub,
        run Hub.perform (Hub.new 3) threeBrowsers = some hub ∧
          hub.subs = [] ∧ hub.count = 0 := by
  have possible :
      EveryStep Hub.perform (fun hub call => call.Possible hub) (Hub.new 3)
        threeBrowsers := by
    decide +kernel
  obtain ⟨hub, ran, _, _, _, _, _, _, emptied⟩ :=
    hub_keeps_its_books (by decide) possible
  obtain ⟨nobody, none_, _⟩ := emptied ⟨[1, 0], by decide⟩
  exact ⟨possible, hub, ran, nobody, none_⟩

end TicketWave.Realtime
