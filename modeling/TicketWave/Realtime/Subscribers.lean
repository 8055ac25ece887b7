import TicketWave.Realtime.Hub

/-!
# What one subscriber sees

An operation of the hub is to a subscription what `Label.own` says.
-/

namespace TicketWave.Realtime

open Library

/-- What an operation is to the subscription `id` of `eventId`: nothing, if it
concerns others only. -/
def Label.own (id : Nat) (eventId : String) :
    Label → Option (MailboxOp Update)
  | .subscribe _ => none
  | .publish other update =>
      if other = eventId then some (.send update) else none
  | .receive other => if other = id then some .receive else none
  | .unsubscribe other => if other = id then some .close else none
  | .close => some .close

def Subscription.applyAll (sub : Subscription)
    (ops : List (MailboxOp Update)) : Subscription :=
  { sub with channel := sub.channel.applyAll subscriberBuffer ops }

theorem Subscription.applyAll_append
    (sub : Subscription) (first second : List (MailboxOp Update)) :
    sub.applyAll (first ++ second) = (sub.applyAll first).applyAll second := by
  simp only [Subscription.applyAll, Mailbox.applyAll, List.foldl_append]

/-- The step as the subscription experiences it. -/
structure Stepped (hub : Hub) (label : Label) (next : Hub) : Prop where
  sound : Sound next
  old :
    ∀ id sub, hub.heap.get id = some sub →
      next.heap.get id = some (sub.applyAll (label.own id sub.eventId).toList)
  new :
    ∀ id sub, next.heap.get id = some sub → hub.heap.get id = none →
      label = .subscribe sub.eventId ∧ id = hub.heap.next ∧
        sub.channel = Mailbox.empty

section Step

variable {hub next : Hub} {label : Label}

/-- What goes through a loop or a single operation is what `own` says, as
long as closed channels do not mind. -/
theorem stepped_of_through {op : MailboxOp Update} {ids : List Nat}
    (through : Through hub op ids next)
    (touched :
      ∀ id sub, hub.heap.get id = some sub →
        sub.applyAll (label.own id sub.eventId).toList =
          if id ∈ ids then sub.apply op else sub) : Stepped hub label next where
  sound := through.sound
  old := by
    intro id sub found
    rw [through.channels id, found, Option.map_some, touched id sub found]
  new := by
    intro id sub found absent
    rw [through.channels id, absent] at found
    cases found

theorem stepped_of_remove
    {id : Nat} (sound : Sound hub) (removed : hub.remove id = some next) :
    Stepped hub (.unsubscribe id) next := by
  cases found : hub.heap.get id with
  | none =>
      simp only [Hub.remove, found] at removed
      cases removed
  | some sub =>
      cases closed : sub.channel.closed with
      | true =>
          rw [remove_of_closed sound found closed] at removed
          cases removed
          have through : Through hub .close [] hub :=
            ⟨sound, rfl, fun _ => by simp⟩
          apply stepped_of_through through
          intro other otherSub otherFound
          by_cases same : id = other
          · subst same
            cases found.symm.trans otherFound
            simp [Label.own, Subscription.applyAll, Mailbox.applyAll,
              Mailbox.apply_close_of_closed closed]
          · simp [Label.own, same, Subscription.applyAll, Mailbox.applyAll]
      | false =>
          obtain ⟨after, removedTo, through⟩ :=
            through_remove sound found closed
          cases removed.symm.trans removedTo
          apply stepped_of_through through
          intro other otherSub _
          by_cases same : id = other
          · subst same
            simp [Label.own, Subscription.applyAll, Mailbox.applyAll,
              Subscription.apply]
          · simp [Label.own, same, Ne.symm same, Subscription.applyAll,
              Mailbox.applyAll]

theorem stepped_of_publish {eventId : String} {update : Update}
    (sound : Sound hub) (published : hub.publish eventId update = some next) :
    Stepped hub (.publish eventId update) next := by
  obtain ⟨after, publishedTo, through⟩ := through_publish sound eventId update
  cases published.symm.trans publishedTo
  apply stepped_of_through through
  intro id sub found
  have member := sound.mem_watchers_iff found eventId
  by_cases isEvent : eventId = sub.eventId
  · cases closed : sub.channel.closed with
    | true =>
        have absent : id ∉ hub.watchers eventId := by
          rw [member, closed]
          simp
        rw [if_neg absent]
        simp [Label.own, isEvent, Subscription.applyAll, Mailbox.applyAll,
          Mailbox.apply_send_of_closed closed]
    | false =>
        rw [if_pos (member.mpr ⟨isEvent, closed⟩)]
        simp [Label.own, isEvent, Subscription.applyAll, Mailbox.applyAll,
          Subscription.apply]
  · have absent : id ∉ hub.watchers eventId := fun watching =>
      isEvent (member.mp watching).1
    rw [if_neg absent]
    simp [Label.own, isEvent, Subscription.applyAll, Mailbox.applyAll]

theorem stepped_of_close (sound : Sound hub) (closing : hub.close = some next) :
    Stepped hub .close next := by
  obtain ⟨after, closedTo, through⟩ := through_close sound
  cases closing.symm.trans closedTo
  apply stepped_of_through through
  intro id sub found
  cases closed : sub.channel.closed with
  | true =>
      have absent : id ∉ hub.subs.flatMap Prod.snd := by
        rw [mem_flatMap_watchers sound, found]
        rintro ⟨other, same, opened⟩
        cases same
        rw [closed] at opened
        cases opened
      rw [if_neg absent]
      simp [Label.own, Subscription.applyAll, Mailbox.applyAll,
        Mailbox.apply_close_of_closed closed]
  | false =>
      rw [if_pos ((mem_flatMap_watchers sound id).mpr ⟨sub, found, closed⟩)]
      simp [Label.own, Subscription.applyAll, Mailbox.applyAll,
        Subscription.apply]

theorem stepped_of_subscribe (sound : Sound hub) (eventId : String) :
    Stepped hub (.subscribe eventId) (hub.subscribe eventId).1 := by
  unfold Hub.subscribe
  split
  · refine ⟨sound, ?_, ?_⟩
    · intro id sub found
      exact found
    · intro id sub found absent
      rw [absent] at found
      cases found
  · refine ⟨sound_subscribe sound eventId, ?_, ?_⟩
    · intro id sub found
      exact Registry.get_launch_of_get found
    · intro id sub found absent
      rcases Registry.cases_of_get_launch found with ⟨isNew, rfl⟩ | old
      · exact ⟨rfl, isNew, rfl⟩
      · rw [absent] at old
        cases old

theorem stepped_of_step (sound : Sound hub)
    (stepped : hub.step label = some next) : Stepped hub label next := by
  cases label with
  | subscribe eventId =>
      cases stepped
      exact stepped_of_subscribe sound eventId
  | publish eventId update => exact stepped_of_publish sound stepped
  | receive id =>
      simp only [Hub.step] at stepped
      split at stepped
      · cases stepped
      · rename_i sub found
        split at stepped
        · cases stepped
        · cases stepped
          have kept :
              (sub.apply .receive).channel.closed = sub.channel.closed := by
            rw [Subscription.apply, Mailbox.closed_receive]
          apply stepped_of_through
            (through_of_put (sound_put sound found kept) found rfl)
          intro other otherSub _
          by_cases same : id = other
          · subst same
            simp [Label.own, Subscription.applyAll, Mailbox.applyAll,
              Subscription.apply]
          · simp [Label.own, same, Ne.symm same, Subscription.applyAll,
              Mailbox.applyAll]
  | unsubscribe id => exact stepped_of_remove sound stepped
  | close => exact stepped_of_close sound stepped

end Step

section Run

variable {hub final : Hub} {labels : List Label}

theorem sound_of_run (sound : Sound hub)
    (ran : run Hub.step hub labels = some final) : Sound final :=
  invariant_of_run
    (fun kept stepped => (stepped_of_step kept stepped).sound) sound ran

/-- A subscription goes through the operations that are its own, one after
the other. -/
theorem subscription_of_run {id : Nat} {sub : Subscription} (sound : Sound hub)
    (found : hub.heap.get id = some sub)
    (ran : run Hub.step hub labels = some final) :
    final.heap.get id =
      some (sub.applyAll (labels.filterMap (Label.own id sub.eventId))) := by
  induction labels generalizing hub sub with
  | nil =>
      cases ran
      exact found
  | cons label rest ih =>
      obtain ⟨next, stepped, ranRest⟩ := run_cons_eq_some_iff.mp ran
      have moved := stepped_of_step sound stepped
      have later := ih moved.sound (moved.old id sub found) ranRest
      have split :
          (label :: rest).filterMap (Label.own id sub.eventId) =
            (label.own id sub.eventId).toList ++
              rest.filterMap (Label.own id sub.eventId) := by
        rw [List.filterMap_cons]
        cases label.own id sub.eventId <;> rfl
      rw [split, Subscription.applyAll_append]
      exact later

theorem subscribed_of_run {id : Nat} {sub : Subscription} (sound : Sound hub)
    (absent : hub.heap.get id = none)
    (ran : run Hub.step hub labels = some final)
    (found : final.heap.get id = some sub) :
    ∃ before after middle,
      labels = before ++ .subscribe sub.eventId :: after ∧
        run Hub.step hub before = some middle ∧ middle.heap.next = id ∧
        sub =
          Subscription.applyAll ⟨sub.eventId, Mailbox.empty⟩
            (after.filterMap (Label.own id sub.eventId)) := by
  induction labels generalizing hub with
  | nil =>
      cases ran
      rw [absent] at found
      cases found
  | cons label rest ih =>
      obtain ⟨next, stepped, ranRest⟩ := run_cons_eq_some_iff.mp ran
      have moved := stepped_of_step sound stepped
      cases isThere : next.heap.get id with
      | none =>
          obtain ⟨before, after, middle, shape, ranBefore, isNext, isSub⟩ :=
            ih moved.sound isThere ranRest
          refine
            ⟨label :: before, after, middle, by rw [shape]; rfl, ?_, isNext,
              isSub⟩
          exact run_cons_eq_some_iff.mpr ⟨next, stepped, ranBefore⟩
      | some first =>
          obtain ⟨isLabel, isNext, isEmpty⟩ := moved.new id first isThere absent
          have ended := subscription_of_run moved.sound isThere ranRest
          rw [found] at ended
          have isSub := Option.some.inj ended
          have sameEvent : sub.eventId = first.eventId := by rw [isSub]; rfl
          refine ⟨[], rest, hub, ?_, rfl, isNext.symm, ?_⟩
          · rw [isLabel, sameEvent]
            rfl
          · rw [sameEvent, isSub]
            obtain ⟨eventId, channel⟩ := first
            cases isEmpty
            rfl

end Run

/-- The updates published to an event, in order. -/
def publishedTo (eventId : String) (labels : List Label) : List Update :=
  labels.filterMap fun label =>
    match label with
    | .publish other update => if other = eventId then some update else none
    | _ => none

theorem sent_own (id : Nat) (eventId : String) (labels : List Label) :
    Mailbox.sent (labels.filterMap (Label.own id eventId)) =
      publishedTo eventId labels := by
  rw [Mailbox.sent, publishedTo, List.filterMap_filterMap]
  congr 1
  funext label
  cases label with
  | subscribe other => rfl
  | publish other update =>
      by_cases same : other = eventId
      · simp [Label.own, Mailbox.sentBy, same]
      · simp [Label.own, same]
  | receive other =>
      by_cases same : other = id
      · simp [Label.own, Mailbox.sentBy, same]
      · simp [Label.own, same]
  | unsubscribe other =>
      by_cases same : other = id
      · simp [Label.own, Mailbox.sentBy, same]
      · simp [Label.own, same]
  | close => rfl

/-- Subscribers see a gap-free first part of what is published. -/
theorem subscribers_see_no_gaps {max : Int} {labels : List Label} {hub : Hub}
    (ran : run Hub.step (Hub.new max) labels = some hub) :
    (∀ id sub, hub.heap.get id = some sub →
      ∃ before after middle,
        labels = before ++ .subscribe sub.eventId :: after ∧
          run Hub.step (Hub.new max) before = some middle ∧
          middle.heap.next = id ∧
          sub.channel.received ++ sub.channel.buffer <+:
            publishedTo sub.eventId after ∧
          (sub.channel.closed = false →
            sub.channel.received ++ sub.channel.buffer =
              publishedTo sub.eventId after)) ∧
    ∀ other otherLabels otherHub,
      run Hub.step (Hub.new other) otherLabels = some otherHub →
      ∀ left right sub,
        hub.heap.get left = some sub → otherHub.heap.get right = some sub →
        ∀ leftLabels rightLabels leftHub rightHub,
          leftLabels.filterMap (Label.own left sub.eventId) =
            rightLabels.filterMap (Label.own right sub.eventId) →
          run Hub.step hub leftLabels = some leftHub →
          run Hub.step otherHub rightLabels = some rightHub →
            leftHub.heap.get left = rightHub.heap.get right := by
  have sound := sound_of_run (sound_new max) ran
  constructor
  · intro id sub found
    obtain ⟨before, after, middle, shape, ranBefore, isNext, isSub⟩ :=
      subscribed_of_run (sound_new max) rfl ran found
    have follows :
        sub.channel.Follows
          (publishedTo sub.eventId after) := by
      have fed :=
        Mailbox.follows_empty.applyAll subscriberBuffer
          (after.filterMap (Label.own id sub.eventId))
      rw [List.nil_append, sent_own] at fed
      have channel := congrArg Subscription.channel isSub
      rw [channel]
      exact fed
    exact ⟨before, after, middle, shape, ranBefore, isNext, follows.unbroken,
      follows.whole⟩
  · intro other otherLabels otherHub otherRan left right sub leftFound
      rightFound leftLabels rightLabels leftHub rightHub sameOwn leftRan
      rightRan
    have otherSound := sound_of_run (sound_new other) otherRan
    rw [subscription_of_run sound leftFound leftRan,
      subscription_of_run otherSound rightFound rightRan, sameOwn]

-- Two browsers watch event A.  The first one reads, the second one leaves.
private def twoWatchers : List Label :=
  [.subscribe "A", .subscribe "A", .publish "A" ⟨["s1"], "held"⟩,
    .publish "B" ⟨["s9"], "held"⟩, .receive 0, .unsubscribe 1,
    .publish "A" ⟨["s1"], "sold"⟩]

theorem subscribers_see_no_gaps_with_two_watchers :
    ∃ hub,
      run Hub.step (Hub.new 10) twoWatchers = some hub ∧
        ∃ sub, hub.heap.get 0 = some sub ∧
          sub.channel.received = [⟨["s1"], "held"⟩] ∧
          sub.channel.buffer = [⟨["s1"], "sold"⟩] ∧
          ∃ before after,
            twoWatchers = before ++ .subscribe sub.eventId :: after ∧
              sub.channel.received ++ sub.channel.buffer <+:
                publishedTo sub.eventId after := by
  have ends :
      (run Hub.step (Hub.new 10) twoWatchers).any
          (fun hub =>
            (hub.heap.get 0).any fun sub =>
              decide
                (sub.channel.received = [⟨["s1"], "held"⟩] ∧
                  sub.channel.buffer = [⟨["s1"], "sold"⟩])) = true := by
    decide +kernel
  obtain ⟨hub, ran, checked⟩ := (Option.any_eq_true _ _).mp ends
  obtain ⟨sub, found, contents⟩ := (Option.any_eq_true _ _).mp checked
  obtain ⟨received, buffer⟩ := of_decide_eq_true contents
  obtain ⟨before, after, _, shape, _, _, unbroken, _⟩ :=
    (subscribers_see_no_gaps ran).1 0 sub found
  exact ⟨hub, ran, sub, found, received, buffer, before, after, shape, unbroken⟩

end TicketWave.Realtime
