import TicketWave.Realtime.Subscribers

/-!
# The stream of one viewer

`ServeHTTP` of `services/realtime/internal/stream`, for one request.
-/

namespace TicketWave.Realtime

open Library

inductive Frame where
  /-- the interval for reconnecting, and a first comment -/
  | connected
  | seats (update : Update)
  | ping
  deriving DecidableEq, Repr

inductive Phase where
  | arriving
  | refused (status : Nat)
  | greeting (id : Nat)
  | watching (id : Nat)
  /-- before the deferred `Close` of the subscription -/
  | leaving (id : Nat)
  | returned (id : Nat)
  deriving DecidableEq, Repr

def Phase.subscription : Phase → Option Nat
  | .arriving | .refused _ => none
  | .greeting id | .watching id | .leaving id | .returned id => some id

/-- `log` is not part of the service; it records the operations on the hub. -/
structure Scene where
  hub : Hub
  phase : Phase
  frames : List Frame
  log : List Label

def Scene.start (max : Int) : Scene :=
  ⟨Hub.new max, .arriving, [], []⟩

inductive Act where
  | others (label : Label)
  | subscribe
  | greet (flushed : Bool)
  /-- the case of the channel is chosen -/
  | take (flushed : Bool)
  | heartbeat (flushed : Bool)
  | browserLeft
  | close
  deriving DecidableEq, Repr

/-- The subscription is known to its own handler only. -/
def Label.concerns (id : Nat) : Label → Bool
  | .receive other | .unsubscribe other => decide (other = id)
  | _ => false

namespace Scene

variable (scene : Scene)

def perform (label : Label) : Option Scene :=
  (scene.hub.step label).map fun hub =>
    { scene with hub := hub, log := scene.log ++ [label] }

def write (id : Nat) (frame : Frame) (flushed : Bool) : Scene :=
  if flushed then
    { scene with phase := .watching id, frames := scene.frames ++ [frame] }
  else
    { scene with phase := .leaving id }

def step (isUuid : String → Bool) (eventId : String) : Act → Option Scene
  | .others label =>
      if scene.phase.subscription.any fun id => label.concerns id then none
      else scene.perform label
  | .subscribe =>
      match scene.phase, (scene.hub.subscribe eventId).2 with
      | .arriving, answer =>
          if isUuid eventId = false then
            some { scene with phase := .refused 400 }
          else
            match answer with
            | none => some { scene with phase := .refused 503 }
            | some id =>
                (scene.perform (.subscribe eventId)).map fun next =>
                  { next with phase := .greeting id }
      | _, _ => none
  | .greet flushed =>
      match scene.phase with
      | .greeting id => some (scene.write id .connected flushed)
      | _ => none
  | .take flushed =>
      match scene.phase with
      | .watching id =>
          match (scene.hub.heap.get id).map Subscription.channel with
          | some ⟨update :: _, _, _⟩ =>
              (scene.perform (.receive id)).map fun next =>
                next.write id (.seats update) flushed
          | some ⟨[], true, _⟩ => some { scene with phase := .leaving id }
          | _ => none
      | _ => none
  | .heartbeat flushed =>
      match scene.phase with
      | .watching id => some (scene.write id .ping flushed)
      | _ => none
  | .browserLeft =>
      match scene.phase with
      | .watching id => some { scene with phase := .leaving id }
      | _ => none
  | .close =>
      match scene.phase with
      | .leaving id =>
          (scene.perform (.unsubscribe id)).map fun next =>
            { next with phase := .returned id }
      | _ => none

end Scene

def updatesOf (frames : List Frame) : List Update :=
  frames.filterMap fun frame =>
    match frame with
    | .seats update => some update
    | _ => none

def Phase.serving : Phase → Bool
  | .greeting _ | .watching _ => true
  | _ => false

structure Shown (max : Int) (eventId : String) (scene : Scene) : Prop where
  ran : run Hub.step (Hub.new max) scene.log = some scene.hub
  fresh : scene.phase.subscription = none → scene.frames = []
  got :
    ∀ id, scene.phase.subscription = some id →
      ∃ sub, scene.hub.heap.get id = some sub ∧ sub.eventId = eventId ∧
        updatesOf scene.frames <+: sub.channel.received ∧
        (scene.phase.serving = true →
          sub.channel.received = updatesOf scene.frames)

section Shown

variable {max : Int} {isUuid : String → Bool} {eventId : String}
  {scene next : Scene} {act : Act}

theorem received_of_foreign {id : Nat} {label : Label}
    (foreign : label ≠ .receive id) (sub : Subscription) :
    (sub.applyAll (label.own id sub.eventId).toList).channel.received =
      sub.channel.received := by
  cases label with
  | publish other update =>
      by_cases same : other = sub.eventId
      · simp only [Label.own, if_pos same]
        show (sub.channel.apply subscriberBuffer (.send update)).received = _
        unfold Mailbox.apply
        split_ifs <;> rfl
      · simp only [Label.own, if_neg same]
        rfl
  | receive other =>
      have isOther : other ≠ id := fun same => foreign (same ▸ rfl)
      simp only [Label.own, if_neg isOther]
      rfl
  | unsubscribe other =>
      by_cases same : other = id
      · simp only [Label.own, if_pos same]
        rfl
      · simp only [Label.own, if_neg same]
        rfl
  | _ => rfl

theorem run_perform
    (ran : run Hub.step (Hub.new max) scene.log = some scene.hub)
    {label : Label} {hub : Hub} (stepped : scene.hub.step label = some hub) :
    run Hub.step (Hub.new max) (scene.log ++ [label]) = some hub := by
  rw [run_append, ran, Option.bind_some, run, stepped]
  rfl

theorem shown_perform (shown : Shown max eventId scene) {label : Label}
    (foreign : ∀ id, scene.phase.subscription = some id → label ≠ .receive id)
    (performed : scene.perform label = some next) : Shown max eventId next := by
  obtain ⟨hub, stepped, rfl⟩ := Option.map_eq_some_iff.mp performed
  have sound := sound_of_run (sound_new max) shown.ran
  refine ⟨run_perform shown.ran stepped, shown.fresh, fun id isId => ?_⟩
  obtain ⟨sub, found, isEvent, behind, level⟩ := shown.got id isId
  refine ⟨_, (stepped_of_step sound stepped).old id sub found, isEvent, ?_⟩
  rw [received_of_foreign (foreign id isId)]
  exact ⟨behind, level⟩

theorem shown_over (shown : Shown max eventId scene) {phase : Phase}
    (same : scene.phase.subscription = phase.subscription)
    (isOver : phase.serving = false) :
    Shown max eventId { scene with phase := phase } := by
  refine ⟨shown.ran, fun none => shown.fresh (same.trans none), ?_⟩
  intro id isId
  obtain ⟨sub, found, isEvent, behind, _⟩ := shown.got id (same.trans isId)
  refine ⟨sub, found, isEvent, behind, fun serving => ?_⟩
  cases isOver.symm.trans serving

theorem shown_write
    (ran : run Hub.step (Hub.new max) scene.log = some scene.hub) {id : Nat}
    (sub : Subscription) (found : scene.hub.heap.get id = some sub)
    (isEvent : sub.eventId = eventId) {frame : Frame}
    (received :
      sub.channel.received = updatesOf scene.frames ++ updatesOf [frame])
    (flushed : Bool) : Shown max eventId (scene.write id frame flushed) := by
  cases flushed with
  | false =>
      refine ⟨ran, nofun, fun other isId => ?_⟩
      cases isId
      exact ⟨sub, found, isEvent, received ▸ List.prefix_append _ _, nofun⟩
  | true =>
      have all : sub.channel.received = updatesOf (scene.frames ++ [frame]) :=
        received.trans List.filterMap_append.symm
      refine ⟨ran, nofun, fun other isId => ?_⟩
      cases isId
      exact ⟨sub, found, isEvent, all ▸ List.prefix_rfl, fun _ => all⟩

theorem shown_comment (shown : Shown max eventId scene) {id : Nat}
    (isId : scene.phase.subscription = some id)
    (serving : scene.phase.serving = true) {frame : Frame}
    (plain : updatesOf [frame] = []) (flushed : Bool) :
    Shown max eventId (scene.write id frame flushed) := by
  obtain ⟨sub, found, isEvent, _, level⟩ := shown.got id isId
  refine shown_write shown.ran sub found isEvent ?_ flushed
  rw [plain, List.append_nil, level serving]

theorem shown_subscribe
    (shown : Shown max eventId scene) (isPhase : scene.phase = .arriving)
    {id : Nat} (answer : (scene.hub.subscribe eventId).2 = some id)
    (performed : scene.perform (.subscribe eventId) = some next) :
    Shown max eventId { next with phase := .greeting id } := by
  have fresh : scene.frames = [] := shown.fresh (by rw [isPhase]; rfl)
  have kept := shown_perform shown (by rintro _ _ ⟨⟩) performed
  cases performed
  refine ⟨kept.ran, nofun, fun other isId => ?_⟩
  cases isId
  unfold Hub.subscribe at answer ⊢
  split at answer
  · cases answer
  · rename_i opened
    cases answer
    rw [if_neg opened, fresh]
    exact ⟨_, Registry.get_launch_self _ _, rfl, List.nil_prefix, fun _ => rfl⟩

theorem shown_take (shown : Shown max eventId scene) {id : Nat}
    (isPhase : scene.phase = .watching id) {channel : Mailbox Update}
    (isChannel :
      (scene.hub.heap.get id).map Subscription.channel = some channel)
    {update : Update} {rest : List Update}
    (isBuffer : channel.buffer = update :: rest)
    (performed : scene.perform (.receive id) = some next) (flushed : Bool) :
    Shown max eventId (next.write id (.seats update) flushed) := by
  have sound := sound_of_run (sound_new max) shown.ran
  obtain ⟨sub, found, isEvent, _, level⟩ := shown.got id (by rw [isPhase]; rfl)
  obtain ⟨hub, stepped, rfl⟩ := Option.map_eq_some_iff.mp performed
  have after := (stepped_of_step sound stepped).old id sub found
  rw [Label.own, if_pos rfl] at after
  refine shown_write (run_perform shown.ran stepped) (sub.apply .receive) after
    isEvent ?_ flushed
  rw [found] at isChannel
  cases isChannel
  show (sub.channel.apply subscriberBuffer .receive).received = _
  rw [Mailbox.apply, isBuffer, level (by rw [isPhase]; rfl)]
  rfl

theorem shown_of_step (shown : Shown max eventId scene)
    (stepped : scene.step isUuid eventId act = some next) :
    Shown max eventId next := by
  cases act <;> simp only [Scene.step] at stepped
  case others label =>
      split at stepped
      next => cases stepped
      next foreign =>
        refine shown_perform shown ?_ stepped
        rintro id isId rfl
        simp [isId, Label.concerns] at foreign
  case subscribe =>
      split at stepped
      next isPhase =>
        have none : scene.phase.subscription = none := by rw [isPhase]; rfl
        split at stepped
        · cases stepped
          exact shown_over shown none rfl
        · split at stepped
          next =>
            cases stepped
            exact shown_over shown none rfl
          next answer =>
            obtain ⟨after, performed, rfl⟩ := Option.map_eq_some_iff.mp stepped
            exact shown_subscribe shown isPhase answer performed
      next => cases stepped
  case greet flushed | heartbeat flushed =>
      split at stepped
      next isPhase =>
        cases stepped
        exact shown_comment shown (by rw [isPhase]; rfl) (by rw [isPhase]; rfl)
          rfl flushed
      next => cases stepped
  case take flushed =>
      split at stepped
      next isPhase =>
        split at stepped
        next isChannel =>
          obtain ⟨after, performed, rfl⟩ := Option.map_eq_some_iff.mp stepped
          exact shown_take shown isPhase isChannel rfl performed flushed
        next =>
          cases stepped
          exact shown_over shown (by rw [isPhase]; rfl) rfl
        next => cases stepped
      next => cases stepped
  case browserLeft =>
      split at stepped
      next isPhase =>
        cases stepped
        exact shown_over shown (by rw [isPhase]; rfl) rfl
      next => cases stepped
  case close =>
      split at stepped
      next isPhase =>
        obtain ⟨after, performed, rfl⟩ := Option.map_eq_some_iff.mp stepped
        have kept := shown_perform shown (by rintro _ _ ⟨⟩) performed
        obtain ⟨hub, removed, rfl⟩ := Option.map_eq_some_iff.mp performed
        refine shown_over kept ?_ rfl
        show scene.phase.subscription = _
        rw [isPhase]
        rfl
      next => cases stepped

/-- The browser gets an unbroken first part of what is published to its event
after its own `Subscribe`; while it is served, all but what is still in the
channel. -/
theorem viewer_gets_unbroken_part {acts : List Act}
    (ran :
      run (fun scene act => Scene.step scene isUuid eventId act)
        (Scene.start max) acts = some scene) {id : Nat}
    (isServed : scene.phase.subscription = some id) :
    ∃ before after middle sub,
      scene.log = before ++ .subscribe eventId :: after ∧
        run Hub.step (Hub.new max) before = some middle ∧
        middle.heap.next = id ∧ scene.hub.heap.get id = some sub ∧
        updatesOf scene.frames <+: publishedTo eventId after ∧
        (scene.phase.serving = true → sub.channel.closed = false →
          updatesOf scene.frames ++ sub.channel.buffer =
            publishedTo eventId after) := by
  have shown : Shown max eventId scene :=
    invariant_of_run shown_of_step
      ⟨rfl, fun _ => rfl, by rintro _ ⟨⟩⟩ ran
  obtain ⟨sub, found, rfl, behind, level⟩ := shown.got id isServed
  obtain ⟨before, after, middle, shape, ranBefore, isNext, isSub⟩ :=
    subscribed_of_run (sound_new max) rfl shown.ran found
  have follows : sub.channel.Follows (publishedTo sub.eventId after) := by
    have fed :=
      Mailbox.follows_empty.applyAll subscriberBuffer
        (after.filterMap (Label.own id sub.eventId))
    rw [List.nil_append, sent_own] at fed
    rw [congrArg Subscription.channel isSub]
    exact fed
  refine ⟨before, after, middle, sub, shape, ranBefore, isNext, found, ?_, ?_⟩
  · exact (behind.trans (List.prefix_append _ _)).trans follows.unbroken
  · intro serving opened
    rw [← level serving]
    exact follows.whole opened

end Shown

/-- The browser sees one of two changes and then a broken line. -/
def watchActs : List Act :=
  [.others (.subscribe "A"), .subscribe, .greet true,
    .others (.publish "A" ⟨["s1"], "held"⟩), .take true, .heartbeat true,
    .others (.publish "A" ⟨["s1"], "sold"⟩), .take false, .close]

theorem viewer_of_two_changes_gets_one :
    ∃ scene,
      run (fun scene act => Scene.step scene (fun _ => true) "A" act)
          (Scene.start 10) watchActs = some scene ∧
        updatesOf scene.frames = [⟨["s1"], "held"⟩] ∧
        ∃ before after, scene.log = before ++ .subscribe "A" :: after ∧
          updatesOf scene.frames <+: publishedTo "A" after := by
  have ends :
      (run (fun scene act => Scene.step scene (fun _ => true) "A" act)
        (Scene.start 10) watchActs).any (fun scene =>
          decide (scene.phase = .returned 1 ∧
            updatesOf scene.frames = [⟨["s1"], "held"⟩])) = true := by
    decide +kernel
  obtain ⟨scene, ran, checked⟩ := (Option.any_eq_true _ _).mp ends
  obtain ⟨isPhase, frames⟩ := of_decide_eq_true checked
  obtain ⟨before, after, _, _, shape, _, _, _, got, _⟩ :=
    viewer_gets_unbroken_part ran (by rw [isPhase]; rfl)
  exact ⟨scene, ran, frames, before, after, shape, got⟩

end TicketWave.Realtime
