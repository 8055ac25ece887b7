import TicketWave.Kafka.Delivery
import TicketWave.Notification.Handler

/-!
# No mail is lost

The consumer calls the handler for each attempt at a record.  A call goes on
when its consumer has crashed.
-/

namespace TicketWave.Notification

open Library TicketWave.Order TicketWave.Kafka

section Truth

variable {Tag : Type}

/-- A call of `Send` for the message has returned nil. -/
def Desk.Sent (desk : Desk Tag) (messageId : String) : Prop :=
  ∃ send ∈ desk.sends, send.messageId = messageId

/-- The event was mailed, if it is one to be mailed. -/
def Desk.Mailed (desk : Desk Tag) (decoded : Except String OrderEvent) : Prop :=
  ∀ ev mail,
    decoded = .ok ev → ev.messageId ≠ "" → compose ev = some mail →
      desk.Sent ev.messageId

variable {desk next : Desk Tag}

theorem Desk.Sent.mono {messageId : String}
    (grows : ∀ send ∈ desk.sends, send ∈ next.sends)
    (sent : desk.Sent messageId) : next.Sent messageId := by
  obtain ⟨send, member, own⟩ := sent
  exact ⟨send, grows send member, own⟩

theorem Desk.Mailed.mono {decoded : Except String OrderEvent}
    (grows : ∀ send ∈ desk.sends, send ∈ next.sends)
    (mailed : desk.Mailed decoded) : next.Mailed decoded :=
  fun ev mail isOk named composed =>
    (mailed ev mail isOk named composed).mono grows

theorem Call.About.mailed_of_sent {call : Call Tag} {messageId : String}
    (about : call.About messageId) (sent : desk.Sent messageId) :
    desk.Mailed call.decoded := by
  intro ev mail decoded named composed
  have same : ev.messageId = messageId :=
    Call.About.unique ⟨named, ev, mail, decoded, rfl, composed⟩ about
  rw [same]
  exact sent

structure Truthful (desk : Desk Tag) : Prop where
  marked :
    ∀ {messageId deadline},
      desk.markers (markKey messageId) = some deadline → desk.Sent messageId
  marking :
    ∀ {id call messageId},
      desk.calls.get id = some call →
        call.progress = .marking messageId → desk.Sent messageId
  handled :
    ∀ {id call},
      desk.calls.get id = some call →
        call.progress = .returned .handled → desk.Mailed call.decoded

theorem truthful_new : Truthful (Desk.new Tag) where
  marked := fun held => by cases held
  marking := fun found _ => by cases found
  handled := fun found _ => by cases found

theorem truthful_go {id : Nat} {call : Call Tag} {progress : Progress}
    (truthful : Truthful desk)
    (calls : next.calls = desk.calls.put id { call with progress := progress })
    (grows : ∀ send ∈ desk.sends, send ∈ next.sends)
    (marked :
      ∀ {messageId deadline},
        next.markers (markKey messageId) = some deadline → next.Sent messageId)
    (marking :
      ∀ {messageId}, progress = .marking messageId → next.Sent messageId)
    (handled : progress = .returned .handled → next.Mailed call.decoded) :
    Truthful next where
  marked := marked
  marking := by
    intro key value messageId got isMarking
    rw [calls] at got
    rcases Registry.cases_of_get_put got with ⟨_, rfl⟩ | ⟨_, stored⟩
    · exact marking isMarking
    · exact (truthful.marking stored isMarking).mono grows
  handled := by
    intro key value got isHandled
    rw [calls] at got
    rcases Registry.cases_of_get_put got with ⟨_, rfl⟩ | ⟨_, stored⟩
    · exact handled isHandled
    · exact (truthful.handled stored isHandled).mono grows

theorem mailed_of_start {decoded : Except String OrderEvent}
    (nothing : Progress.start decoded = .returned .handled) :
    desk.Mailed decoded := by
  intro ev mail isOk named composed
  have about : Call.About ⟨(), decoded, .returned .handled⟩ ev.messageId :=
    ⟨named, ev, mail, isOk, rfl, composed⟩
  obtain ⟨_, starts⟩ := Progress.start_of_about about
  rw [nothing] at starts
  cases starts

theorem truthful_of_transition {label : Label Tag}
    (attributed : Attributed desk) (truthful : Truthful desk)
    (transition : Transition desk label next) : Truthful next := by
  have kept : ∀ send ∈ desk.sends, send ∈ desk.sends := fun _ member => member
  cases transition with
  | ticked milliseconds =>
      exact ⟨truthful.marked, truthful.marking, truthful.handled⟩
  | forgot key =>
      refine ⟨?_, truthful.marking, truthful.handled⟩
      intro messageId deadline held
      by_cases lost : markKey messageId = key
      · simp [lost] at held
      · exact truthful.marked ((Function.update_of_ne lost _ _).symm.trans held)
  | handled tag decoded =>
      refine ⟨truthful.marked, ?_, ?_⟩
      · intro id call messageId found isMarking
        rcases Registry.cases_of_get_launch found with ⟨_, rfl⟩ | stored
        · rcases Progress.start_cases decoded with
            ⟨_, starts⟩ | ⟨_, _, starts⟩
          · cases starts.symm.trans isMarking
          · cases starts.symm.trans isMarking
        · exact truthful.marking stored isMarking
      · intro id call found isHandled
        rcases Registry.cases_of_get_launch found with ⟨_, rfl⟩ | stored
        · exact mailed_of_start isHandled
        · exact truthful.handled stored isHandled
  | checkFailed text found stage =>
      exact truthful_go truthful rfl kept truthful.marked
        (fun equal => nomatch equal) (fun equal => nomatch equal)
  | @skipped id call messageId mail found stage marked =>
      refine truthful_go truthful rfl kept truthful.marked
        (fun equal => nomatch equal) (fun _ => ?_)
      have about := attributed found (congrArg Progress.message stage)
      cases held : desk.markers (markKey messageId) with
      | none => simp [Markers.has, held] at marked
      | some deadline => exact about.mailed_of_sent (truthful.marked held)
  | cleared found stage unmarked =>
      exact truthful_go truthful rfl kept truthful.marked
        (fun equal => nomatch equal) (fun equal => nomatch equal)
  | sendFailed text found stage =>
      exact truthful_go truthful rfl kept truthful.marked
        (fun equal => nomatch equal) (fun equal => nomatch equal)
  | @sent id call messageId mail found stage =>
      have grows :
          ∀ send ∈ desk.sends, send ∈ ⟨messageId, mail⟩ :: desk.sends :=
        fun _ member => List.mem_cons_of_mem _ member
      refine truthful_go truthful rfl grows
        (fun held => (truthful.marked held).mono grows) ?_
        (fun equal => nomatch equal)
      rintro _ ⟨⟩
      exact ⟨⟨messageId, mail⟩, List.mem_cons_self, rfl⟩
  | @marked id call messageId ok stored found stage =>
      have sent := truthful.marking found stage
      have about := attributed found (congrArg Progress.message stage)
      refine truthful_go truthful rfl kept ?_ (fun equal => nomatch equal)
        (fun _ => about.mailed_of_sent sent)
      intro other deadline held
      by_cases own : other = messageId
      · rw [own]
        exact sent
      · have keys : markKey other ≠ markKey messageId :=
          fun same => own (markKey_inj same)
        have old : desk.markers (markKey other) = some deadline := by
          split at held
          · exact (Function.update_of_ne keys _ _).symm.trans held
          · exact held
        exact truthful.marked old

end Truth

variable {Value : Type}

/-- The attempt that a call of the handler was made for. -/
structure Attempt (Value : Type) where
  consumer : Nat
  index : Nat
  record : Record (Content Value)

structure Service (Value : Type) where
  group : Kafka.Group Value
  desk : Desk (Attempt Value)

def Service.new (Value : Type) (topicName : String) : Service Value where
  group := Kafka.Group.new Value topicName
  desk := Desk.new (Attempt Value)

inductive Move (Value : Type) where
  /-- Kafka and the consumer, up to what the handler returns -/
  | kafka (label : Kafka.Label Value)
  /-- the consumer calls the handler -/
  | handle (consumer index : Nat)
  /-- time, Redis and the calls -/
  | desk (label : Label (Attempt Value))
  /-- the handler's call returns to the consumer -/
  | deliver (call : Nat)

/-- The handler is already running for the attempt. -/
def Service.called (service : Service Value) (consumer index : Nat) : Bool :=
  service.desk.calls.any fun call =>
    decide (call.tag.consumer = consumer ∧ call.tag.index = index)

def Service.step [DecidableEq Value]
    (decode : Value → Except String OrderEvent) (service : Service Value) :
    Move Value → Option (Service Value)
  | .kafka (.act _ (.verdict _ _)) => none
  | .kafka label =>
      (Kafka.step service.group label).map fun group =>
        { service with group := group }
  | .handle consumer index =>
      match service.group.attempting consumer index with
      | none => none
      | some record =>
          if service.called consumer index then
            none
          else
            (service.desk.step
              (.handle ⟨consumer, index, record⟩
                (decode record.payload.value))).map fun desk =>
                  { service with desk := desk }
  | .desk (.handle _ _) => none
  | .desk label =>
      (service.desk.step label).map fun desk => { service with desk := desk }
  | .deliver id =>
      match service.desk.calls.get id with
      | some ⟨attempt, _, .returned verdict⟩ =>
          if service.group.attempting attempt.consumer attempt.index =
              some attempt.record then
            (Kafka.step service.group
              (.act attempt.consumer
                (.verdict attempt.index verdict))).map fun group =>
                  { group := group
                    desk :=
                      { service.desk with
                        calls := service.desk.calls.finish id } }
          else
            none
      | _ => none

section Steps

variable (decode : Value → Except String OrderEvent)

inductive ServiceStep (service : Service Value) : Service Value → Prop
  | kafka
      {label : Kafka.Label Value} {group : Kafka.Group Value}
      (silent : ∀ id index verdict, label ≠ .act id (.verdict index verdict))
      (stepped : Kafka.step service.group label = some group) :
      ServiceStep service { service with group := group }
  | handle
      {attempt : Attempt Value} {desk : Desk (Attempt Value)}
      (stepped :
        service.desk.step
            (.handle attempt (decode attempt.record.payload.value)) =
          some desk) :
      ServiceStep service { service with desk := desk }
  | desk
      {label : Label (Attempt Value)} {desk : Desk (Attempt Value)}
      (inside : ∀ tag decoded, label ≠ .handle tag decoded)
      (stepped : service.desk.step label = some desk) :
      ServiceStep service { service with desk := desk }
  | deliver
      {id : Nat} {call : Call (Attempt Value)} {verdict : Verdict}
      {group : Kafka.Group Value}
      (found : service.desk.calls.get id = some call)
      (returned : call.progress = .returned verdict)
      (own :
        service.group.attempting call.tag.consumer call.tag.index =
          some call.tag.record)
      (stepped :
        Kafka.step service.group
            (.act call.tag.consumer (.verdict call.tag.index verdict)) =
          some group) :
      ServiceStep service
        { group := group
          desk :=
            { service.desk with calls := service.desk.calls.finish id } }

theorem serviceStep_of_step [DecidableEq Value]
    {decode : Value → Except String OrderEvent} {service next : Service Value}
    {move : Move Value} (stepped : service.step decode move = some next) :
    ServiceStep decode service next := by
  unfold Service.step at stepped
  split at stepped
  · cases stepped
  · rename_i label silent
    obtain ⟨group, acted, rfl⟩ := Option.map_eq_some_iff.mp stepped
    exact .kafka (fun id index verdict same => silent id index verdict same)
      acted
  · split at stepped
    · cases stepped
    · rename_i record isAttempting
      split at stepped
      · cases stepped
      · obtain ⟨desk, handled, rfl⟩ := Option.map_eq_some_iff.mp stepped
        exact .handle handled
  · cases stepped
  · rename_i label inside
    obtain ⟨desk, acted, rfl⟩ := Option.map_eq_some_iff.mp stepped
    exact .desk (fun tag decoded same => inside tag decoded same) acted
  · split at stepped
    · rename_i attempt decoded verdict found
      split at stepped
      · rename_i own
        obtain ⟨group, acted, rfl⟩ := Option.map_eq_some_iff.mp stepped
        exact .deliver found rfl own acted
      · cases stepped
    · cases stepped

end Steps

/-- Every dealing of the log is accounted for by a mail or a dead message. -/
structure Accounted
    (decode : Value → Except String OrderEvent) (service : Service Value) :
    Prop where
  sound : Kafka.Sound service.group
  attributed : Attributed service.desk
  truthful : Truthful service.desk
  decoded :
    ∀ {id call},
      service.desk.calls.get id = some call →
        call.decoded = decode call.tag.record.payload.value
  logged :
    ∀ dealing ∈ service.group.log,
      service.desk.Mailed (decode dealing.record.payload.value) ∨
        dealing.Parked service.group.topicName

variable {decode : Value → Except String OrderEvent}

theorem accounted_new (topicName : String) :
    Accounted decode (Service.new Value topicName) where
  sound := Kafka.sound_new topicName
  attributed := attributed_new
  truthful := truthful_new
  decoded := nofun
  logged := nofun

theorem Transition.sends_grow {Tag : Type} {desk next : Desk Tag}
    {label : Label Tag} (transition : Transition desk label next) :
    ∀ send ∈ desk.sends, send ∈ next.sends := by
  intro send member
  cases transition with
  | sent found stage => exact List.mem_cons_of_mem _ member
  | _ => exact member

theorem Transition.call_of_get {Tag : Type} {desk next : Desk Tag}
    {label : Label Tag} (transition : Transition desk label next) {id : Nat}
    {call : Call Tag} (found : next.calls.get id = some call) :
    label = .handle call.tag call.decoded ∨
      ∃ old,
        desk.calls.get id = some old ∧ call.tag = old.tag ∧
          call.decoded = old.decoded := by
  have going :
      ∀ {key : Nat} {old : Call Tag} {progress : Progress},
        desk.calls.get key = some old →
          (desk.go key old progress).calls.get id = some call →
            ∃ old,
              desk.calls.get id = some old ∧ call.tag = old.tag ∧
                call.decoded = old.decoded := by
    intro key old progress stored got
    rcases Registry.cases_of_get_put got with ⟨rfl, rfl⟩ | ⟨_, same⟩
    · exact ⟨old, stored, rfl, rfl⟩
    · exact ⟨call, same, rfl, rfl⟩
  cases transition with
  | ticked milliseconds => exact Or.inr ⟨call, found, rfl, rfl⟩
  | forgot key => exact Or.inr ⟨call, found, rfl, rfl⟩
  | handled tag decoded =>
      rcases Registry.cases_of_get_launch found with ⟨_, rfl⟩ | stored
      · exact Or.inl rfl
      · exact Or.inr ⟨call, stored, rfl, rfl⟩
  | checkFailed text stored stage => exact Or.inr (going stored found)
  | skipped stored stage marked => exact Or.inr (going stored found)
  | cleared stored stage unmarked => exact Or.inr (going stored found)
  | sendFailed text stored stage => exact Or.inr (going stored found)
  | sent stored stage => exact Or.inr (going stored found)
  | marked ok kept stored stage => exact Or.inr (going stored found)

variable {service : Service Value}

theorem accounted_of_desk {label : Label (Attempt Value)}
    {desk : Desk (Attempt Value)} (accounted : Accounted decode service)
    (stepped : service.desk.step label = some desk)
    (own :
      ∀ attempt decoded, label = .handle attempt decoded →
        decoded = decode attempt.record.payload.value) :
    Accounted decode { service with desk := desk } := by
  have transition := transition_of_step stepped
  refine
    { sound := accounted.sound
      attributed :=
        attributed_of_transition accounted.attributed transition
      truthful :=
        truthful_of_transition accounted.attributed accounted.truthful
          transition
      decoded := ?_
      logged := ?_ }
  · intro id call found
    rcases transition.call_of_get found with
      isNew | ⟨old, stored, sameTag, sameDecoded⟩
    · exact own call.tag call.decoded isNew
    · rw [sameTag, sameDecoded]
      exact accounted.decoded stored
  · intro dealing member
    exact (accounted.logged dealing member).imp_left fun mailed =>
      mailed.mono transition.sends_grow

/-- What the consumer does is accounted for when the handler returned nil only
after a mail. -/
theorem accounted_of_kafka {label : Kafka.Label Value}
    {group : Kafka.Group Value} (accounted : Accounted decode service)
    (stepped : Kafka.step service.group label = some group)
    (handled :
      ∀ consumer index record,
        label = .act consumer (.verdict index .handled) →
          service.group.attempting consumer index = some record →
            service.desk.Mailed (decode record.payload.value)) :
    Accounted decode { service with group := group } := by
  refine
    { sound :=
        sound_of_transition accounted.sound
          (Kafka.transition_of_step stepped)
      attributed := accounted.attributed
      truthful := accounted.truthful
      decoded := accounted.decoded
      logged := ?_ }
  intro dealing member
  rw [topicName_of_step stepped]
  rcases log_of_step stepped member with
    old | parked | ⟨consumer, index, isVerdict, isAttempting⟩
  · exact accounted.logged dealing old
  · exact Or.inr parked
  · exact Or.inl (handled consumer index dealing.record isVerdict isAttempting)

theorem Accounted.finish (accounted : Accounted decode service) (id : Nat) :
    Accounted decode
      { service with
        desk :=
          { service.desk with calls := service.desk.calls.finish id } } where
  sound := accounted.sound
  attributed := fun found =>
    accounted.attributed (Registry.get_of_get_finish found).2
  truthful :=
    { marked := accounted.truthful.marked
      marking := fun found =>
        accounted.truthful.marking (Registry.get_of_get_finish found).2
      handled := fun found =>
        accounted.truthful.handled (Registry.get_of_get_finish found).2 }
  decoded := fun found =>
    accounted.decoded (Registry.get_of_get_finish found).2
  logged := accounted.logged

theorem accounted_of_serviceStep {next : Service Value}
    (accounted : Accounted decode service)
    (stepped : ServiceStep decode service next) : Accounted decode next := by
  cases stepped with
  | kafka silent stepped =>
      apply accounted_of_kafka accounted stepped
      intro consumer index record isVerdict
      exact absurd isVerdict (silent consumer index .handled)
  | handle stepped =>
      apply accounted_of_desk accounted stepped
      rintro _ _ ⟨⟩
      rfl
  | desk inside stepped =>
      apply accounted_of_desk accounted stepped
      intro tag decoded isHandle
      exact absurd isHandle (inside tag decoded)
  | @deliver id call verdict group found returned own stepped =>
      have delivered :
          Accounted decode { service with group := group } := by
        apply accounted_of_kafka accounted stepped
        rintro consumer index record ⟨⟩ isAttempting
        rw [own] at isAttempting
        cases isAttempting
        rw [← accounted.decoded found]
        exact accounted.truthful.handled found returned
      exact delivered.finish id

theorem no_mail_is_lost [DecidableEq Value] {topicName : String}
    {moves : List (Move Value)} {service : Service Value}
    (ran :
      run (Service.step decode) (Service.new Value topicName) moves =
        some service) :
    ∀ record ∈ service.group.topic.records,
      record.Below service.group.committed →
        ∀ ev, decode record.payload.value = .ok ev → ev.messageId ≠ "" →
          ev.type = .confirmed ∨ ev.type = .failed →
            (∃ send ∈ service.desk.sends,
                send.messageId = ev.messageId) ∨
              ∃ dealing ∈ service.group.log,
                dealing.record = record ∧
                  dealing.Parked service.group.topicName := by
  have accounted : Accounted decode service :=
    invariant_of_run
      (fun held stepped =>
        accounted_of_serviceStep held (serviceStep_of_step stepped))
      (accounted_new topicName) ran
  intro record member below ev decoded named isMailed
  obtain ⟨dealing, logged, rfl⟩ := accounted.sound.committed record member below
  obtain ⟨mail, composed⟩ : ∃ mail, compose ev = some mail :=
    compose_of_type isMailed
  rcases accounted.logged dealing logged with mailed | parked
  · exact Or.inl (mailed ev mail decoded named composed)
  · exact Or.inr ⟨dealing, logged, rfl, parked⟩

-- The first attempt finds Redis down, the second one sends the mail, and its
-- marker is not stored.  The consumer crashes before it commits; the next one
-- mails again and commits.
private def failure : OrderEvent where
  messageId := "m1"
  type := .failed
  orderId := "o1"
  userId := "u1"
  eventId := "e1"
  seatIds := ["s1"]
  amountCents := 0
  failureReason := .seatsUnavailable

private def failureRecord : Record (Content OrderEvent) :=
  ⟨0, 0, ⟨"o1", failure, []⟩⟩

private def crashAfterMail : List (Move OrderEvent) :=
  [.kafka (.produce failureRecord), .kafka (.start ⟨4, 2, 3⟩),
    .kafka (.act 0 (.fetch 0)), .kafka (.act 0 .ship),
    .kafka (.act 0 .spawn), .handle 0 0,
    .desk (.seen 0 (some "connection refused")), .deliver 0,
    .kafka (.act 0 (.wake 0)), .handle 0 0, .desk (.seen 1 none),
    .desk (.send 1 none), .desk (.mark 1 false false), .deliver 1,
    .kafka (.act 0 .crash), .kafka (.start ⟨4, 2, 3⟩),
    .kafka (.act 1 (.fetch 0)), .kafka (.act 1 .ship),
    .kafka (.act 1 .spawn), .handle 1 0, .desk (.seen 2 none),
    .desk (.send 2 none), .desk (.mark 2 true false), .deliver 2,
    .kafka (.act 1 .join), .kafka (.act 1 (.commit true fun _ => true))]

theorem no_mail_is_lost_in_a_crash :
    ∃ service : Service OrderEvent,
      run (Service.step Except.ok) (Service.new OrderEvent "order-events")
          crashAfterMail = some service ∧
        failureRecord ∈ service.group.topic.records ∧
        failureRecord.Below service.group.committed ∧
        ((∃ send ∈ service.desk.sends, send.messageId = "m1") ∨
          ∃ dealing ∈ service.group.log,
            dealing.record = failureRecord ∧
              dealing.Parked service.group.topicName) := by
  have ends :
      (run (Service.step Except.ok) (Service.new OrderEvent "order-events")
          crashAfterMail).any
        (fun service =>
          decide (failureRecord ∈ service.group.topic.records) &&
            decide (failureRecord.Below service.group.committed)) =
          true := by
    decide +kernel
  obtain ⟨service, ran, checked⟩ := (Option.any_eq_true _ _).mp ends
  obtain ⟨isRecord, isBelow⟩ := Bool.and_eq_true_iff.mp checked
  have member := of_decide_eq_true isRecord
  have below := of_decide_eq_true isBelow
  have kept :=
    no_mail_is_lost ran failureRecord member below failure rfl (by decide)
      (Or.inr rfl)
  exact ⟨service, ran, member, below, kept⟩

end TicketWave.Notification
