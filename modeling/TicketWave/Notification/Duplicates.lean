import TicketWave.Notification.Handler

/-!
# How often a customer is mailed

Two calls that both look before either of them marks send two mails.
-/

namespace TicketWave.Notification

open Library TicketWave.Order TicketWave.Kafka

variable {Tag : Type}

/-- How often a mail for the message was sent. -/
def Desk.mails (desk : Desk Tag) (messageId : String) : Nat :=
  desk.sends.countP fun send => decide (send.messageId = messageId)

/-- The call found no marker for the message and has not left one yet. -/
def Progress.between (messageId : String) : Progress → Bool
  | .sending own _ => decide (own = messageId)
  | .marking own => decide (own = messageId)
  | _ => false

variable {progress : Progress} {messageId : String} {desk : Desk Tag}

theorem Progress.message_of_between
    (isBetween : progress.between messageId = true) :
    progress.message = some messageId := by
  cases progress with
  | checking own mail => cases isBetween
  | sending own mail => exact congrArg some (of_decide_eq_true isBetween)
  | marking own => exact congrArg some (of_decide_eq_true isBetween)
  | returned verdict => cases isBetween

theorem Progress.not_between_of_ne {other : String}
    (different : other ≠ messageId)
    (about : progress.message = some messageId ∨ progress.message = none) :
    progress.between other = false := by
  cases isBetween : progress.between other with
  | false => rfl
  | true =>
      rw [Progress.message_of_between isBetween] at about
      rcases about with same | gone
      · exact absurd (Option.some.inj same) different
      · cases gone

theorem Progress.between_of_sending {mail : Email}
    (stage : progress = .sending messageId mail) :
    progress.between messageId = true := by
  rw [stage]
  exact decide_eq_true rfl

theorem Progress.between_of_marking (stage : progress = .marking messageId) :
    progress.between messageId = true := by
  rw [stage]
  exact decide_eq_true rfl

/-- `Seen`, `Send` and `Mark` succeed, and no marker of a mail is lost or
reaches its deadline. -/
def Smooth (desk : Desk Tag) : Label Tag → Prop
  | .tick milliseconds =>
      ∀ send ∈ desk.sends,
        ∀ deadline ∈ desk.markers (markKey send.messageId),
          desk.clock + milliseconds < deadline
  | .forget _ => False
  | .handle _ _ => True
  | .seen _ error => error = none
  | .send _ error => error = none
  | .mark _ ok _ => ok = true

/-- While a call asks for its marker, no other call for the message is between
its own question and its marker. -/
def Alone (desk : Desk Tag) : Label Tag → Prop
  | .seen id _ =>
      ∀ call ∈ desk.calls.get id, ∀ messageId ∈ call.progress.message,
        ¬ desk.calls.any (fun other => other.progress.between messageId) = true
  | _ => True

instance Smooth.decidable (desk : Desk Tag) :
    ∀ label, Decidable (Smooth desk label)
  | .tick milliseconds =>
      inferInstanceAs
        (Decidable
          (∀ send ∈ desk.sends,
            ∀ deadline ∈ desk.markers (markKey send.messageId),
              desk.clock + milliseconds < deadline))
  | .forget _ => inferInstanceAs (Decidable False)
  | .handle _ _ => inferInstanceAs (Decidable True)
  | .seen _ error => inferInstanceAs (Decidable (error = none))
  | .send _ error => inferInstanceAs (Decidable (error = none))
  | .mark _ ok _ => inferInstanceAs (Decidable (ok = true))

instance Alone.decidable (desk : Desk Tag) :
    ∀ label, Decidable (Alone desk label)
  | .seen id _ =>
      inferInstanceAs
        (Decidable
          (∀ call ∈ desk.calls.get id, ∀ messageId ∈ call.progress.message,
            ¬ desk.calls.any
                (fun other => other.progress.between messageId) = true))
  | .tick _ => inferInstanceAs (Decidable True)
  | .forget _ => inferInstanceAs (Decidable True)
  | .handle _ _ => inferInstanceAs (Decidable True)
  | .send _ _ => inferInstanceAs (Decidable True)
  | .mark _ _ _ => inferInstanceAs (Decidable True)

/-- What the stages of the calls for a message say about its mails. -/
structure Standing (desk : Desk Tag) (messageId : String) : Prop where
  single :
    ∀ {id other call otherCall},
      desk.calls.get id = some call →
        desk.calls.get other = some otherCall →
          call.progress.between messageId = true →
            otherCall.progress.between messageId = true → id = other
  unsent :
    ∀ {id call mail},
      desk.calls.get id = some call →
        call.progress = .sending messageId mail → desk.mails messageId = 0
  sent :
    ∀ {id call},
      desk.calls.get id = some call →
        call.progress = .marking messageId → desk.mails messageId = 1
  marked :
    ∀ {deadline},
      desk.markers (markKey messageId) = some deadline →
        desk.clock < deadline ∧ desk.mails messageId = 1
  remembered :
    desk.mails messageId ≠ 0 →
      (∃ deadline, desk.markers (markKey messageId) = some deadline) ∨
        ∃ id call,
          desk.calls.get id = some call ∧ call.progress = .marking messageId
  returned :
    ∀ {id call verdict},
      desk.calls.get id = some call → call.About messageId →
        call.progress = .returned verdict → desk.mails messageId = 1

structure Orderly (desk : Desk Tag) : Prop where
  attributed : Attributed desk
  standing : ∀ messageId, Standing desk messageId

theorem orderly_new : Orderly (Desk.new Tag) where
  attributed := attributed_new
  standing := fun _ =>
    { single := fun found _ _ _ => by cases found
      unsent := fun found _ => by cases found
      sent := fun found _ => by cases found
      marked := fun held => by cases held
      remembered := fun sent => absurd rfl sent
      returned := fun found _ _ => by cases found }

theorem Standing.exclusive (standing : Standing desk messageId) :
    desk.calls.Exclusive fun call => call.progress.between messageId :=
  fun _ _ _ _ => standing.single

theorem Standing.mails_le_one (standing : Standing desk messageId) :
    desk.mails messageId ≤ 1 := by
  by_cases unsent : desk.mails messageId = 0
  · rw [unsent]
    exact Nat.zero_le 1
  · rcases standing.remembered unsent with
      ⟨deadline, held⟩ | ⟨id, call, found, stage⟩
    · exact (standing.marked held).2.le
    · exact (standing.sent found stage).le

theorem standing_tick {milliseconds : Nat} (standing : Standing desk messageId)
    (smooth : Smooth desk (.tick milliseconds)) :
    Standing { desk with clock := desk.clock + milliseconds } messageId where
  single := standing.single
  unsent := standing.unsent
  sent := standing.sent
  marked := by
    intro deadline held
    have once := (standing.marked held).2
    have positive : 0 < desk.mails messageId := by
      rw [once]
      exact Nat.one_pos
    obtain ⟨send, member, own⟩ := List.countP_pos_iff.mp positive
    have isOwn : send.messageId = messageId := of_decide_eq_true own
    have kept := smooth send member deadline
    rw [isOwn] at kept
    exact ⟨kept held, once⟩
  remembered := standing.remembered
  returned := standing.returned

theorem Progress.start_not_between
    (decoded : Except String OrderEvent) (messageId : String) :
    (Progress.start decoded).between messageId = false := by
  rcases Progress.start_cases decoded with ⟨_, starts⟩ | ⟨_, _, starts⟩
  · rw [starts]
    rfl
  · rw [starts]
    rfl

theorem standing_handle (tag : Tag) (decoded : Except String OrderEvent)
    (standing : Standing desk messageId) :
    Standing
      { desk with
        calls := desk.calls.launch ⟨tag, decoded, Progress.start decoded⟩ }
      messageId := by
  have fresh := Progress.start_not_between decoded messageId
  constructor
  case single =>
    intro id other call otherCall found otherFound
    exact standing.exclusive.launch fresh found otherFound
  case unsent =>
    intro id call mail found stage
    rcases Registry.cases_of_get_launch found with ⟨_, rfl⟩ | stored
    · rw [Progress.between_of_sending stage] at fresh
      cases fresh
    · exact standing.unsent stored stage
  case sent =>
    intro id call found stage
    rcases Registry.cases_of_get_launch found with ⟨_, rfl⟩ | stored
    · rw [Progress.between_of_marking stage] at fresh
      cases fresh
    · exact standing.sent stored stage
  case marked =>
    exact standing.marked
  case remembered =>
    intro sent
    refine (standing.remembered sent).imp_right ?_
    rintro ⟨id, call, found, stage⟩
    exact ⟨id, call, Registry.get_launch_of_get found, stage⟩
  case returned =>
    intro id call verdict found about stage
    rcases Registry.cases_of_get_launch found with ⟨_, rfl⟩ | stored
    · obtain ⟨mail, starts⟩ := Progress.start_of_about about
      rw [show Progress.start decoded = _ from stage] at starts
      cases starts
    · exact standing.returned stored about stage

-- A step of a call leaves the other messages as they stand.  For its own
-- message it finds a marker and returns, or it goes from its question to its
-- mail and from there to its marker.
section Going

variable {desk : Desk Tag} {id : Nat} {call : Call Tag} {messageId : String}

theorem standing_other {next : Desk Tag} {progress : Progress} {other : String}
    (orderly : Orderly desk) (found : desk.calls.get id = some call)
    (stage : call.progress.message = some messageId)
    (later : progress.message = some messageId ∨ progress.message = none)
    (different : other ≠ messageId)
    (calls : next.calls = desk.calls.put id { call with progress := progress })
    (clock : next.clock = desk.clock)
    (markers : next.markers (markKey other) = desk.markers (markKey other))
    (mails : next.mails other = desk.mails other) : Standing next other := by
  have standing := orderly.standing other
  have about := orderly.attributed found stage
  have stays :
      ∀ {key : Nat} {value : Call Tag},
        next.calls.get key = some value →
          value.progress.between other = true →
            desk.calls.get key = some value := by
    intro key value got isBetween
    rw [calls] at got
    rcases Registry.cases_of_get_put got with ⟨_, rfl⟩ | ⟨_, stored⟩
    · rw [Progress.not_between_of_ne different later] at isBetween
      cases isBetween
    · exact stored
  constructor
  case single =>
    intro key otherKey value otherValue got otherGot isBetween otherBetween
    exact standing.single (stays got isBetween) (stays otherGot otherBetween)
      isBetween otherBetween
  case unsent =>
    intro key value mail got isSending
    rw [mails]
    exact standing.unsent (stays got (Progress.between_of_sending isSending))
      isSending
  case sent =>
    intro key value got isMarking
    rw [mails]
    exact standing.sent (stays got (Progress.between_of_marking isMarking))
      isMarking
  case marked =>
    intro deadline held
    rw [markers] at held
    rw [clock, mails]
    exact standing.marked held
  case remembered =>
    rw [markers, mails, calls]
    intro sent
    refine (standing.remembered sent).imp_right ?_
    rintro ⟨key, value, got, isMarking⟩
    have apart : key ≠ id := by
      rintro rfl
      rw [found] at got
      cases got
      have isBetween := Progress.not_between_of_ne different (Or.inl stage)
      rw [Progress.between_of_marking isMarking] at isBetween
      cases isBetween
    refine ⟨key, value, ?_, isMarking⟩
    rw [Registry.get_put_of_ne apart]
    exact got
  case returned =>
    intro key value verdict got isAbout isReturned
    rw [mails]
    rw [calls] at got
    rcases Registry.cases_of_get_put got with ⟨_, rfl⟩ | ⟨_, stored⟩
    · have same : call.About other := ⟨isAbout.named, isAbout.mailed⟩
      exact absurd (same.unique about) different
    · exact standing.returned stored isAbout isReturned

theorem standing_returned {next : Desk Tag} {verdict : Verdict} {deadline : Nat}
    (standing : Standing desk messageId)
    (calls :
      next.calls =
        desk.calls.put id { call with progress := .returned verdict })
    (mails : next.mails messageId = desk.mails messageId)
    (once : desk.mails messageId = 1)
    (held : next.markers (markKey messageId) = some deadline)
    (alive : next.clock < deadline) : Standing next messageId := by
  have stays :
      ∀ {key : Nat} {value : Call Tag},
        next.calls.get key = some value →
          value.progress.between messageId = true →
            desk.calls.get key = some value := by
    intro key value got isBetween
    rw [calls] at got
    rcases Registry.cases_of_get_put got with ⟨_, rfl⟩ | ⟨_, stored⟩
    · cases isBetween
    · exact stored
  constructor
  case single =>
    intro key otherKey value otherValue got otherGot isBetween otherBetween
    exact standing.single (stays got isBetween) (stays otherGot otherBetween)
      isBetween otherBetween
  case unsent =>
    intro key value mail got isSending
    rw [mails]
    exact standing.unsent (stays got (Progress.between_of_sending isSending))
      isSending
  case sent =>
    intro key value got isMarking
    exact mails.trans once
  case marked =>
    intro other alsoHeld
    rw [held] at alsoHeld
    cases alsoHeld
    exact ⟨alive, mails.trans once⟩
  case remembered =>
    intro _
    exact Or.inl ⟨deadline, held⟩
  case returned =>
    intro key value other got about isReturned
    exact mails.trans once

theorem standing_cleared {mail : Email} (standing : Standing desk messageId)
    (unmarked : desk.markers.has desk.clock (markKey messageId) = false)
    (alone :
      ¬ desk.calls.any (fun other => other.progress.between messageId)
          = true) :
    Standing (desk.go id call (.sending messageId mail)) messageId := by
  have nobody :
      ∀ {key : Nat} {value : Call Tag},
        desk.calls.get key = some value →
          value.progress.between messageId = false :=
    fun got => Registry.test_of_not_any alone got
  have unmailed : desk.mails messageId = 0 := by
    by_contra sent
    rcases standing.remembered sent with
      ⟨deadline, held⟩ | ⟨key, value, got, isMarking⟩
    · have alive := (standing.marked held).1
      simp [Markers.has, held, alive] at unmarked
    · have apart := nobody got
      rw [Progress.between_of_marking isMarking] at apart
      cases apart
  have own :
      ∀ {key : Nat} {value : Call Tag},
        (desk.go id call (.sending messageId mail)).calls.get key =
            some value →
          value.progress.between messageId = true → key = id := by
    intro key value got isBetween
    rcases Registry.cases_of_get_put got with ⟨same, _⟩ | ⟨_, stored⟩
    · exact same
    · rw [nobody stored] at isBetween
      cases isBetween
  constructor
  case single =>
    intro key otherKey value otherValue got otherGot isBetween otherBetween
    exact (own got isBetween).trans (own otherGot otherBetween).symm
  case unsent =>
    intro key value other got isSending
    exact unmailed
  case sent =>
    intro key value got isMarking
    rcases Registry.cases_of_get_put got with ⟨_, rfl⟩ | ⟨_, stored⟩
    · cases isMarking
    · exact standing.sent stored isMarking
  case marked =>
    exact standing.marked
  case remembered =>
    exact fun sent => absurd unmailed sent
  case returned =>
    intro key value verdict got about isReturned
    rcases Registry.cases_of_get_put got with ⟨_, rfl⟩ | ⟨_, stored⟩
    · cases isReturned
    · exact standing.returned stored about isReturned

theorem Desk.mails_cons (desk : Desk Tag) (send : Send)
    (calls : Registry (Call Tag)) (wanted : String) :
    Desk.mails { desk with calls := calls, sends := send :: desk.sends }
        wanted =
      desk.mails wanted + if send.messageId = wanted then 1 else 0 := by
  simp [Desk.mails, List.countP_cons]

theorem standing_sent {mail : Email} (standing : Standing desk messageId)
    (found : desk.calls.get id = some call)
    (stage : call.progress = .sending messageId mail) :
    Standing
      { desk.go id call (.marking messageId) with
        sends := ⟨messageId, mail⟩ :: desk.sends } messageId := by
  have once :
      Desk.mails
          { desk.go id call (.marking messageId) with
            sends := ⟨messageId, mail⟩ :: desk.sends } messageId = 1 := by
    have added :=
      desk.mails_cons ⟨messageId, mail⟩
        (desk.go id call (.marking messageId)).calls messageId
    rw [standing.unsent found stage, if_pos rfl] at added
    exact added
  have wasBetween := Progress.between_of_sending stage
  have own :
      ∀ {key : Nat} {value : Call Tag},
        (desk.go id call (.marking messageId)).calls.get key = some value →
          value.progress.between messageId = true →
            key = id ∧ value.progress = .marking messageId := by
    intro key value got isBetween
    rcases Registry.cases_of_get_put got with ⟨same, rfl⟩ | ⟨apart, stored⟩
    · exact ⟨same, rfl⟩
    · exact absurd (standing.single stored found isBetween wasBetween) apart
  constructor
  case single =>
    intro key otherKey value otherValue got otherGot isBetween otherBetween
    exact (own got isBetween).1.trans (own otherGot otherBetween).1.symm
  case unsent =>
    intro key value other got isSending
    have isMarking := (own got (Progress.between_of_sending isSending)).2
    rw [isSending] at isMarking
    cases isMarking
  case sent =>
    exact fun _ _ => once
  case marked =>
    exact fun held => ⟨(standing.marked held).1, once⟩
  case remembered =>
    intro _
    exact Or.inr ⟨id, _, Registry.get_put_self found, rfl⟩
  case returned =>
    exact fun _ _ _ => once

end Going

theorem standing_of_transition {next : Desk Tag} {label : Label Tag}
    (orderly : Orderly desk) (smooth : Smooth desk label)
    (alone : Alone desk label) (transition : Transition desk label next)
    (wanted : String) : Standing next wanted := by
  have standing := orderly.standing wanted
  cases transition with
  | ticked milliseconds => exact standing_tick standing smooth
  | forgot key => exact smooth.elim
  | handled tag decoded => exact standing_handle tag decoded standing
  | checkFailed text found stage => cases smooth
  | @skipped id call messageId mail found stage marked =>
      by_cases own : wanted = messageId
      · subst own
        cases held : desk.markers (markKey wanted) with
        | none => simp [Markers.has, held] at marked
        | some deadline =>
            obtain ⟨alive, once⟩ := standing.marked held
            exact standing_returned standing rfl rfl once held alive
      · exact standing_other orderly found (congrArg Progress.message stage)
          (Or.inr rfl) own rfl rfl rfl rfl
  | @cleared id call messageId mail found stage unmarked =>
      by_cases own : wanted = messageId
      · subst own
        exact standing_cleared standing unmarked
          (alone call found wanted (congrArg Progress.message stage))
      · exact standing_other orderly found (congrArg Progress.message stage)
          (Or.inl rfl) own rfl rfl rfl rfl
  | sendFailed text found stage => cases smooth
  | @sent id call messageId mail found stage =>
      by_cases own : wanted = messageId
      · subst own
        exact standing_sent standing found stage
      · have added :=
          desk.mails_cons ⟨messageId, mail⟩
            (desk.go id call (.marking messageId)).calls wanted
        rw [if_neg (Ne.symm own)] at added
        exact standing_other orderly found (congrArg Progress.message stage)
          (Or.inl rfl) own rfl rfl rfl added
  | @marked id call messageId ok stored found stage =>
      have isOk : ok = true := smooth
      subst isOk
      by_cases own : wanted = messageId
      · subst own
        exact standing_returned standing rfl rfl (standing.sent found stage)
          (Function.update_self _ _ _)
          (Nat.lt_add_of_pos_right (by decide))
      · have keys : markKey wanted ≠ markKey messageId :=
          fun same => own (markKey_inj same)
        exact standing_other orderly found (congrArg Progress.message stage)
          (Or.inr rfl) own rfl rfl (Function.update_of_ne keys _ _) rfl

theorem orderly_of_transition {next : Desk Tag} {label : Label Tag}
    (orderly : Orderly desk) (smooth : Smooth desk label)
    (alone : Alone desk label) (transition : Transition desk label next) :
    Orderly next where
  attributed := attributed_of_transition orderly.attributed transition
  standing := standing_of_transition orderly smooth alone transition

/-- In a run without failures in which no call asks for its marker while
another one for the message is about to leave it, a customer is mailed at most
once for a message, and exactly once as soon as one of its calls returned. -/
theorem redelivered_event_mails_once
    {labels : List (Label Tag)} {desk : Desk Tag}
    (smooth : EveryStep Desk.step Smooth (Desk.new Tag) labels)
    (alone : EveryStep Desk.step Alone (Desk.new Tag) labels)
    (ran : run Desk.step (Desk.new Tag) labels = some desk) {ev : OrderEvent}
    (named : ev.messageId ≠ "")
    (mailed : ev.type = .confirmed ∨ ev.type = .failed) :
    desk.mails ev.messageId ≤ 1 ∧
      ∀ id call verdict,
        desk.calls.get id = some call → call.decoded = .ok ev →
          call.progress = .returned verdict → desk.mails ev.messageId = 1 := by
  have orderly : Orderly desk :=
    invariant_of_restricted_run
      (fun held allowed stepped =>
        orderly_of_transition held allowed.1 allowed.2
          (transition_of_step stepped))
      orderly_new (everyStep_and smooth alone) ran
  have standing := orderly.standing ev.messageId
  refine ⟨standing.mails_le_one, ?_⟩
  intro id call verdict found decoded isReturned
  obtain ⟨mail, composed⟩ := compose_of_type mailed
  have about : call.About ev.messageId :=
    ⟨named, ev, mail, decoded, rfl, composed⟩
  exact standing.returned found about isReturned

private def confirmation : OrderEvent where
  messageId := "m1"
  type := .confirmed
  orderId := "o1"
  userId := "u1"
  eventId := "e1"
  seatIds := ["s1", "s2"]
  amountCents := 5000
  failureReason := .unspecified

/-- The second delivery is handled after the first one, an hour later. -/
private def oneAfterTheOther : List (Label Unit) :=
  [.handle () (.ok confirmation), .seen 0 none, .send 0 none,
    .mark 0 true false, .tick 3600000, .handle () (.ok confirmation),
    .seen 1 none]

theorem redelivered_event_mails_once_an_hour_later :
    ∃ desk call,
      run Desk.step (Desk.new Unit) oneAfterTheOther = some desk ∧
        desk.calls.get 1 = some call ∧ call.decoded = .ok confirmation ∧
          call.progress = .returned .handled ∧ desk.mails "m1" = 1 := by
  have ends :
      (run Desk.step (Desk.new Unit) oneAfterTheOther).any
          (fun desk =>
            (desk.calls.get 1).any fun call =>
              decide
                (call.decoded = .ok confirmation ∧
                  call.progress = .returned .handled)) = true := by
    decide +kernel
  obtain ⟨desk, ran, checked⟩ := (Option.any_eq_true _ _).mp ends
  obtain ⟨call, found, contents⟩ := (Option.any_eq_true _ _).mp checked
  obtain ⟨decoded, isReturned⟩ := of_decide_eq_true contents
  have smooth :
      EveryStep Desk.step Smooth (Desk.new Unit) oneAfterTheOther := by
    decide +kernel
  have alone :
      EveryStep Desk.step Alone (Desk.new Unit) oneAfterTheOther := by
    decide +kernel
  have named : confirmation.messageId ≠ "" := by
    decide
  have once :=
    (redelivered_event_mails_once smooth alone ran named (Or.inl rfl)).2
      1 call .handled found decoded isReturned
  exact ⟨desk, call, ran, found, decoded, isReturned, once⟩

/-- Both deliveries stand in one batch and are handled side by side: both ask
before either of them marks. -/
private def sideBySide : List (Label Unit) :=
  [.handle () (.ok confirmation), .handle () (.ok confirmation),
    .seen 0 none, .seen 1 none, .send 0 none, .send 1 none,
    .mark 0 true false, .mark 1 true false]

theorem parallel_deliveries_mail_twice :
    EveryStep Desk.step Smooth (Desk.new Unit) sideBySide ∧
      ∃ desk,
        run Desk.step (Desk.new Unit) sideBySide = some desk ∧
          desk.mails "m1" = 2 := by
  have ends :
      (run Desk.step (Desk.new Unit) sideBySide).any
          (fun desk => decide (desk.mails "m1" = 2)) = true := by
    decide +kernel
  obtain ⟨desk, ran, twice⟩ := (Option.any_eq_true _ _).mp ends
  exact ⟨by decide +kernel, desk, ran, of_decide_eq_true twice⟩

end TicketWave.Notification
