import TicketWave.Kafka.Consumer

/-!
# Retries and dead letters

`handleOne` for one record, with the counters it bumps; a turn of its loop goes
where `Settings.afterVerdict` says.
-/

namespace TicketWave.Kafka

open Library

variable {Value : Type}

/-- What `handleOne` meets, attempt by attempt. -/
structure Circumstances where
  /-- what the handler returns on an attempt -/
  verdict : Nat → Verdict
  /-- the context is done when the handler has returned -/
  ctxDone : Nat → Bool
  /-- the backoff after an attempt is cut short by the context -/
  cutShort : Nat → Bool
  /-- the error of `DLQ.Publish` -/
  refusal : Option String

/-- The outcomes that `count` is called with. -/
inductive Metric where
  | handled
  | retried
  | deadLettered
  deriving DecidableEq, Repr

inductive HandleError where
  /-- `ctx.Err()` -/
  | context
  /-- the dead-letter publisher's error, wrapped -/
  | deadLetter (text : String)
  deriving DecidableEq, Repr

/-- What a call of `handleOne` has done when it returns. -/
structure Handled (Value : Type) where
  /-- how often the handler was called -/
  calls : Nat
  /-- the messages `DLQ.Publish` was called with -/
  parked : List (Message Value)
  counted : List Metric
  error : Option HandleError
  deriving DecidableEq, Repr

def deadLetter (refusal : Option String) (msg : Message Value) (attempts : Nat)
    (cause : String) (counted : List Metric) : Handled Value :=
  match refusal with
  | some text =>
      ⟨attempts, [deadMessage msg attempts cause], counted,
        some
          (.deadLetter
            ("dead-letter " ++ msg.topic ++ "[" ++ toString msg.partition ++
              "]@" ++ toString msg.offset ++ ": " ++ text))⟩
  | none =>
      ⟨attempts, [deadMessage msg attempts cause],
        counted ++ [.deadLettered], none⟩

/-- The loop of `handleOne` with `left` attempts to go. -/
def handleLoop
    (settings : Settings) (met : Circumstances) (msg : Message Value) :
    Nat → Nat → String → List Metric → Handled Value
  | 0, attempts, err, counted => deadLetter met.refusal msg attempts err counted
  | left + 1, before, _, counted =>
      let attempts := before + 1
      match met.verdict attempts with
      | .handled => ⟨attempts, [], counted ++ [.handled], none⟩
      | .failed permanent text =>
          if met.ctxDone attempts then
            ⟨attempts, [], counted, some .context⟩
          else if permanent then
            deadLetter met.refusal msg attempts text counted
          else if attempts < settings.maxAttempts then
            if met.cutShort attempts then
              ⟨attempts, [], counted ++ [.retried], some .context⟩
            else
              handleLoop settings met msg left attempts text
                (counted ++ [.retried])
          else
            handleLoop settings met msg left attempts text counted

def handleOne (settings : Settings) (met : Circumstances) (topic : String)
    (record : Record (Content Value)) : Handled Value :=
  handleLoop settings met (fromKafka topic record) settings.maxAttempts 0 ""
    []

section Loop

variable {settings : Settings} {met : Circumstances} {msg : Message Value}
  {left attempts : Nat} {err : String} {counted : List Metric}

/-- What is left of `handleOne` at a stage of the step model. -/
def afterTurn (settings : Settings) (met : Circumstances) (msg : Message Value)
    (left attempts : Nat) (text : String) (counted : List Metric) :
    Handling → Handled Value
  | .returned true => ⟨attempts, [], counted ++ [.handled], none⟩
  | .parking reached cause => deadLetter met.refusal msg reached cause counted
  | .backingOff reached =>
      if met.cutShort reached then
        ⟨reached, [], counted ++ [.retried], some .context⟩
      else
        handleLoop settings met msg left reached text
          (counted ++ [.retried])
  | _ => ⟨attempts, [], counted, some .context⟩

def Verdict.text : Verdict → String
  | .handled => ""
  | .failed _ text => text

/-- A turn of the loop follows the step model. -/
theorem handleLoop_succ
    (balanced : left + 1 + attempts = settings.maxAttempts) :
    handleLoop settings met msg (left + 1) attempts err counted =
      afterTurn settings met msg left (attempts + 1)
        (met.verdict (attempts + 1)).text counted
        (settings.afterVerdict (met.ctxDone (attempts + 1)) (attempts + 1)
          (met.verdict (attempts + 1))) := by
  rw [handleLoop]
  cases verdict : met.verdict (attempts + 1) with
  | handled => rfl
  | failed permanent text =>
      simp only [Settings.afterVerdict]
      cases met.ctxDone (attempts + 1) with
      | true => rfl
      | false =>
          cases permanent with
          | true => rfl
          | false =>
              by_cases more : attempts + 1 < settings.maxAttempts
              · simp only [more, if_true, Bool.false_eq_true, if_false]
                rfl
              · have last : left = 0 := by omega
                subst last
                simp only [more, Bool.false_eq_true, if_false]
                rfl

/-- An error that is tried again. -/
def Verdict.transient : Verdict → Bool
  | .failed false _ => true
  | _ => false

theorem Verdict.eq_failed_of_transient
    {verdict : Verdict} (transient : verdict.transient = true) :
    ∃ text, verdict = .failed false text := by
  cases verdict with
  | handled => cases transient
  | failed permanent text =>
      cases permanent with
      | true => cases transient
      | false => exact ⟨text, rfl⟩

/-- The first of the attempts whose outcome is not tried again, or the last
one if there is none. -/
def lastAttempt (verdict : Nat → Verdict) (maxAttempts : Nat) : Nat :=
  ((List.range' 1 maxAttempts).find? fun attempt =>
    !(verdict attempt).transient).getD maxAttempts

/-- The attempt at which the loop is left. -/
structure Decides
    (verdict : Nat → Verdict) (maxAttempts decisive : Nat) : Prop where
  positive : 0 < decisive
  bounded : decisive ≤ maxAttempts
  earlier :
    ∀ attempt, 0 < attempt → attempt < decisive →
      (verdict attempt).transient = true
  settled : decisive < maxAttempts → (verdict decisive).transient = false

theorem decides_lastAttempt (verdict : Nat → Verdict) {maxAttempts : Nat}
    (positive : 0 < maxAttempts) :
    Decides verdict maxAttempts (lastAttempt verdict maxAttempts) := by
  unfold lastAttempt
  cases found :
      (List.range' 1 maxAttempts).find? fun attempt =>
        !(verdict attempt).transient with
  | none =>
      have all := List.find?_eq_none.mp found
      refine ⟨positive, Nat.le_refl _, ?_, fun less => absurd less (Nat.lt_irrefl _)⟩
      intro attempt isPositive less
      have listed : attempt ∈ List.range' 1 maxAttempts := by
        rw [List.mem_range'_1]
        have isLess : attempt < maxAttempts := less
        omega
      simpa using all attempt listed
  | some decisive =>
      obtain ⟨settled, listed, earlier⟩ := List.find?_range'_eq_some.mp found
      rw [List.mem_range'_1] at listed
      refine
        ⟨by exact listed.1, by simp; omega, ?_, fun _ => by simpa using settled⟩
      intro attempt isPositive less
      simpa using earlier attempt isPositive less

/-- How `handleOne` ends after its last attempt. -/
def ending (met : Circumstances) (msg : Message Value) (decisive : Nat)
    (counted : List Metric) : Handled Value :=
  match met.verdict decisive with
  | .handled => ⟨decisive, [], counted ++ [.handled], none⟩
  | .failed _ text => deadLetter met.refusal msg decisive text counted

/-- The context is not done up to the attempt. -/
def Circumstances.Calm (met : Circumstances) (decisive : Nat) : Prop :=
  ∀ attempt ≤ decisive,
    met.ctxDone attempt = false ∧ met.cutShort attempt = false

theorem handleLoop_of_calm {decisive : Nat}
    (decides : Decides met.verdict settings.maxAttempts decisive)
    (calm : met.Calm decisive) (begun : attempts < decisive)
    (balanced : left + attempts = settings.maxAttempts) :
    handleLoop settings met msg left attempts err counted =
      ending met msg decisive
        (counted ++ List.replicate (decisive - 1 - attempts) .retried) := by
  have bounded := decides.bounded
  -- one turn of the loop for each attempt that is left
  induction left generalizing attempts err counted with
  | zero => omega
  | succ left ih =>
      rw [handleLoop_succ balanced, (calm (attempts + 1) begun).1]
      rcases Nat.lt_or_eq_of_le begun with later | isDecisive
      · obtain ⟨text, verdict⟩ :=
          Verdict.eq_failed_of_transient
            (decides.earlier (attempts + 1) (Nat.succ_pos attempts) later)
        have more : attempts + 1 < settings.maxAttempts :=
          Nat.lt_of_lt_of_le later bounded
        have retries :
            decisive - 1 - attempts = decisive - 1 - (attempts + 1) + 1 := by
          omega
        simp only [verdict, Settings.afterVerdict, more, if_true,
          Bool.false_eq_true, if_false, afterTurn,
          (calm (attempts + 1) begun).2]
        rw [ih later (by omega), retries,
          List.replicate_succ, List.append_assoc, List.singleton_append]
      · subst isDecisive
        have none : attempts + 1 - 1 - attempts = 0 := by omega
        rw [none, List.replicate_zero, List.append_nil, ending]
        cases verdict : met.verdict (attempts + 1) with
        | handled => rfl
        | failed permanent text =>
            cases permanent with
            | true => rfl
            | false =>
                have last : ¬ attempts + 1 < settings.maxAttempts := by
                  intro more
                  have settled := decides.settled more
                  rw [verdict] at settled
                  cases settled
                simp only [Settings.afterVerdict, last, Bool.false_eq_true,
                  if_false, afterTurn]

theorem calls_deadLetter (cause : String) :
    (deadLetter met.refusal msg attempts cause counted).calls = attempts := by
  unfold deadLetter
  split <;> rfl

theorem handleLoop_turn :
    (handleLoop settings met msg (left + 1) attempts err counted).calls =
        attempts + 1 ∨
      ∃ text after,
        handleLoop settings met msg (left + 1) attempts err counted =
          handleLoop settings met msg left (attempts + 1) text after := by
  rw [handleLoop]
  cases met.verdict (attempts + 1) with
  | handled => exact Or.inl rfl
  | failed permanent text =>
      dsimp only
      split
      · exact Or.inl rfl
      · split
        · exact Or.inl (calls_deadLetter text)
        · split
          · split
            · exact Or.inl rfl
            · exact Or.inr ⟨text, _, rfl⟩
          · exact Or.inr ⟨text, counted, rfl⟩

/-- A failed call that returns with the context done ends `handleOne` with an
error and without a dead letter. -/
theorem handleLoop_of_ctxDone
    {attempt : Nat} (balanced : left + attempts = settings.maxAttempts)
    (begun : attempts < attempt)
    (called :
      attempt ≤ (handleLoop settings met msg left attempts err counted).calls)
    (failed : met.verdict attempt ≠ .handled)
    (ctxDone : met.ctxDone attempt = true) :
    (handleLoop settings met msg left attempts err counted).parked = [] ∧
      (handleLoop settings met msg left attempts err counted).error =
        some .context := by
  induction left generalizing attempts err counted with
  | zero =>
      rw [handleLoop, calls_deadLetter] at called
      omega
  | succ left ih =>
      by_cases isNext : attempt = attempts + 1
      · subst isNext
        rw [handleLoop_succ balanced]
        cases verdict : met.verdict (attempts + 1) with
        | handled => exact absurd verdict failed
        | failed permanent text =>
            simp only [Settings.afterVerdict, ctxDone, if_true]
            exact ⟨rfl, rfl⟩
      · have turn :
            (handleLoop settings met msg (left + 1) attempts err
                counted).calls = attempts + 1 ∨
              ∃ text after,
                handleLoop settings met msg (left + 1) attempts err counted =
                  handleLoop settings met msg left (attempts + 1) text
                    after := handleLoop_turn
        rcases turn with last | ⟨text, after, goesOn⟩
        · omega
        · rw [goesOn] at called ⊢
          exact ih (by omega) (by omega) called

end Loop

theorem lookup_setHeader_self
    (headers : List (String × String)) (name value : String) :
    (setHeader headers name value).lookup name = some value := by
  unfold setHeader
  split
  · rename_i present
    induction headers with
    | nil => cases present
    | cons header rest ih =>
        rw [List.map_cons, List.lookup_cons]
        by_cases isName : header.1 = name
        · simp [isName]
        · have later :
              (rest.any fun other => decide (other.1 = name)) = true := by
            simpa [isName] using present
          rw [if_neg isName, beq_false_of_ne (Ne.symm isName)]
          exact ih later
  · rename_i absent
    have none : headers.lookup name = none := by
      rw [List.lookup_eq_none_iff]
      intro header member
      apply bne_iff_ne.mpr
      intro isName
      exact absent
        (List.any_eq_true.mpr ⟨header, member, decide_eq_true isName.symm⟩)
    rw [List.lookup_append, none, Option.none_or, List.lookup_cons,
      beq_self_eq_true]

theorem lookup_setHeader_of_ne (headers : List (String × String))
    {name wanted : String} (value : String) (different : wanted ≠ name) :
    (setHeader headers name value).lookup wanted = headers.lookup wanted := by
  have apart : (wanted == name) = false := beq_false_of_ne different
  unfold setHeader
  split
  · clear * - apart
    induction headers with
    | nil => rfl
    | cons header rest ih =>
        rw [List.map_cons, List.lookup_cons, List.lookup_cons, ih]
        by_cases isName : header.1 = name
        · rw [if_pos isName, isName, apart]
        · rw [if_neg isName]
  · rw [List.lookup_append, List.lookup_cons, apart, List.lookup_nil,
      Option.or_none]

theorem headers_deadMessage
    (msg : Message Value) (attempts : Nat) (cause : String) :
    (deadMessage msg attempts cause).headers.lookup "dlq-error" =
        some cause ∧
      (deadMessage msg attempts cause).headers.lookup "dlq-attempts" =
        some (toString attempts) := by
  simp [deadMessage, lookup_setHeader_self, lookup_setHeader_of_ne]

/-- As long as the context is not done, the calls, the dead letter and the
counters are those of the deciding attempt.  A call that fails with the
context done is not a failure of the handler. -/
theorem retries_and_dead_letters_are_accounted
    {settings : Settings} {met : Circumstances} {topic : String}
    {record : Record (Content Value)} {last : Nat} {result : Handled Value}
    (isLast : lastAttempt met.verdict settings.maxAttempts = last)
    (returned : handleOne settings met topic record = result) :
    (met.Calm last →
      result.calls = last ∧
      (met.verdict last = .handled → result.parked = []) ∧
      (∀ permanent text, met.verdict last = .failed permanent text →
        ∃ dead, result.parked = [dead] ∧
          dead.headers.lookup "dlq-attempts" = some (toString last) ∧
          dead.headers.lookup "dlq-error" = some text ∧
          dead.key = record.payload.key ∧
          dead.value = record.payload.value) ∧
      result.counted.count .retried = last - 1 ∧
      (result.error = none ↔ met.verdict last = .handled ∨ met.refusal = none) ∧
      (result.error = none →
        result.counted.count .handled +
          result.counted.count .deadLettered = 1)) ∧
    ∀ attempt, 0 < attempt → attempt ≤ result.calls →
      met.verdict attempt ≠ .handled → met.ctxDone attempt = true →
        result.error ≠ none ∧ result.parked = [] := by
  have decides := decides_lastAttempt met.verdict settings.maxAttempts_pos
  rw [isLast] at decides
  subst returned
  constructor
  · intro calm
    have ended :
        handleOne settings met topic record =
          ending met (fromKafka topic record) last
            (List.replicate (last - 1) .retried) := by
      rw [handleOne,
        handleLoop_of_calm decides calm decides.positive (Nat.add_zero _)]
      rfl
    rw [ended, ending]
    cases verdict : met.verdict last with
    | handled => simp [List.count_replicate]
    | failed permanent text =>
        obtain ⟨error, attempts⟩ :=
          headers_deadMessage (fromKafka topic record) last text
        have dead :
            ∀ permanent' text',
              Verdict.failed permanent text = .failed permanent' text' →
                ∃ dead,
                  [deadMessage (fromKafka topic record) last text] = [dead] ∧
                    dead.headers.lookup "dlq-attempts" = some (toString last) ∧
                    dead.headers.lookup "dlq-error" = some text' ∧
                    dead.key = record.payload.key ∧
                    dead.value = record.payload.value := by
          rintro _ _ ⟨⟩
          exact ⟨_, rfl, attempts, error, rfl, rfl⟩
        cases refusal : met.refusal with
        | none =>
            dsimp only [deadLetter]
            exact ⟨rfl, nofun, dead, by simp, by simp,
              by simp [List.count_replicate]⟩
        | some refused =>
            dsimp only [deadLetter]
            exact ⟨rfl, nofun, dead, by simp, by simp, nofun⟩
  · intro attempt positive called failed ctxDone
    obtain ⟨none, error⟩ :=
      handleLoop_of_ctxDone (Nat.add_zero _) positive called failed ctxDone
    refine ⟨?_, none⟩
    rw [handleOne, error]
    exact Option.some_ne_none _

-- A timeout, then a message that does not parse; the third attempt is spared.
private def parseFailure : Circumstances where
  verdict := fun attempt =>
    if attempt = 1 then .failed false "timeout"
    else .permanent "no such event"
  ctxDone := fun _ => false
  cutShort := fun _ => false
  refusal := none

private def seatRecord : Record (Content Nat) :=
  ⟨0, 4, ⟨"seat", 7, []⟩⟩

theorem parse_failure_is_accounted :
    ∃ result,
      handleOne (ConsumerConfig.applyDefaults ⟨0, 0, 0⟩) parseFailure
          "seat-events" seatRecord = result ∧
        result.calls = 2 ∧ result.counted.count .retried = 1 ∧
        result.error = none ∧
        ∃ dead, result.parked = [dead] ∧
          dead.headers.lookup "dlq-attempts" = some "2" ∧
          dead.headers.lookup "dlq-error" =
            some "permanent failure: no such event" := by
  have isLast :
      lastAttempt parseFailure.verdict
        (ConsumerConfig.applyDefaults ⟨0, 0, 0⟩).maxAttempts = 2 := by
    decide
  have calm : parseFailure.Calm 2 := fun _ _ => ⟨rfl, rfl⟩
  obtain ⟨calls, _, parked, retried, silent, _⟩ :=
    (retries_and_dead_letters_are_accounted isLast
      (@rfl _
        (handleOne (ConsumerConfig.applyDefaults ⟨0, 0, 0⟩) parseFailure
          "seat-events" seatRecord))).1 calm
  obtain ⟨dead, isDead, attempts, error, _⟩ := parked true _ rfl
  exact
    ⟨_, rfl, calls, retried, silent.mpr (Or.inr rfl), dead, isDead, attempts,
      error⟩

end TicketWave.Kafka
