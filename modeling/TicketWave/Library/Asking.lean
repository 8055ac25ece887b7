import Mathlib.Data.List.Basic

/-!
# Programs that ask

A program that asks its surroundings and comes to a result.  Nothing is said
of the surroundings, so what holds for every run holds however they answer.
-/

namespace TicketWave.Library

inductive Asking (Question : Type) (Answer : Question → Type)
    (Result : Type) where
  | done (result : Result)
  | ask (question : Question)
      (next : Answer question → Asking Question Answer Result)

namespace Asking

variable {Question : Type} {Answer : Question → Type} {Result Final : Type}

def bind (program : Asking Question Answer Result)
    (next : Result → Asking Question Answer Final) :
    Asking Question Answer Final :=
  match program with
  | .done result => next result
  | .ask question more => .ask question fun answer => (more answer).bind next

instance : Monad (Asking Question Answer) where
  pure := .done
  bind := bind

def asked (question : Question) : Asking Question Answer (Answer question) :=
  .ask question .done

/-- A question and the answer to it. -/
structure Exchange (Answer : Question → Type) where
  question : Question
  answer : Answer question

theorem Exchange.answer_inj
    {question : Question} {first second : Answer question}
    (same : (⟨question, first⟩ : Exchange Answer) = ⟨question, second⟩) :
    first = second := by
  injection same

inductive Runs :
    Asking Question Answer Result → List (Exchange Answer) → Result → Prop
  | done (result : Result) : Runs (.done result) [] result
  | ask {question : Question}
      {next : Answer question → Asking Question Answer Result}
      (answer : Answer question) {history : List (Exchange Answer)}
      {result : Result} (later : Runs (next answer) history result) :
      Runs (.ask question next) (⟨question, answer⟩ :: history) result

variable {program : Asking Question Answer Result}
  {history seen : List (Exchange Answer)} {result : Result}

theorem runs_done_iff {given : Result} :
    Runs (.done given : Asking Question Answer Result) history result ↔
      history = [] ∧ result = given := by
  constructor
  · intro ran
    cases ran with
    | done => exact ⟨rfl, rfl⟩
  · rintro ⟨rfl, rfl⟩
    exact .done result

theorem runs_ask_iff {question : Question}
    {next : Answer question → Asking Question Answer Result} :
    Runs (.ask question next) history result ↔
      ∃ answer later, history = ⟨question, answer⟩ :: later ∧
        Runs (next answer) later result := by
  constructor
  · intro ran
    cases ran with
    | ask answer later => exact ⟨answer, _, rfl, later⟩
  · rintro ⟨answer, later, rfl, ran⟩
    exact .ask answer ran

theorem runs_bind_iff {next : Result → Asking Question Answer Final}
    {final : Final} :
    Runs (program.bind next) history final ↔
      ∃ first second result, history = first ++ second ∧
        Runs program first result ∧ Runs (next result) second final := by
  induction program generalizing history with
  | done given =>
      constructor
      · intro ran
        exact ⟨[], history, given, rfl, .done given, ran⟩
      · rintro ⟨_, second, result, rfl, ran, ranNext⟩
        obtain ⟨rfl, rfl⟩ := runs_done_iff.mp ran
        exact ranNext
  | ask question more ih =>
      constructor
      · intro ran
        obtain ⟨answer, later, rfl, ranLater⟩ := runs_ask_iff.mp ran
        obtain ⟨first, second, result, rfl, ranFirst, ranNext⟩ :=
          (ih answer).mp ranLater
        exact ⟨_, second, result, rfl, .ask answer ranFirst, ranNext⟩
      · rintro ⟨_, second, result, rfl, ran, ranNext⟩
        obtain ⟨answer, later, rfl, ranLater⟩ := runs_ask_iff.mp ran
        exact .ask answer
          ((ih answer).mpr ⟨later, second, result, rfl, ranLater, ranNext⟩)

/-- The result if every question has one answer. -/
def answered (answers : ∀ question, Answer question) :
    Asking Question Answer Result → Result
  | .done result => result
  | .ask question next => (next (answers question)).answered answers

theorem answered_bind (answers : ∀ question, Answer question)
    (program : Asking Question Answer Result)
    (next : Result → Asking Question Answer Final) :
    (program >>= next).answered answers =
      (next (program.answered answers)).answered answers := by
  induction program with
  | done result => rfl
  | ask question more ih => exact ih (answers question)

theorem Runs.eq_answered {answers : ∀ question, Answer question}
    (ran : Runs program history result)
    (each : ∀ exchange ∈ history, exchange.answer = answers exchange.question) :
    result = program.answered answers := by
  induction ran with
  | done result => rfl
  | @ask question next answer _ _ later ih =>
      obtain ⟨isAnswer, rest⟩ := List.forall_mem_cons.mp each
      change answer = answers question at isAnswer
      rw [ih rest, isAnswer]
      rfl

/-- What answers, knowing what it was asked and answered before. -/
abbrev Surroundings (Answer : Question → Type) :=
  List (Exchange Answer) → ∀ question, Answer question

/-- The run against the surroundings, after what they have seen. -/
def play (surroundings : Surroundings Answer) :
    List (Exchange Answer) → Asking Question Answer Result →
      List (Exchange Answer) × Result
  | _, .done result => ([], result)
  | seen, .ask question next =>
      let exchange := ⟨question, surroundings seen question⟩
      let rest :=
        play surroundings (seen ++ [exchange])
          (next (surroundings seen question))
      (exchange :: rest.1, rest.2)

theorem runs_play (surroundings : Surroundings Answer)
    (seen : List (Exchange Answer)) (program : Asking Question Answer Result) :
    Runs program (play surroundings seen program).1
      (play surroundings seen program).2 := by
  induction program generalizing seen with
  | done result => exact .done result
  | ask question next ih => exact .ask _ (ih _ _)

theorem answer_of_mem_play {surroundings : Surroundings Answer}
    {seen : List (Exchange Answer)} {exchange : Exchange Answer}
    (member : exchange ∈ (play surroundings seen program).1) :
    ∃ before,
      exchange =
        ⟨exchange.question, surroundings before exchange.question⟩ := by
  induction program generalizing seen with
  | done result => cases member
  | ask question next ih =>
      cases member with
      | head => exact ⟨seen, rfl⟩
      | tail _ later => exact ih _ later

/-- Every question is in order after what was asked and answered before, and
so is the result in the end. -/
def Guards (allowed : List (Exchange Answer) → Question → Prop)
    (fitting : List (Exchange Answer) → Result → Prop) :
    List (Exchange Answer) → Asking Question Answer Result → Prop
  | seen, .done result => fitting seen result
  | seen, .ask question next =>
      allowed seen question ∧
        ∀ answer,
          Guards allowed fitting (seen ++ [⟨question, answer⟩]) (next answer)

section Guards

variable {allowed : List (Exchange Answer) → Question → Prop}
  {fitting : List (Exchange Answer) → Result → Prop}

theorem Guards.mono {other : List (Exchange Answer) → Result → Prop}
    (guards : Guards allowed fitting seen program)
    (weaker : ∀ seen result, fitting seen result → other seen result) :
    Guards allowed other seen program := by
  induction program generalizing seen with
  | done result => exact weaker seen result guards
  | ask question next ih =>
      exact ⟨guards.1, fun answer => ih answer (guards.2 answer)⟩

/-- The judgement on a question, read off a run. -/
theorem allowed_of_guards (guards : Guards allowed fitting seen program)
    (ran : Runs program history result) {before after : List (Exchange Answer)}
    {exchange : Exchange Answer}
    (split : history = before ++ exchange :: after) :
    allowed (seen ++ before) exchange.question := by
  induction ran generalizing seen before with
  | done given => cases before <;> cases split
  | @ask question more answer later final ran ih =>
      cases before with
      | nil =>
          cases split
          rw [List.append_nil]
          exact guards.1
      | cons head rest =>
          cases split
          have tail := ih (guards.2 answer) rfl
          rw [List.append_assoc] at tail
          exact tail

theorem fitting_of_guards (guards : Guards allowed fitting seen program)
    (ran : Runs program history result) : fitting (seen ++ history) result := by
  induction ran generalizing seen with
  | done given =>
      rw [List.append_nil]
      exact guards
  | @ask question more answer later final ran ih =>
      have tail := ih (guards.2 answer)
      rw [List.append_assoc] at tail
      exact tail

end Guards

section Alike

variable {Mask Sight View : Type}

/-- The programs ask what looks the same and come to results that look the
same, as long as the answers look the same. -/
inductive Alike
    (mask : Question → Mask) (sight : Exchange Answer → Sight)
    (look : Result → View) :
    Asking Question Answer Result → Asking Question Answer Result → Prop
  | done {left right : Result} (same : look left = look right) :
      Alike mask sight look (.done left) (.done right)
  | ask {question other : Question}
      {left : Answer question → Asking Question Answer Result}
      {right : Answer other → Asking Question Answer Result}
      (asks : mask question = mask other)
      (goesOn :
        ∀ first second,
          sight ⟨question, first⟩ = sight ⟨other, second⟩ →
          Alike mask sight look (left first) (right second)) :
      Alike mask sight look (.ask question left) (.ask other right)

/-- After what looks the same, the surroundings answer questions that look the
same by answers that look the same. -/
def Likewise (mask : Question → Mask) (sight : Exchange Answer → Sight)
    (left right : Surroundings Answer) : Prop :=
  ∀ seen known question other,
    seen.map sight = known.map sight → mask question = mask other →
    sight ⟨question, left seen question⟩ = sight ⟨other, right known other⟩

variable {mask : Question → Mask} {sight : Exchange Answer → Sight}
  {look : Result → View}

theorem sight_eq_of_alike {left right : Asking Question Answer Result}
    (alike : Alike mask sight look left right)
    {first second : Surroundings Answer}
    (likewise : Likewise mask sight first second)
    {seen known : List (Exchange Answer)}
    (same : seen.map sight = known.map sight) :
    (play first seen left).1.map sight =
        (play second known right).1.map sight ∧
      look (play first seen left).2 = look (play second known right).2 := by
  induction alike generalizing seen known with
  | done isSame => exact ⟨rfl, isSame⟩
  | @ask question other left right asks _ ih =>
      have answers := likewise seen known question other same asks
      have after :
          List.map sight (seen ++ [⟨question, first seen question⟩]) =
            List.map sight (known ++ [⟨other, second known other⟩]) := by
        rw [List.map_append, List.map_append, same, List.map_singleton,
          List.map_singleton, answers]
      obtain ⟨sights, looks⟩ := ih _ _ answers after
      refine ⟨?_, looks⟩
      rw [play, play, List.map_cons, List.map_cons, answers, sights]

end Alike

end Asking

end TicketWave.Library
