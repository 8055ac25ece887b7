import Mathlib.Logic.Basic

/-!
# Runs of a partial step function

How an invariant is carried from single steps to whole runs; `EveryStep`
restricts a run by a condition on each of its steps.
-/

namespace TicketWave.Library

universe u v

variable {State : Type u} {Label : Type v}

/-- Perform the labels in order, refusing as soon as one label is refused. -/
def run (step : State → Label → Option State) :
    State → List Label → Option State
  | state, [] => some state
  | state, label :: rest =>
      (step state label).bind fun next => run step next rest

/-- Every step of the run meets `allowed` in the state before it. -/
def EveryStep (step : State → Label → Option State)
    (allowed : State → Label → Prop) :
    State → List Label → Prop
  | _, [] => True
  | state, label :: rest =>
      allowed state label ∧
        ∀ next, step state label = some next → EveryStep step allowed next rest

variable {step : State → Label → Option State}

instance EveryStep.decidable
    {allowed : State → Label → Prop}
    [∀ state label, Decidable (allowed state label)] :
    ∀ state labels, Decidable (EveryStep step allowed state labels)
  | _, [] => isTrue trivial
  | state, label :: rest =>
      match stepped : step state label with
      | none =>
          decidable_of_iff (allowed state label)
            (by simp [EveryStep, stepped])
      | some next =>
          have : Decidable (EveryStep step allowed next rest) :=
            EveryStep.decidable next rest
          decidable_of_iff
            (allowed state label ∧ EveryStep step allowed next rest)
            (by simp [EveryStep, stepped])

theorem run_cons_eq_some_iff
    {state final : State} {label : Label} {rest : List Label} :
    run step state (label :: rest) = some final ↔
      ∃ next, step state label = some next ∧
        run step next rest = some final := by
  simp only [run, Option.bind_eq_some_iff]

theorem run_append (state : State) (first second : List Label) :
    run step state (first ++ second) =
      (run step state first).bind fun middle => run step middle second := by
  induction first generalizing state with
  | nil => rfl
  | cons label rest ih =>
      rw [List.cons_append, run, run, Option.bind_assoc]
      congr 1
      funext next
      exact ih next

/-- A loop whose body may fail is a run of its body. -/
theorem foldlM_eq_run (state : State) (labels : List Label) :
    labels.foldlM step state = run step state labels := by
  induction labels generalizing state with
  | nil => rfl
  | cons label rest ih =>
      rw [List.foldlM_cons, run]
      congr 1
      funext next
      exact ih next

variable {allowed : State → Label → Prop}

/-- An invariant kept by every step that meets the restriction holds at the
end of every restricted run. -/
theorem invariant_of_restricted_run {invariant : State → Prop}
    (preserved :
      ∀ {state next : State} {label : Label},
        invariant state → allowed state label →
          step state label = some next → invariant next) {state final : State}
    {labels : List Label} (initially : invariant state)
    (restricted : EveryStep step allowed state labels)
    (ran : run step state labels = some final) : invariant final := by
  induction labels generalizing state with
  | nil =>
      cases ran
      exact initially
  | cons label rest ih =>
      obtain ⟨next, stepped, ranRest⟩ := run_cons_eq_some_iff.mp ran
      exact ih
        (preserved initially restricted.1 stepped)
        (restricted.2 next stepped) ranRest

/-- If the restriction and the invariant let every step go through, so does
the run. -/
theorem exists_run_of_restricted {invariant : State → Prop}
    (preserved :
      ∀ {state next : State} {label : Label},
        invariant state → allowed state label →
          step state label = some next → invariant next)
    (total :
      ∀ {state : State} {label : Label},
        invariant state → allowed state label →
          ∃ next, step state label = some next) {state : State}
    {labels : List Label} (initially : invariant state)
    (restricted : EveryStep step allowed state labels) :
    ∃ final, run step state labels = some final ∧ invariant final := by
  induction labels generalizing state with
  | nil => exact ⟨state, rfl, initially⟩
  | cons label rest ih =>
      obtain ⟨next, stepped⟩ := total initially restricted.1
      obtain ⟨final, ran, finally_⟩ :=
        ih (preserved initially restricted.1 stepped)
          (restricted.2 next stepped)
      exact ⟨final, run_cons_eq_some_iff.mpr ⟨next, stepped, ran⟩, finally_⟩

theorem everyStep_of_forall (always : ∀ state label, allowed state label)
    (state : State) (labels : List Label) :
    EveryStep step allowed state labels := by
  induction labels generalizing state with
  | nil => trivial
  | cons label rest ih => exact ⟨always state label, fun next _ => ih next⟩

theorem everyStep_of_mem {allowed : Label → Prop} {labels : List Label}
    (each : ∀ label ∈ labels, allowed label) (state : State) :
    EveryStep step (fun _ label => allowed label) state labels := by
  induction labels generalizing state with
  | nil => trivial
  | cons label rest ih =>
      have laterAllowed : ∀ later ∈ rest, allowed later :=
        fun later member => each later (List.mem_cons_of_mem label member)
      exact ⟨each label List.mem_cons_self, fun next _ => ih laterAllowed next⟩

theorem everyStep_and {first second : State → Label → Prop} {state : State}
    {labels : List Label} (left : EveryStep step first state labels)
    (right : EveryStep step second state labels) :
    EveryStep step (fun state label => first state label ∧ second state label)
      state labels := by
  induction labels generalizing state with
  | nil => trivial
  | cons label rest ih =>
      exact ⟨⟨left.1, right.1⟩, fun next stepped =>
        ih (left.2 next stepped) (right.2 next stepped)⟩

/-- Along a restricted run, what the invariant and the restriction give at
each step. -/
theorem everyStep_of_invariant
    {allowed holds : State → Label → Prop} {invariant : State → Prop}
    (preserved :
      ∀ {state next : State} {label : Label},
        invariant state → allowed state label →
          step state label = some next → invariant next)
    (gives :
      ∀ {state : State} {label : Label},
        invariant state → allowed state label → holds state label)
    {state : State} {labels : List Label} (initially : invariant state)
    (restricted : EveryStep step allowed state labels) :
    EveryStep step holds state labels := by
  induction labels generalizing state with
  | nil => trivial
  | cons label rest ih =>
      refine ⟨gives initially restricted.1, ?_⟩
      intro next stepped
      exact ih (preserved initially restricted.1 stepped)
        (restricted.2 next stepped)

theorem invariant_of_run {invariant : State → Prop}
    (preserved :
      ∀ {state next : State} {label : Label},
        invariant state → step state label = some next → invariant next)
    {state final : State} {labels : List Label} (initially : invariant state)
    (ran : run step state labels = some final) : invariant final :=
  invariant_of_restricted_run
    (fun held _ stepped => preserved held stepped) initially
    (everyStep_of_forall (fun _ _ => trivial) state labels) ran

/-- Where each step of one machine is a run of another, so is each of its
runs. -/
theorem exists_run_of_simulation {Other Deed : Type*}
    {act : Other → Deed → Option Other} {related : State → Other → Prop}
    (simulates :
      ∀ {state : State} {other next : Other} {deed : Deed},
        related state other → act other deed = some next →
          ∃ labels final,
            run step state labels = some final ∧ related final next)
    {state : State} {other final : Other} {deeds : List Deed}
    (initially : related state other) (ran : run act other deeds = some final) :
    ∃ labels last, run step state labels = some last ∧ related last final := by
  induction deeds generalizing state other with
  | nil =>
      cases ran
      exact ⟨[], state, rfl, initially⟩
  | cons deed rest ih =>
      obtain ⟨next, acted, ranRest⟩ := run_cons_eq_some_iff.mp ran
      obtain ⟨first, middle, ranFirst, still⟩ := simulates initially acted
      obtain ⟨second, last, ranSecond, holds⟩ := ih still ranRest
      refine ⟨first ++ second, last, ?_, holds⟩
      rw [run_append, ranFirst]
      exact ranSecond

end TicketWave.Library
