import TicketWave.Auth.Rotation

/-!
# Theft detection

Whether a revoked token that is presented leaves no token of the user alive,
and whether this happens only when a token is used again.
-/

namespace TicketWave.Auth

open Library

variable {deps : Deps} {state next : State} {label : Label}

/-- The mass `UPDATE` of the call is for this user and not yet committed. -/
def Call.sweeps (call : Call) (user : UUID) : Bool :=
  match call.stage with
  | .revokingAll _ => call.found.any fun row => decide (row.userId = user)
  | _ => false

/-- The user whose new token the step commits. -/
def State.gainer (deps : Deps) (state : State) : Label → Option UUID
  | .login req _ _ _ outcome =>
      if outcome = .failed then none
      else (deps.authenticate state.db req).toOption.map UserRow.id
  | .commit id outcome =>
      if outcome = .failed then none
      else
        match (state.calls.get id).map Call.stage with
        | some (.committing user _) => some user.id
        | _ => none
  | _ => none

/-- The step commits no token of a user whose tokens are being revoked. -/
def Undisturbed (deps : Deps) (state : State) (label : Label) : Prop :=
  ∀ user ∈ state.gainer deps label,
    state.calls.any (fun call => call.sweeps user) = false

instance (deps : Deps) (state : State) (label : Label) :
    Decidable (Undisturbed deps state label) :=
  inferInstanceAs (Decidable (∀ user ∈ state.gainer deps label, _))

/-- A mass `UPDATE` has each row of its user behind it or before it. -/
def Covered (state : State) : Prop :=
  ∀ {id : Nat} {token : String} {read : TokenRow}
    {updated pending : List UUID},
    state.calls.get id =
      some ⟨token, some read, updated, .revokingAll pending⟩ →
    ∀ row ∈ state.db.refreshTokens, row.userId = read.userId →
      row.id ∈ pending ∨ row.id ∈ updated

theorem mem_of_mem_revokeRows {ids : List UUID} {rows : List TokenRow}
    {row : TokenRow} (member : row ∈ revokeRows ids rows) :
    ∃ old ∈ rows, old.id = row.id ∧ old.userId = row.userId ∧
      old.tokenHash = row.tokenHash ∧
      (old.id ∈ ids → row.revoked = true) ∧
      (old.id ∉ ids → row.revoked = old.revoked) := by
  obtain ⟨old, stored, rfl⟩ := mem_revokeRows.mp member
  by_cases touched : old.id ∈ ids
  · rw [if_pos touched]
    exact ⟨old, stored, rfl, rfl, rfl, fun _ => rfl,
      fun untouched => absurd touched untouched⟩
  · rw [if_neg touched]
    exact
      ⟨old, stored, rfl, rfl, rfl, fun isTouched => absurd isTouched touched,
        fun _ => rfl⟩

theorem row_of_transition (sound : Sound deps state)
    (transition : Transition deps state label next) {row : TokenRow}
    (stored : row ∈ next.db.refreshTokens) :
    (∃ old ∈ state.db.refreshTokens,
        old.id = row.id ∧ old.userId = row.userId) ∨
      state.gainer deps label = some row.userId := by
  have revoked :
      ∀ {ids : List UUID}, row ∈ revokeRows ids state.db.refreshTokens →
        ∃ old ∈ state.db.refreshTokens,
          old.id = row.id ∧ old.userId = row.userId := by
    intro ids member
    obtain ⟨old, oldStored, sameId, sameUser, _⟩ := mem_of_mem_revokeRows member
    exact ⟨old, oldStored, sameId, sameUser⟩
  cases transition with
  | loggedIn authentic committed isFresh =>
      rcases List.mem_append.mp stored with isOld | isNew
      · exact Or.inl ⟨row, isOld, rfl, rfl⟩
      · rw [List.mem_singleton.mp isNew]
        refine Or.inr ?_
        rw [State.gainer, if_neg committed, authentic]
        rfl
  | loggedOut found free => exact Or.inl (revoked stored)
  | revoked running committed => exact Or.inl (revoked stored)
  | exchanged running committed =>
      rcases List.mem_append.mp stored with isOld | isNew
      · exact Or.inl (revoked isOld)
      · obtain ⟨_, _, _, _, _, _, _, _, rfl⟩ :=
          alive_of_committing sound running
        rw [List.mem_singleton.mp isNew]
        refine Or.inr ?_
        rw [State.gainer, if_neg committed, running]
        rfl
  | _ => exact Or.inl ⟨row, stored, rfl, rfl⟩

theorem sweep_of_transition (transition : Transition deps state label next)
    {id : Nat} {token : String} {read : TokenRow} {updated pending : List UUID}
    (running :
      next.calls.get id =
        some ⟨token, some read, updated, .revokingAll pending⟩) :
    (pending = state.rowsOf read.userId ∧
        next.db.refreshTokens = state.db.refreshTokens) ∨
      ∃ earlier left,
        state.calls.get id =
          some ⟨token, some read, earlier, .revokingAll left⟩ ∧
        (∀ row ∈ earlier, row ∈ updated) ∧
        ∀ row ∈ left, row ∈ pending ∨ row ∈ updated := by
  have same :
      state.calls.get id =
          some ⟨token, some read, updated, .revokingAll pending⟩ →
        ∃ earlier left,
          state.calls.get id =
            some ⟨token, some read, earlier, .revokingAll left⟩ ∧
          (∀ row ∈ earlier, row ∈ updated) ∧
          ∀ row ∈ left, row ∈ pending ∨ row ∈ updated :=
    fun stored =>
      ⟨updated, pending, stored, fun _ member => member,
        fun _ member => Or.inl member⟩
  cases transition with
  | began =>
      rcases Registry.cases_of_get_launch running with ⟨_, isNew⟩ | stored
      · cases isNew
      · exact Or.inr (same stored)
  | moved acting moves =>
      rcases Registry.cases_of_get_put running with
        ⟨rfl, isNew⟩ | ⟨_, stored⟩
      · cases moves with
        | snapshot =>
            cases isNew
            exact Or.inl ⟨rfl, rfl⟩
        | @reached _ target _ _ earlier left isPending free =>
            cases isNew
            refine Or.inr
              ⟨earlier, left, acting,
                fun row member => List.mem_cons_of_mem target member, ?_⟩
            intro row member
            by_cases isTarget : row = target
            · rw [isTarget]
              exact Or.inr List.mem_cons_self
            · exact Or.inl
                (List.mem_filter.mpr ⟨member, decide_eq_true isTarget⟩)
        | _ => cases congrArg Call.stage isNew
      · exact Or.inr (same stored)
  | revoked acting committed =>
      rcases Registry.cases_of_get_put running with
        ⟨rfl, isNew⟩ | ⟨_, stored⟩
      · cases isNew
      · exact Or.inr (same stored)
  | exchanged acting committed =>
      rcases Registry.cases_of_get_put running with
        ⟨rfl, isNew⟩ | ⟨_, stored⟩
      · cases isNew
      · exact Or.inr (same stored)
  | _ => exact Or.inr (same running)

theorem covered_of_transition (sound : Sound deps state)
    (covered : Covered state) (undisturbed : Undisturbed deps state label)
    (transition : Transition deps state label next) : Covered next := by
  intro id token read updated pending running row stored isOurs
  rcases sweep_of_transition transition running with
    ⟨rfl, sameRows⟩ | ⟨earlier, left, before, kept, passed⟩
  · rw [sameRows] at stored
    have isRow : row.id ∈ state.rowsOf read.userId :=
      List.mem_map_of_mem
        (List.mem_filter.mpr ⟨stored, decide_eq_true isOurs⟩)
    exact Or.inl isRow
  · rcases row_of_transition sound transition stored with
      ⟨old, oldStored, sameId, sameUser⟩ | gained
    · rw [← sameId]
      rcases covered before old oldStored (sameUser.trans isOurs) with
        isLeft | isDone
      · exact passed old.id isLeft
      · exact Or.inr (kept old.id isDone)
    · have noSweep := undisturbed row.userId gained
      have sweeping :=
        Registry.test_of_not_any (Bool.eq_false_iff.mp noSweep) before
      simp [Call.sweeps, isOurs] at sweeping

/-- When a call that was presented a revoked token has committed, every token
of its user is revoked, if no token of a user was committed in the run while a
mass `UPDATE` for the user was under way. -/
theorem theft_ends_every_session {labels : List Label} {id : Nat}
    {outcome : Outcome} {call : Call} {presented : TokenRow}
    (undisturbed : EveryStep (step deps) (Undisturbed deps) State.empty labels)
    (ran : run (step deps) State.empty labels = some state)
    (running : state.calls.get id = some call)
    (found : call.found = some presented) (reused : presented.revoked = true)
    (committed : outcome ≠ .failed)
    (stepped : step deps state (.commit id outcome) = some next) :
    ∀ row ∈ next.db.refreshTokens, row.userId = presented.userId →
      row.revoked = true := by
  have preserved :
      ∀ {before after : State} {label : Label},
        Sound deps before ∧ Covered before → Undisturbed deps before label →
        step deps before label = some after →
          Sound deps after ∧ Covered after := by
    rintro before after label ⟨sound, covered⟩ allowed moved
    have transition := transition_of_step moved
    exact ⟨sound_of_transition sound transition,
      covered_of_transition sound covered allowed transition⟩
  have initially : Covered State.empty := nofun
  obtain ⟨sound, covered⟩ :=
    invariant_of_restricted_run preserved ⟨sound_empty, initially⟩
      undisturbed ran
  intro row stored isOurs
  cases transition_of_step stepped with
  | nothing atomic => exact absurd rfl (atomic id)
  | moved acting moves =>
      cases moves with
      | uncommitted isOpen => exact absurd rfl committed
  | @revoked _ _ token read updated acting _ =>
      rw [running] at acting
      cases acting
      cases found
      obtain ⟨old, oldStored, sameId, sameUser, _, touched, _⟩ :=
        mem_of_mem_revokeRows stored
      rcases covered running old oldStored (sameUser.trans isOurs) with
        isPending | isUpdated
      · cases isPending
      · exact touched isUpdated
  | exchanged acting _ =>
      rw [running] at acting
      cases acting
      cases found
      have isAlive := (alive_of_committing sound running).2.1
      rw [reused] at isAlive
      cases isAlive

/-- The user has two devices; one of them exchanges its token. -/
def twoDeviceLabels : List Label :=
  [.register ann "bcrypt:correct horse" 1] ++ signInLabels 10 "one" ++
    signInLabels 20 "other" ++ [.refresh "one"] ++ rotateLabels 0 11 "two" ++
    [.commit 0 .done]

-- The token of the first device is used again.
private def reuseLabels : List Label :=
  twoDeviceLabels ++
    [.refresh "one", .select 1 2, .revokeAll 1, .revokeRow 1 20,
      .revokeRow 1 10, .revokeRow 1 11]

theorem theft_ends_every_session_on_two_devices :
    ∃ (state next : State) (presented : TokenRow),
      run (step sampleDeps) State.empty reuseLabels = some state ∧
        step sampleDeps state (.commit 1 .done) = some next ∧
        (next.db.refreshTokens.map TokenRow.tokenHash =
          ["sha256:one", "sha256:other", "sha256:two"]) ∧
        ∀ row ∈ next.db.refreshTokens, row.userId = presented.userId →
          row.revoked = true := by
  have ends :
      (run (step sampleDeps) State.empty reuseLabels).any
        (fun state =>
          (state.calls.get 1).any (fun call => call.reuse) &&
            (step sampleDeps state (.commit 1 .done)).any fun next =>
              decide
                (next.db.refreshTokens.map TokenRow.tokenHash =
                  ["sha256:one", "sha256:other", "sha256:two"])) = true := by
    decide +kernel
  obtain ⟨state, ran, checked⟩ := (Option.any_eq_true _ _).mp ends
  obtain ⟨someCall, someNext⟩ := Bool.and_eq_true_iff.mp checked
  obtain ⟨call, running, isReuse⟩ := (Option.any_eq_true _ _).mp someCall
  obtain ⟨presented, found, reused⟩ := (Option.any_eq_true _ _).mp isReuse
  obtain ⟨next, stepped, isTable⟩ := (Option.any_eq_true _ _).mp someNext
  exact ⟨state, next, presented, ran, stepped, of_decide_eq_true isTable,
    theft_ends_every_session (by decide +kernel) ran running found reused
      (by decide) stepped⟩

-- While the second device is about to commit its new token, the token of the
-- first device is used again.  The mass `UPDATE` has begun and waits for the
-- row of the second device.
private def overlappingLabels : List Label :=
  twoDeviceLabels ++
    [.refresh "other"] ++ rotateLabels 1 21 "another" ++
    [.refresh "one", .select 2 2, .revokeAll 2, .revokeRow 2 10,
      .revokeRow 2 11, .commit 1 .done, .revokeRow 2 20]

theorem token_survives_the_mass_revocation :
    ∃ (state next : State) (call : Call) (presented row : TokenRow),
      run (step sampleDeps) State.empty overlappingLabels = some state ∧
        state.calls.get 2 = some call ∧ call.found = some presented ∧
        presented.revoked = true ∧
        step sampleDeps state (.commit 2 .done) = some next ∧
        row ∈ state.db.refreshTokens ∧ row ∈ next.db.refreshTokens ∧
        row.userId = presented.userId ∧ row.revoked = false := by
  have ends :
      (run (step sampleDeps) State.empty overlappingLabels).any
        (fun state =>
          (state.calls.get 2).any fun call =>
            call.found.any fun presented =>
              presented.revoked &&
                (step sampleDeps state (.commit 2 .done)).any fun next =>
                  state.db.refreshTokens.any fun row =>
                    decide
                      (row ∈ next.db.refreshTokens ∧
                        row.userId = presented.userId ∧
                        row.revoked = false)) = true := by
    decide +kernel
  obtain ⟨state, ran, someCall⟩ := (Option.any_eq_true _ _).mp ends
  obtain ⟨call, running, someRow⟩ := (Option.any_eq_true _ _).mp someCall
  obtain ⟨presented, found, checked⟩ := (Option.any_eq_true _ _).mp someRow
  obtain ⟨reused, someNext⟩ := Bool.and_eq_true_iff.mp checked
  obtain ⟨next, stepped, survives⟩ := (Option.any_eq_true _ _).mp someNext
  obtain ⟨row, stored, isAlive⟩ := List.any_eq_true.mp survives
  obtain ⟨kept, isOurs, alive⟩ := of_decide_eq_true isAlive
  exact
    ⟨state, next, call, presented, row, ran, running, found, reused, stepped,
      stored, kept, isOurs, alive⟩

/-- The event revoked the token, and not by an exchange. -/
def Event.ends (event : Event) (hash : String) : Bool :=
  match event with
  | .loggedOut other => decide (other = hash)
  | .revokedAll _ hashes => decide (hash ∈ hashes)
  | .loggedIn _ | .exchanged _ _ _ => false

def Call.succeeded (call : Call) : Bool :=
  match call.stage with
  | .returned (.ok _) => true
  | _ => false

/-- The event is an exchange of the token by a call that did not succeed. -/
def State.unanswered (state : State) (event : Event) (hash : String) : Bool :=
  match event with
  | .exchanged id old _ =>
      decide (old = hash) && !((state.calls.get id).any Call.succeeded)
  | .loggedIn _ | .loggedOut _ | .revokedAll _ _ => false

/-- The token that the step looks up was not revoked by a logout, by a mass
revocation or by an exchange without an answer. -/
def Unspoiled (deps : Deps) (state : State) (label : Label) : Prop :=
  match label with
  | .select id _ =>
      ∀ call ∈ state.calls.get id, ∀ event ∈ state.history,
        event.ends (deps.hashToken call.token) = false ∧
          state.unanswered event (deps.hashToken call.token) = false
  | _ => True

instance (deps : Deps) (state : State) (label : Label) :
    Decidable (Unspoiled deps state label) :=
  match label with
  | .select id _ =>
      inferInstanceAs
        (Decidable
          (∀ call ∈ state.calls.get id, ∀ event ∈ state.history,
            event.ends (deps.hashToken call.token) = false ∧
              state.unanswered event (deps.hashToken call.token) = false))
  | .register _ _ _ | .login _ _ _ _ _ | .logout _ _ | .refresh _
  | .revokeAll _ | .revokeRow _ _ | .rotate _ | .readUser _
  | .issue _ _ _ _ | .commit _ _ | .abort _ _ => isTrue trivial

/-- A call with the token has succeeded. -/
def Used (deps : Deps) (state : State) (hash : String) : Prop :=
  ∃ id call response, state.calls.get id = some call ∧
    call.stage = .returned (.ok response) ∧
    deps.hashToken call.token = hash

/-- Something in the history has revoked the token. -/
def Caused (state : State) (hash : String) : Prop :=
  (∃ event ∈ state.history, event.ends hash = true) ∨
    ∃ new, Exchanged state hash new

structure Explained (deps : Deps) (state : State) : Prop where
  rotated : Rotated deps state
  caused :
    ∀ row ∈ state.db.refreshTokens, row.revoked = true →
      Caused state row.tokenHash
  caller :
    ∀ {id old new}, .exchanged id old new ∈ state.history →
      ∃ call, state.calls.get id = some call ∧ call.isOpen = false ∧
        deps.hashToken call.token = old
  reused :
    ∀ {id call}, state.calls.get id = some call → call.isOpen = true →
      call.reuse = true → Used deps state (deps.hashToken call.token)

theorem explained_empty : Explained deps State.empty where
  rotated := rotated_empty
  caused := nofun
  caller := nofun
  reused := nofun

theorem Caused.of_transition {hash : String} (caused : Caused state hash)
    (transition : Transition deps state label next) : Caused next hash := by
  rcases caused with ⟨event, member, ends⟩ | ⟨new, call, member⟩
  · exact Or.inl ⟨event, history_of_transition transition member, ends⟩
  · exact Or.inr ⟨new, call, history_of_transition transition member⟩

theorem Used.of_transition {hash : String} (used : Used deps state hash)
    (transition : Transition deps state label next) : Used deps next hash := by
  obtain ⟨id, call, response, found, succeeded, isToken⟩ := used
  have isOver : call.isOpen = false := by
    rw [Call.isOpen, succeeded]
  exact ⟨id, call, response, returned_of_transition transition found isOver,
    succeeded, isToken⟩

theorem cause_of_transition (rotated : Rotated deps state)
    (transition : Transition deps state label next) {row : TokenRow}
    (stored : row ∈ next.db.refreshTokens) (isRevoked : row.revoked = true) :
    (∃ old ∈ state.db.refreshTokens,
        old.tokenHash = row.tokenHash ∧ old.revoked = true) ∨
      Caused next row.tokenHash := by
  have sound := rotated.sound
  have written :
      ∀ {ids : List UUID}, row ∈ revokeRows ids state.db.refreshTokens →
        (∃ old ∈ state.db.refreshTokens,
            old.tokenHash = row.tokenHash ∧ old.revoked = true) ∨
          ∃ old ∈ state.db.refreshTokens,
            old.tokenHash = row.tokenHash ∧ old.revoked = false ∧
              old.id ∈ ids := by
    intro ids member
    obtain ⟨old, oldStored, _, _, sameHash, _, untouched⟩ :=
      mem_of_mem_revokeRows member
    cases wasRevoked : old.revoked with
    | true => exact Or.inl ⟨old, oldStored, sameHash, wasRevoked⟩
    | false =>
        by_cases touched : old.id ∈ ids
        · exact Or.inr ⟨old, oldStored, sameHash, wasRevoked, touched⟩
        · rw [untouched touched, wasRevoked] at isRevoked
          cases isRevoked
  cases transition with
  | loggedIn authentic committed isFresh =>
      rcases List.mem_append.mp stored with isOld | isNew
      · exact Or.inl ⟨row, isOld, rfl, isRevoked⟩
      · rw [List.mem_singleton.mp isNew] at isRevoked
        cases isRevoked
  | @loggedOut token outcome target found free =>
      rcases written stored with before | ⟨old, oldStored, same, alive, isIn⟩
      · exact Or.inl before
      · have isTarget : old = target :=
          row_unique sound.ids oldStored (mem_of_lookup found)
            (List.mem_singleton.mp isIn)
        rw [isTarget] at same alive
        refine Or.inr (Or.inl ⟨.loggedOut target.tokenHash, ?_, ?_⟩)
        · apply List.mem_append_left
          simp [alive]
        · exact decide_eq_true same
  | @revoked id outcome token read updated running committed =>
      rcases written stored with before | ⟨old, oldStored, same, alive, isIn⟩
      · exact Or.inl before
      · have wasAlive : old.tokenHash ∈ state.aliveAmong updated := by
          apply List.mem_map_of_mem
          exact List.mem_filter.mpr ⟨oldStored, by simp [isIn, alive]⟩
        rw [same] at wasAlive
        exact Or.inr (Or.inl ⟨_, List.mem_cons_self, decide_eq_true wasAlive⟩)
  | @exchanged id outcome token read updated user issued running committed =>
      obtain ⟨readStored, _, _, rfl, _, _, _, _, rfl⟩ :=
        alive_of_committing sound running
      rcases List.mem_append.mp stored with isOld | isNew
      · rcases written isOld with before | ⟨old, oldStored, same, _, isIn⟩
        · exact Or.inl before
        · have isRead : old = read :=
            row_unique sound.ids oldStored readStored
              (List.mem_singleton.mp isIn)
          rw [isRead] at same
          rw [← same]
          exact Or.inr (Or.inr ⟨_, id, List.mem_cons_self⟩)
      · rw [List.mem_singleton.mp isNew] at isRevoked
        cases isRevoked
  | _ => exact Or.inl ⟨row, stored, rfl, isRevoked⟩

theorem reuse_of_moves {id : Nat} {call after : Call}
    (moves : Moves deps state label id call after)
    (isOpen : after.isOpen = true) (reuse : after.reuse = true) :
    after.token = call.token ∧
      (call.isOpen = true ∧ call.reuse = true ∨
        ∃ now row, label = .select id now ∧
          state.db.token (deps.hashToken call.token) = some row ∧
          row.revoked = true) := by
  cases moves with
  | missed absent => cases isOpen
  | reused stored free isRevoked =>
      exact ⟨rfl, Or.inr ⟨_, _, rfl, stored, isRevoked⟩⟩
  | expired stored isAlive => cases isOpen
  | accepted stored free isAlive =>
      rw [Call.reuse, Option.any_some, isAlive] at reuse
      cases reuse
  | orphaned => cases isOpen
  | aborted wasOpen => cases isOpen
  | uncommitted wasOpen => cases isOpen
  | _ => exact ⟨rfl, Or.inl ⟨rfl, reuse⟩⟩

/-- A revoked token that nothing else has ended was used. -/
theorem used_of_unspoiled (explained : Explained deps state) {row : TokenRow}
    (stored : row ∈ state.db.refreshTokens) (isRevoked : row.revoked = true)
    (unspoiled :
      ∀ event ∈ state.history,
        event.ends row.tokenHash = false ∧
          state.unanswered event row.tokenHash = false) :
    Used deps state row.tokenHash := by
  rcases explained.caused row stored isRevoked with
    ⟨event, member, ends⟩ | ⟨new, id, member⟩
  · rw [(unspoiled event member).1] at ends
    cases ends
  · obtain ⟨call, found, _, isToken⟩ := explained.caller member
    have answered := (unspoiled _ member).2
    simp only [State.unanswered, found, decide_true, Bool.true_and,
      Option.any_some, Bool.not_eq_false'] at answered
    unfold Call.succeeded at answered
    split at answered
    · rename_i response succeeded
      exact ⟨id, call, response, found, succeeded, isToken⟩
    · cases answered

theorem reused_of_transition (explained : Explained deps state)
    (unspoiled : Unspoiled deps state label)
    (transition : Transition deps state label next) {id : Nat} {call : Call}
    (found : next.calls.get id = some call) (isOpen : call.isOpen = true)
    (reuse : call.reuse = true) :
    Used deps state (deps.hashToken call.token) := by
  cases transition with
  | began =>
      rcases Registry.cases_of_get_launch found with ⟨_, rfl⟩ | stored
      · cases reuse
      · exact explained.reused stored isOpen reuse
  | moved running moves =>
      rcases Registry.cases_of_get_put found with ⟨_, rfl⟩ | ⟨_, stored⟩
      · obtain ⟨sameToken, cases⟩ := reuse_of_moves moves isOpen reuse
        rw [sameToken]
        rcases cases with ⟨wasOpen, before⟩ | ⟨now, row, rfl, hit, revoked⟩
        · exact explained.reused running wasOpen before
        · have isToken : row.tokenHash = deps.hashToken _ := key_of_lookup hit
          have clean := unspoiled _ running
          rw [← isToken] at clean ⊢
          exact used_of_unspoiled explained (mem_of_lookup hit) revoked clean
      · exact explained.reused stored isOpen reuse
  | revoked running committed =>
      rcases Registry.cases_of_get_put found with ⟨_, rfl⟩ | ⟨_, stored⟩
      · cases isOpen
      · exact explained.reused stored isOpen reuse
  | exchanged running committed =>
      rcases Registry.cases_of_get_put found with ⟨_, rfl⟩ | ⟨_, stored⟩
      · cases isOpen
      · exact explained.reused stored isOpen reuse
  | _ => exact explained.reused found isOpen reuse

theorem explained_of_transition (explained : Explained deps state)
    (unspoiled : Unspoiled deps state label)
    (transition : Transition deps state label next) : Explained deps next where
  rotated := rotated_of_transition explained.rotated transition
  caused := by
    intro row stored isRevoked
    rcases
      cause_of_transition explained.rotated transition stored isRevoked with
      ⟨old, oldStored, sameHash, wasRevoked⟩ | caused
    · rw [← sameHash]
      exact (explained.caused old oldStored wasRevoked).of_transition transition
    · exact caused
  caller := by
    intro id old new member
    rcases exchange_of_transition transition member with
      isOld | ⟨token, row, updated, user, issued, running, rfl, _, _, result,
        found⟩
    · obtain ⟨call, found, isOver, isToken⟩ := explained.caller isOld
      exact ⟨call, returned_of_transition transition found isOver, isOver,
        isToken⟩
    · obtain ⟨_, _, presented, _⟩ :=
        alive_of_committing explained.rotated.sound running
      exact ⟨_, found, rfl, presented.symm⟩
  reused := fun found isOpen reuse =>
    (reused_of_transition explained unspoiled transition found isOpen
      reuse).of_transition transition

/-- A call revokes a token other than its own only if a call with its token
has succeeded before, if no call looks up a token that a logout, a mass
revocation or an exchange without an answer has revoked. -/
theorem only_reuse_is_theft {labels : List Label} {id : Nat} {call : Call}
    {row kept : TokenRow}
    (unspoiled : EveryStep (step deps) (Unspoiled deps) State.empty labels)
    (ran : run (step deps) State.empty labels = some state)
    (running : state.calls.get id = some call)
    (stepped : step deps state label = some next) (advances : label.advances id)
    (stored : row ∈ state.db.refreshTokens)
    (keptStored : kept ∈ next.db.refreshTokens) (same : kept.id = row.id)
    (wasAlive : row.revoked = false) (isRevoked : kept.revoked = true)
    (other : row.tokenHash ≠ deps.hashToken call.token) :
    ∃ earlierId earlier response,
      state.calls.get earlierId = some earlier ∧
        earlier.stage = .returned (.ok response) ∧
        deps.hashToken earlier.token = deps.hashToken call.token := by
  have explained : Explained deps state :=
    invariant_of_restricted_run
      (fun held allowed moved =>
        explained_of_transition held allowed (transition_of_step moved))
      explained_empty unspoiled ran
  have sound := explained.rotated.sound
  have unchanged :
      next.db.refreshTokens = state.db.refreshTokens →
        Used deps state (deps.hashToken call.token) := by
    intro sameRows
    rw [sameRows] at keptStored
    rw [row_unique sound.ids keptStored stored same, wasAlive] at isRevoked
    cases isRevoked
  cases transition_of_step stepped with
  | nothing atomic => exact absurd advances (atomic id)
  | registered user => cases advances
  | loggedIn authentic committed isFresh => cases advances
  | loggedOut found free => cases advances
  | began => cases advances
  | moved acting moves => exact unchanged rfl
  | revoked acting committed =>
      cases advances
      rw [running] at acting
      cases acting
      obtain ⟨read, isRead, isReuse, _⟩ := sound.shaped running
      cases isRead
      exact explained.reused running rfl isReuse
  | @exchanged _ outcome token read updated user issued acting committed =>
      cases advances
      rw [running] at acting
      cases acting
      obtain ⟨readStored, _, presented, rfl, _, _, _, _, rfl⟩ :=
        alive_of_committing sound running
      rcases List.mem_append.mp keptStored with isOld | isNew
      · obtain ⟨old, oldStored, sameId, _, _, _, untouched⟩ :=
          mem_of_mem_revokeRows isOld
        have isRow : old = row :=
          row_unique sound.ids oldStored stored (sameId.trans same)
        rw [isRow] at untouched
        have notOwn : row.id ∉ [read.id] := by
          intro isIn
          have isOwn :=
            row_unique sound.ids stored readStored
              (List.mem_singleton.mp isIn)
          rw [isOwn] at other
          exact other presented
        rw [untouched notOwn, wasAlive] at isRevoked
        cases isRevoked
      · rw [List.mem_singleton.mp isNew] at isRevoked
        cases isRevoked

-- The token that was exchanged is used again and ends the session of the other
-- device.
private def stolenLabels : List Label :=
  twoDeviceLabels ++
    [.refresh "one", .select 1 2, .revokeAll 1, .revokeRow 1 10,
      .revokeRow 1 11, .revokeRow 1 20]

theorem only_reuse_is_theft_of_a_stolen_token :
    ∃ (state next : State) (row kept : TokenRow),
      run (step sampleDeps) State.empty stolenLabels = some state ∧
        step sampleDeps state (.commit 1 .done) = some next ∧
        row ∈ state.db.refreshTokens ∧ row.tokenHash = "sha256:other" ∧
        kept ∈ next.db.refreshTokens ∧ kept.id = row.id ∧
        row.revoked = false ∧ kept.revoked = true ∧
        ∃ earlierId earlier response,
          state.calls.get earlierId = some earlier ∧
            earlier.stage = .returned (.ok response) ∧
            sampleDeps.hashToken earlier.token =
              sampleDeps.hashToken "one" := by
  have ends :
      (run (step sampleDeps) State.empty stolenLabels).any
        (fun state =>
          (state.calls.get 1).any (fun call => decide (call.token = "one")) &&
            (step sampleDeps state (.commit 1 .done)).any fun next =>
              state.db.refreshTokens.any fun row =>
                next.db.refreshTokens.any fun kept =>
                  decide
                    (row.tokenHash = "sha256:other" ∧ kept.id = row.id ∧
                      row.revoked = false ∧ kept.revoked = true)) = true := by
    decide +kernel
  obtain ⟨state, ran, checked⟩ := (Option.any_eq_true _ _).mp ends
  obtain ⟨someCall, someNext⟩ := Bool.and_eq_true_iff.mp checked
  obtain ⟨call, running, isToken⟩ := (Option.any_eq_true _ _).mp someCall
  obtain ⟨next, stepped, someRow⟩ := (Option.any_eq_true _ _).mp someNext
  obtain ⟨row, stored, someKept⟩ := List.any_eq_true.mp someRow
  obtain ⟨kept, keptStored, facts⟩ := List.any_eq_true.mp someKept
  obtain ⟨isOther, same, wasAlive, isRevoked⟩ := of_decide_eq_true facts
  have token := of_decide_eq_true isToken
  have other : row.tokenHash ≠ sampleDeps.hashToken call.token := by
    rw [isOther, token]
    decide
  have used :=
    only_reuse_is_theft (by decide +kernel) ran running stepped rfl stored
      keptStored same wasAlive isRevoked other
  rw [token] at used
  exact
    ⟨state, next, row, kept, ran, stepped, stored, isOther, keptStored, same,
      wasAlive, isRevoked, used⟩

-- One device logs out and presents its token once more.
private def loggedOutLabels : List Label :=
  [.register ann "bcrypt:correct horse" 1] ++ signInLabels 10 "one" ++
    signInLabels 20 "other" ++
    [.logout "one" .done, .refresh "one", .select 0 2, .revokeAll 0,
      .revokeRow 0 10, .revokeRow 0 20]

theorem logged_out_token_ends_other_sessions :
    ∃ (state next : State) (call : Call) (row kept : TokenRow),
      run (step sampleDeps) State.empty loggedOutLabels = some state ∧
        state.calls.get 0 = some call ∧ call.token = "one" ∧
        step sampleDeps state (.commit 0 .done) = some next ∧
        row ∈ state.db.refreshTokens ∧ kept ∈ next.db.refreshTokens ∧
        kept.id = row.id ∧ row.revoked = false ∧ kept.revoked = true ∧
        row.tokenHash ≠ sampleDeps.hashToken call.token ∧
        ∀ earlierId earlier response,
          state.calls.get earlierId = some earlier →
            earlier.stage ≠ .returned (.ok response) := by
  have ends :
      (run (step sampleDeps) State.empty loggedOutLabels).any
        (fun state =>
          (state.calls.get 0).any fun call =>
            (step sampleDeps state (.commit 0 .done)).any fun next =>
              state.db.refreshTokens.any fun row =>
                next.db.refreshTokens.any fun kept =>
                  decide
                    (call.token = "one" ∧ kept.id = row.id ∧
                      row.revoked = false ∧ kept.revoked = true ∧
                      row.tokenHash ≠ sampleDeps.hashToken call.token ∧
                      state.history =
                        [.loggedOut "sha256:one", .loggedIn "sha256:other",
                          .loggedIn "sha256:one"])) = true := by
    decide +kernel
  obtain ⟨state, ran, someCall⟩ := (Option.any_eq_true _ _).mp ends
  obtain ⟨call, running, someNext⟩ := (Option.any_eq_true _ _).mp someCall
  obtain ⟨next, stepped, someRow⟩ := (Option.any_eq_true _ _).mp someNext
  obtain ⟨row, stored, someKept⟩ := List.any_eq_true.mp someRow
  obtain ⟨kept, keptStored, facts⟩ := List.any_eq_true.mp someKept
  obtain ⟨token, same, wasAlive, isRevoked, other, history⟩ :=
    of_decide_eq_true facts
  refine ⟨state, next, call, row, kept, ran, running, token, stepped, stored,
    keptStored, same, wasAlive, isRevoked, other, ?_⟩
  intro earlierId earlier response found succeeded
  have exchanged := (rotated_of_run rotated_empty ran).recorded found succeeded
  rw [history] at exchanged
  simp at exchanged

end TicketWave.Auth
