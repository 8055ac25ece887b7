import TicketWave.Auth.Rotation

/-! # Owners of refresh tokens -/

namespace TicketWave.Auth

open Library

variable {deps : Deps} {state next : State} {label : Label}

/-- The row of the token names the user. -/
def Owns (deps : Deps) (state : State) (user : UUID) (token : String) : Prop :=
  ∃ row ∈ state.db.refreshTokens,
    row.tokenHash = deps.hashToken token ∧ row.userId = user

theorem owner_unique (sound : Sound deps state) {left right : UUID}
    {token : String} (leftOwns : Owns deps state left token)
    (rightOwns : Owns deps state right token) : left = right := by
  obtain ⟨row, stored, isToken, rfl⟩ := leftOwns
  obtain ⟨other, otherStored, alsoToken, rfl⟩ := rightOwns
  rw [row_unique sound.hashes stored otherStored (isToken.trans alsoToken.symm)]

theorem Owns.of_transition
    {user : UUID} {token : String} (owns : Owns deps state user token)
    (transition : Transition deps state label next) :
    Owns deps next user token := by
  obtain ⟨row, stored, isToken, isUser⟩ := owns
  obtain ⟨kept, keptStored, _, sameHash, sameUser, _⟩ :=
    outlives_of_transition transition row stored
  exact ⟨kept, keptStored, sameHash.trans isToken, sameUser.trans isUser⟩

theorem owns_of_login
    {req : Credentials} {tokenId : UUID} {refreshToken : String} {now : Nat}
    {outcome : Outcome} {response : TokenResponse}
    (stepped :
      step deps state (.login req tokenId refreshToken now outcome) = some next)
    (answer :
      loginAnswer deps state req tokenId refreshToken now outcome =
        .ok response) :
    Owns deps next response.userId response.refreshToken := by
  unfold loginAnswer at answer
  simp only [step] at stepped
  split at answer
  · cases answer
  · rename_i user authentic
    rw [authentic] at stepped
    split at answer
    · cases answer
      dsimp only at stepped
      split at stepped
      · cases stepped
        exact ⟨(deps.issueTokens user tokenId refreshToken now).row,
          List.mem_append_right _ List.mem_cons_self, rfl, rfl⟩
      · cases stepped
    all_goals cases answer

theorem token_of_transition (transition : Transition deps state label next)
    {id : Nat} {call : Call} (found : state.calls.get id = some call) :
    ∃ after, next.calls.get id = some after ∧ after.token = call.token := by
  have put :
      ∀ {acting : Nat} {actor after : Call},
        state.calls.get acting = some actor → after.token = actor.token →
          ∃ kept, (state.calls.put acting after).get id = some kept ∧
            kept.token = call.token := by
    intro acting actor after running sameToken
    by_cases isMe : id = acting
    · cases isMe
      rw [found] at running
      cases running
      exact ⟨after, Registry.get_put_self found, sameToken⟩
    · refine ⟨call, ?_, rfl⟩
      rw [Registry.get_put_of_ne isMe, found]
  cases transition with
  | began => exact ⟨call, Registry.get_launch_of_get found, rfl⟩
  | moved running moves => exact put running (by cases moves <;> rfl)
  | revoked running committed => exact put running rfl
  | exchanged running committed => exact put running rfl
  | _ => exact ⟨call, found, rfl⟩

structure Vouched (deps : Deps) (state : State) : Prop where
  sound : Sound deps state
  owned :
    ∀ {id call response}, state.calls.get id = some call →
      call.stage = .returned (.ok response) →
        Owns deps state response.userId call.token ∧
          Owns deps state response.userId response.refreshToken

theorem vouched_empty : Vouched deps State.empty where
  sound := sound_empty
  owned := nofun

theorem vouched_of_transition (vouched : Vouched deps state)
    (transition : Transition deps state label next) : Vouched deps next where
  sound := sound_of_transition vouched.sound transition
  owned := by
    intro id call response found succeeded
    rcases success_of_transition transition found succeeded with
      stored | ⟨row, updated, user, issued, running, rfl, _, inserted⟩
    · obtain ⟨ownsOld, ownsNew⟩ := vouched.owned stored succeeded
      exact ⟨ownsOld.of_transition transition, ownsNew.of_transition transition⟩
    · obtain
        ⟨stored, _, presented, _, isUser, tokenId, refreshToken, now,
          rfl⟩ := alive_of_committing vouched.sound running
      have owned : Owns deps state user.id call.token :=
        ⟨row, stored, presented, isUser.symm⟩
      exact ⟨owned.of_transition transition, ⟨_, inserted, rfl, rfl⟩⟩

theorem vouched_of_run {labels : List Label} {final : State}
    (vouched : Vouched deps state)
    (ran : run (step deps) state labels = some final) : Vouched deps final :=
  invariant_of_run
    (fun held stepped =>
      vouched_of_transition held (transition_of_step stepped))
    vouched ran

end TicketWave.Auth
