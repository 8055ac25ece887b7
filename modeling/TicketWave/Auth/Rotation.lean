import TicketWave.Auth.Service
import Mathlib.Logic.Relation

/-!
# Rotation of refresh tokens

A row that an open transaction has locked stays as it was read, so a token is
exchanged once and the tokens of one login form a chain.
-/

namespace TicketWave.Auth

open Library

variable {deps : Deps} {state next : State} {label : Label}

/-- The transaction has read the row alive and set it to revoked. -/
structure Call.Rotates (deps : Deps) (call : Call) (row : TokenRow) :
    Prop where
  found : call.found = some row
  alive : row.revoked = false
  presented : row.tokenHash = deps.hashToken call.token
  updated : call.updated = [row.id]

/-- What the stage says about the row that was read and the rows written. -/
def Call.Shaped (deps : Deps) (call : Call) : Prop :=
  match call.stage with
  | .selecting => call.found = none ∧ call.updated = []
  | .reused | .revokingAll _ =>
      ∃ row, call.found = some row ∧ row.revoked = true ∧
        row.tokenHash = deps.hashToken call.token
  | .rotating =>
      ∃ row, call.found = some row ∧ row.revoked = false ∧
        row.tokenHash = deps.hashToken call.token ∧ call.updated = []
  | .lookingUp => ∃ row, call.Rotates deps row
  | .issuing user => ∃ row, call.Rotates deps row ∧ user.id = row.userId
  | .committing user issued =>
      ∃ row, call.Rotates deps row ∧ user.id = row.userId ∧
        ∃ tokenId refreshToken now,
          issued = deps.issueTokens user tokenId refreshToken now
  | .returned _ => True

/-- Rows that do not clash with any of the list can be added to it. -/
def Spares (rows : List TokenRow) (row : TokenRow) : Prop :=
  ∀ other ∈ rows, row.id ≠ other.id ∧ row.tokenHash ≠ other.tokenHash

structure Sound (deps : Deps) (state : State) : Prop where
  ids : (state.db.refreshTokens.map TokenRow.id).Nodup
  hashes : (state.db.refreshTokens.map TokenRow.tokenHash).Nodup
  locks : ∀ row, state.calls.Exclusive fun call => call.holds row
  read :
    ∀ {id call row}, state.calls.get id = some call →
      call.isOpen = true → call.found = some row → row ∈ state.db.refreshTokens
  shaped : ∀ {id call}, state.calls.get id = some call → call.Shaped deps
  unused :
    ∀ {id call row}, state.calls.get id = some call →
      call.inserted = some row → Spares state.db.refreshTokens row
  apart :
    ∀ {left right leftCall rightCall leftRow rightRow},
      state.calls.get left = some leftCall →
      state.calls.get right = some rightCall → left ≠ right →
      leftCall.inserted = some leftRow →
      rightCall.inserted = some rightRow → Spares [leftRow] rightRow

theorem sound_empty : Sound deps State.empty where
  ids := List.nodup_nil
  hashes := List.nodup_nil
  locks := by
    intro row left right leftCall rightCall found
    cases found
  read := by
    intro id call row found
    cases found
  shaped := by
    intro id call found
    cases found
  unused := by
    intro id call row found
    cases found
  apart := by
    intro left right leftCall rightCall leftRow rightRow found
    cases found

variable {row other : TokenRow} {rows : List TokenRow} {call : Call} {id : Nat}
  {labels : List Label} {final : State}

theorem TokenRow.clashes_eq_false_iff :
    row.clashes other = false ↔
      row.id ≠ other.id ∧ row.tokenHash ≠ other.tokenHash := by
  simp [TokenRow.clashes]

theorem Spares.symm (spares : Spares [row] other) : Spares [other] row := by
  intro third member
  rw [List.mem_singleton.mp member]
  have apart := spares row List.mem_cons_self
  exact ⟨apart.1.symm, apart.2.symm⟩

theorem Spares.append (old : Spares rows row) (new : Spares [other] row) :
    Spares (rows ++ [other]) row := by
  intro third member
  rcases List.mem_append.mp member with isOld | isNew
  · exact old third isOld
  · exact new third isNew

theorem Spares.revokeRows (spares : Spares rows row) (ids : List UUID) :
    Spares (revokeRows ids rows) row := by
  intro other member
  obtain ⟨old, stored, rfl⟩ := mem_revokeRows.mp member
  have apart := spares old stored
  by_cases touched : old.id ∈ ids
  · rw [if_pos touched]
    exact apart
  · rw [if_neg touched]
    exact apart

theorem spares_of_fresh (fresh : state.fresh row = true) :
    Spares state.db.refreshTokens row ∧
      ∀ {id call other}, state.calls.get id = some call →
        call.inserted = some other → Spares [other] row := by
  obtain ⟨notStored, notInserted⟩ := Bool.and_eq_true_iff.mp fresh
  rw [Bool.not_eq_true'] at notStored notInserted
  constructor
  · intro other member
    apply TokenRow.clashes_eq_false_iff.mp
    exact Bool.eq_false_iff.mpr (List.any_eq_false.mp notStored other member)
  · intro id call other found inserted third member
    have noClash :=
      Registry.test_of_not_any (Bool.eq_false_iff.mp notInserted) found
    rw [inserted] at noClash
    rw [List.mem_singleton.mp member]
    exact TokenRow.clashes_eq_false_iff.mp noClash

theorem keys_of_spares (spares : Spares rows row) :
    row.id ∉ rows.map TokenRow.id ∧
      row.tokenHash ∉ rows.map TokenRow.tokenHash := by
  constructor
  · intro taken
    obtain ⟨other, member, same⟩ := List.mem_map.mp taken
    exact (spares other member).1 same.symm
  · intro taken
    obtain ⟨other, member, same⟩ := List.mem_map.mp taken
    exact (spares other member).2 same.symm

theorem Call.holds_of_found (isOpen : call.isOpen = true)
    (found : call.found = some row) : call.holds row.id = true := by
  simp [Call.holds, isOpen, found]

theorem Call.holds_of_updated {row : UUID} (isOpen : call.isOpen = true)
    (updated : row ∈ call.updated) : call.holds row = true := by
  simp [Call.holds, isOpen, updated]

theorem State.unlocked
    {row : UUID} (free : state.locked row = false) {id : Nat} {call : Call}
    (found : state.calls.get id = some call) : call.holds row = false :=
  Registry.test_of_not_any (Bool.eq_false_iff.mp free) found

section Moves

variable {id : Nat} {call after : Call}

theorem open_of_moves (moves : Moves deps state label id call after) :
    call.isOpen = true := by
  cases moves with
  | aborted isOpen => exact isOpen
  | uncommitted isOpen => exact isOpen
  | _ => rfl

theorem holds_of_moves (moves : Moves deps state label id call after)
    (shaped : call.Shaped deps) {row : UUID} (holds : after.holds row = true) :
    call.holds row = true ∨ state.locked row = false := by
  have select :
      ∀ {token : String} {read : TokenRow} {stage : Stage},
        call.updated = [] → state.locked read.id = false →
        Call.holds ⟨token, some read, call.updated, stage⟩ row = true →
          state.locked row = false := by
    intro token read stage nothing free isHeld
    simp only [Call.holds, nothing, List.not_mem_nil, decide_false,
      Bool.or_false, Bool.and_eq_true, decide_eq_true_eq,
      Option.map_some, Option.some.injEq] at isHeld
    rw [← isHeld.2]
    exact free
  cases moves with
  | missed absent => cases holds
  | reused stored free isRevoked => exact Or.inr (select shaped.2 free holds)
  | expired stored isAlive => cases holds
  | accepted stored free isAlive => exact Or.inr (select shaped.2 free holds)
  | snapshot => exact Or.inl holds
  | @reached _ target token read updated pending isPending free =>
      by_cases isTarget : row = target
      · rw [isTarget]
        rcases free with own | free
        · exact Or.inl (by simp [Call.holds, Call.isOpen, own])
        · exact Or.inr free
      · refine Or.inl ?_
        simpa [Call.holds, Call.isOpen, isTarget] using holds
  | @rotated _ token read updated =>
      refine Or.inl ?_
      simp only [Call.holds, Call.isOpen, Bool.true_and, Bool.or_eq_true,
        decide_eq_true_eq, Option.map_some, Option.some.injEq,
        List.mem_cons] at holds ⊢
      rcases holds with isRead | isRead | written
      · exact Or.inl isRead
      · exact Or.inl isRead.symm
      · exact Or.inr written
  | orphaned => cases holds
  | read known => exact Or.inl holds
  | issued isFresh => exact Or.inl holds
  | aborted isOpen => cases holds
  | uncommitted isOpen => cases holds

theorem found_of_moves
    (moves : Moves deps state label id call after) {row : TokenRow}
    (isOpen : after.isOpen = true) (found : after.found = some row) :
    (call.isOpen = true ∧ call.found = some row) ∨
      row ∈ state.db.refreshTokens := by
  cases moves with
  | missed absent => cases isOpen
  | reused stored free isRevoked =>
      cases found
      exact Or.inr (mem_of_lookup stored)
  | expired stored isAlive => cases isOpen
  | accepted stored free isAlive =>
      cases found
      exact Or.inr (mem_of_lookup stored)
  | orphaned => cases isOpen
  | aborted wasOpen => cases isOpen
  | uncommitted wasOpen => cases isOpen
  | _ => exact Or.inl ⟨rfl, found⟩

theorem inserted_of_moves (moves : Moves deps state label id call after)
    {row : TokenRow} (inserted : after.inserted = some row) :
    state.fresh row = true := by
  cases moves with
  | issued isFresh =>
      cases inserted
      exact isFresh
  | _ => cases inserted

theorem shaped_of_moves (moves : Moves deps state label id call after)
    (shaped : call.Shaped deps) : after.Shaped deps := by
  cases moves with
  | reused stored free isRevoked =>
      exact ⟨_, rfl, isRevoked, key_of_lookup stored⟩
  | accepted stored free isAlive =>
      exact ⟨_, rfl, isAlive, key_of_lookup stored, shaped.2⟩
  | snapshot => exact shaped
  | reached isPending free => exact shaped
  | rotated =>
      obtain ⟨row, found, isAlive, isToken, nothing⟩ := shaped
      cases found
      exact ⟨_, rfl, isAlive, isToken, congrArg (List.cons _) nothing⟩
  | read known =>
      obtain ⟨row, rotates⟩ := shaped
      cases rotates.found
      exact ⟨_, ⟨rfl, rotates.alive, rotates.presented, rotates.updated⟩,
        key_of_lookup known⟩
  | issued isFresh =>
      obtain ⟨row, rotates, isUser⟩ := shaped
      cases rotates.found
      exact ⟨_, ⟨rfl, rotates.alive, rotates.presented, rotates.updated⟩,
        isUser, _, _, _, rfl⟩
  | _ => trivial

end Moves

theorem sound_login (sound : Sound deps state) (fresh : state.fresh row = true)
    (events : List Event) :
    Sound deps
      (state.write (state.db.refreshTokens ++ [row]) events) := by
  obtain ⟨notStored, notInserted⟩ := spares_of_fresh fresh
  obtain ⟨newId, newHash⟩ := keys_of_spares notStored
  exact
    { ids := nodup_keys_append sound.ids newId
      hashes := nodup_keys_append sound.hashes newHash
      locks := sound.locks
      read := fun found isOpen isRow =>
        List.mem_append_left _ (sound.read found isOpen isRow)
      shaped := sound.shaped
      unused := fun found inserted =>
        (sound.unused found inserted).append
          (notInserted found inserted).symm
      apart := sound.apart }

theorem sound_logout {row : UUID} (sound : Sound deps state)
    (free : state.locked row = false) (events : List Event) :
    Sound deps
      (state.write (revokeRows [row] state.db.refreshTokens) events) where
  ids := by
    have same := ids_revokeRows [row] state.db.refreshTokens
    exact same ▸ sound.ids
  hashes := by
    have same := hashes_revokeRows [row] state.db.refreshTokens
    exact same ▸ sound.hashes
  locks := sound.locks
  read := by
    intro id call read found isOpen isRow
    apply mem_revokeRows_of_not_mem (sound.read found isOpen isRow)
    intro isTarget
    have held := Call.holds_of_found isOpen isRow
    rw [List.mem_singleton.mp isTarget, State.unlocked free found] at held
    cases held
  shaped := sound.shaped
  unused := fun found inserted => (sound.unused found inserted).revokeRows _
  apart := sound.apart

theorem sound_launch (sound : Sound deps state) (token : String) :
    Sound deps
      { state with
        calls := state.calls.launch ⟨token, none, [], .selecting⟩ } where
  ids := sound.ids
  hashes := sound.hashes
  locks := fun row =>
    (sound.locks row).launch (by simp [Call.holds])
  read := by
    intro id call row found isOpen isRow
    rcases Registry.cases_of_get_launch found with ⟨_, rfl⟩ | stored
    · cases isRow
    · exact sound.read stored isOpen isRow
  shaped := by
    intro id call found
    rcases Registry.cases_of_get_launch found with ⟨_, rfl⟩ | stored
    · exact ⟨rfl, rfl⟩
    · exact sound.shaped stored
  unused := by
    intro id call row found inserted
    rcases Registry.cases_of_get_launch found with ⟨_, rfl⟩ | stored
    · cases inserted
    · exact sound.unused stored inserted
  apart := by
    intro left right leftCall rightCall leftRow rightRow leftFound rightFound
      different leftInserted rightInserted
    rcases Registry.cases_of_get_launch leftFound with
      ⟨_, rfl⟩ | leftStored
    · cases leftInserted
    · rcases Registry.cases_of_get_launch rightFound with
        ⟨_, rfl⟩ | rightStored
      · cases rightInserted
      · exact sound.apart leftStored rightStored different leftInserted
          rightInserted

theorem sound_move {after : Call} (sound : Sound deps state)
    (running : state.calls.get id = some call)
    (moves : Moves deps state label id call after) :
    Sound deps (state.put id after) where
  ids := sound.ids
  hashes := sound.hashes
  locks := by
    intro row
    apply (sound.locks row).put
    intro holds other otherCall notMe found
    rcases holds_of_moves moves (sound.shaped running) holds with
      held | free
    · cases alsoHeld : otherCall.holds row with
      | false => rfl
      | true => exact absurd (sound.locks row found running alsoHeld held) notMe
    · exact State.unlocked free found
  read := by
    intro other otherCall row found isOpen isRow
    rcases Registry.cases_of_get_put found with ⟨_, rfl⟩ | ⟨_, stored⟩
    · rcases found_of_moves moves isOpen isRow with ⟨wasOpen, was⟩ | member
      · exact sound.read running wasOpen was
      · exact member
    · exact sound.read stored isOpen isRow
  shaped := by
    intro other otherCall found
    rcases Registry.cases_of_get_put found with ⟨_, rfl⟩ | ⟨_, stored⟩
    · exact shaped_of_moves moves (sound.shaped running)
    · exact sound.shaped stored
  unused := by
    intro other otherCall row found inserted
    rcases Registry.cases_of_get_put found with ⟨_, rfl⟩ | ⟨_, stored⟩
    · exact (spares_of_fresh (inserted_of_moves moves inserted)).1
    · exact sound.unused stored inserted
  apart := by
    intro left right leftCall rightCall leftRow rightRow leftFound rightFound
      different leftInserted rightInserted
    rcases Registry.cases_of_get_put leftFound with
      ⟨isLeft, rfl⟩ | ⟨_, leftStored⟩
    · have fresh := spares_of_fresh (inserted_of_moves moves leftInserted)
      rcases Registry.cases_of_get_put rightFound with
        ⟨isRight, _⟩ | ⟨_, rightStored⟩
      · exact absurd (isLeft.trans isRight.symm) different
      · exact (fresh.2 rightStored rightInserted).symm
    · rcases Registry.cases_of_get_put rightFound with
        ⟨_, rfl⟩ | ⟨_, rightStored⟩
      · have fresh := spares_of_fresh (inserted_of_moves moves rightInserted)
        exact fresh.2 leftStored leftInserted
      · exact sound.apart leftStored rightStored different leftInserted
          rightInserted

theorem sound_commit (sound : Sound deps state)
    (running : state.calls.get id = some call) (isOpen : call.isOpen = true)
    (events : List Event) (result : Except Status TokenResponse) :
    Sound deps
      ((state.write
          (revokeRows call.updated state.db.refreshTokens ++
            call.inserted.toList) events).put id
        { call with stage := .returned result }) where
  ids := by
    have same := ids_revokeRows call.updated state.db.refreshTokens
    cases inserted : call.inserted with
    | none =>
        rw [← List.append_nil (revokeRows _ _)] at same
        exact same ▸ sound.ids
    | some row =>
        have new := (keys_of_spares (sound.unused running inserted)).1
        exact nodup_keys_append (same ▸ sound.ids) (same ▸ new)
  hashes := by
    have same := hashes_revokeRows call.updated state.db.refreshTokens
    cases inserted : call.inserted with
    | none =>
        rw [← List.append_nil (revokeRows _ _)] at same
        exact same ▸ sound.hashes
    | some row =>
        have new := (keys_of_spares (sound.unused running inserted)).2
        exact nodup_keys_append (same ▸ sound.hashes) (same ▸ new)
  locks := by
    intro row
    apply (sound.locks row).put
    intro holds
    cases holds
  read := by
    intro other otherCall row found stillOpen isRow
    rcases Registry.cases_of_get_put found with ⟨_, rfl⟩ | ⟨notMe, stored⟩
    · cases stillOpen
    · apply List.mem_append_left
      apply mem_revokeRows_of_not_mem (sound.read stored stillOpen isRow)
      intro written
      exact notMe
        (sound.locks row.id stored running
          (Call.holds_of_found stillOpen isRow)
          (Call.holds_of_updated isOpen written))
  shaped := by
    intro other otherCall found
    rcases Registry.cases_of_get_put found with ⟨_, rfl⟩ | ⟨_, stored⟩
    · trivial
    · exact sound.shaped stored
  unused := by
    intro other otherCall row found isInserted
    rcases Registry.cases_of_get_put found with ⟨_, rfl⟩ | ⟨notMe, stored⟩
    · cases isInserted
    · have old := (sound.unused stored isInserted).revokeRows call.updated
      cases inserted : call.inserted with
      | none => exact (List.append_nil (revokeRows _ _)).symm ▸ old
      | some mine =>
          exact old.append
            (sound.apart running stored notMe.symm inserted isInserted)
  apart := by
    intro left right leftCall rightCall leftRow rightRow leftFound rightFound
      different leftInserted rightInserted
    rcases Registry.cases_of_get_put leftFound with
      ⟨_, rfl⟩ | ⟨_, leftStored⟩
    · cases leftInserted
    · rcases Registry.cases_of_get_put rightFound with
        ⟨_, rfl⟩ | ⟨_, rightStored⟩
      · cases rightInserted
      · exact sound.apart leftStored rightStored different leftInserted
          rightInserted

theorem sound_of_transition (sound : Sound deps state)
    (transition : Transition deps state label next) : Sound deps next := by
  cases transition with
  | nothing atomic => exact sound
  | registered user =>
      exact ⟨sound.ids, sound.hashes, sound.locks, sound.read, sound.shaped,
        sound.unused, sound.apart⟩
  | loggedIn authentic committed isFresh => exact sound_login sound isFresh _
  | loggedOut stored free => exact sound_logout sound free _
  | began => exact sound_launch sound _
  | moved running moves => exact sound_move sound running moves
  | revoked running committed =>
      rw [← List.append_nil (revokeRows _ _)]
      exact sound_commit sound running rfl _ _
  | exchanged running committed => exact sound_commit sound running rfl _ _

/-- Every row of the first table is in the second one, revoked if it was. -/
def Outlives (rows later : List TokenRow) : Prop :=
  ∀ row ∈ rows, ∃ kept ∈ later,
    kept.id = row.id ∧ kept.tokenHash = row.tokenHash ∧
      kept.userId = row.userId ∧ (row.revoked = true → kept.revoked = true)

theorem Outlives.refl (rows : List TokenRow) : Outlives rows rows :=
  fun row member => ⟨row, member, rfl, rfl, rfl, id⟩

theorem Outlives.trans
    {first second third : List TokenRow} (left : Outlives first second)
    (right : Outlives second third) : Outlives first third := by
  intro row member
  obtain ⟨kept, keptMember, sameId, sameHash, sameUser, revoked⟩ :=
    left row member
  obtain ⟨last, lastMember, lastId, lastHash, lastUser, lastRevoked⟩ :=
    right kept keptMember
  exact ⟨last, lastMember, lastId.trans sameId, lastHash.trans sameHash,
    lastUser.trans sameUser, fun was => lastRevoked (revoked was)⟩

theorem outlives_append (rows added : List TokenRow) :
    Outlives rows (rows ++ added) :=
  fun row member =>
    ⟨row, List.mem_append_left added member, rfl, rfl, rfl, id⟩

theorem outlives_revokeRows (ids : List UUID) (rows : List TokenRow) :
    Outlives rows (revokeRows ids rows) := by
  intro row member
  refine ⟨_, mem_revokeRows.mpr ⟨row, member, rfl⟩, ?_⟩
  by_cases touched : row.id ∈ ids
  · rw [if_pos touched]
    exact ⟨rfl, rfl, rfl, fun _ => rfl⟩
  · rw [if_neg touched]
    exact ⟨rfl, rfl, rfl, id⟩

theorem outlives_of_transition (transition : Transition deps state label next) :
    Outlives state.db.refreshTokens next.db.refreshTokens := by
  cases transition with
  | loggedIn authentic committed isFresh => exact outlives_append _ _
  | loggedOut stored free => exact outlives_revokeRows _ _
  | revoked running committed => exact outlives_revokeRows _ _
  | exchanged running committed =>
      exact (outlives_revokeRows _ _).trans (outlives_append _ _)
  | _ => exact Outlives.refl _

/-- The first token was given up for the second one. -/
def Exchanged (state : State) (old new : String) : Prop :=
  ∃ call, .exchanged call old new ∈ state.history

structure Rotated (deps : Deps) (state : State) : Prop where
  sound : Sound deps state
  spent :
    ∀ {call old new}, .exchanged call old new ∈ state.history →
      ∃ row ∈ state.db.refreshTokens, row.tokenHash = old ∧ row.revoked = true
  unique :
    ∀ {left right old leftNew rightNew},
      .exchanged left old leftNew ∈ state.history →
      .exchanged right old rightNew ∈ state.history →
        left = right ∧ leftNew = rightNew
  recorded :
    ∀ {id call response}, state.calls.get id = some call →
      call.stage = .returned (.ok response) →
        .exchanged id (deps.hashToken call.token)
          (deps.hashToken response.refreshToken) ∈ state.history

theorem rotated_empty : Rotated deps State.empty where
  sound := sound_empty
  spent := by
    intro call old new member
    cases member
  unique := by
    intro left right old leftNew rightNew member
    cases member
  recorded := by
    intro id call response found
    cases found

theorem history_of_transition
    (transition : Transition deps state label next) {event : Event}
    (member : event ∈ state.history) : event ∈ next.history := by
  cases transition with
  | loggedIn authentic committed isFresh => exact List.mem_append_right _ member
  | loggedOut stored free => exact List.mem_append_right _ member
  | revoked running committed => exact List.mem_append_right _ member
  | exchanged running committed => exact List.mem_append_right _ member
  | _ => exact member

theorem exchange_of_transition (transition : Transition deps state label next)
    {id : Nat} {old new : String}
    (member : .exchanged id old new ∈ next.history) :
    .exchanged id old new ∈ state.history ∨
      ∃ token row updated user issued,
        state.calls.get id =
          some ⟨token, some row, updated, .committing user issued⟩ ∧
        old = row.tokenHash ∧ new = issued.row.tokenHash ∧
        next.db.refreshTokens =
          revokeRows updated state.db.refreshTokens ++ [issued.row] ∧
        ∃ result,
          next.calls.get id =
            some ⟨token, some row, updated, .returned result⟩ := by
  cases transition with
  | loggedIn authentic committed isFresh =>
      rcases List.mem_append.mp member with isNew | isOld
      · cases List.mem_singleton.mp isNew
      · exact Or.inl isOld
  | loggedOut stored free =>
      rcases List.mem_append.mp member with isNew | isOld
      · split at isNew
        · cases isNew
        · cases List.mem_singleton.mp isNew
      · exact Or.inl isOld
  | revoked running committed =>
      rcases List.mem_append.mp member with isNew | isOld
      · cases List.mem_singleton.mp isNew
      · exact Or.inl isOld
  | exchanged running committed =>
      rcases List.mem_append.mp member with isNew | isOld
      · cases List.mem_singleton.mp isNew
        exact Or.inr
          ⟨_, _, _, _, _, running, rfl, rfl, rfl, _,
            Registry.get_put_self running⟩
      · exact Or.inl isOld
  | _ => exact Or.inl member

theorem alive_of_committing
    (sound : Sound deps state) {id : Nat} {token : String} {row : TokenRow}
    {updated : List UUID} {user : UserRow} {issued : Deps.Issued}
    (running :
      state.calls.get id =
        some ⟨token, some row, updated, .committing user issued⟩) :
    row ∈ state.db.refreshTokens ∧ row.revoked = false ∧
      row.tokenHash = deps.hashToken token ∧ updated = [row.id] ∧
      user.id = row.userId ∧
      ∃ tokenId refreshToken now,
        issued = deps.issueTokens user tokenId refreshToken now := by
  obtain ⟨read, rotates, isUser, isIssued⟩ := sound.shaped running
  cases rotates.found
  exact ⟨sound.read running rfl rfl, rotates.alive, rotates.presented,
    rotates.updated, isUser, isIssued⟩

theorem success_of_transition
    (transition : Transition deps state label next) {id : Nat} {call : Call}
    {response : TokenResponse} (found : next.calls.get id = some call)
    (succeeded : call.stage = .returned (.ok response)) :
    state.calls.get id = some call ∨
      ∃ row updated user issued,
        state.calls.get id =
          some ⟨call.token, some row, updated, .committing user issued⟩ ∧
        response = respond user issued ∧
        .exchanged id row.tokenHash issued.row.tokenHash ∈ next.history ∧
        issued.row ∈ next.db.refreshTokens := by
  cases transition with
  | began =>
      rcases Registry.cases_of_get_launch found with ⟨_, rfl⟩ | stored
      · cases succeeded
      · exact Or.inl stored
  | moved running moves =>
      rcases Registry.cases_of_get_put found with ⟨_, rfl⟩ | ⟨_, stored⟩
      · cases moves <;> cases succeeded
      · exact Or.inl stored
  | @revoked other outcome token row updated running committed =>
      rcases Registry.cases_of_get_put found with ⟨_, rfl⟩ | ⟨_, stored⟩
      · cases outcome <;> cases succeeded
      · exact Or.inl stored
  | @exchanged other outcome token row updated user issued running committed =>
      rcases Registry.cases_of_get_put found with ⟨rfl, rfl⟩ | ⟨_, stored⟩
      · cases outcome with
        | failed => exact absurd rfl committed
        | lost => cases succeeded
        | done =>
            cases succeeded
            exact Or.inr
              ⟨row, updated, user, issued, running, rfl,
                List.mem_cons_self,
                List.mem_append_right _ List.mem_cons_self⟩
      · exact Or.inl stored
  | _ => exact Or.inl found

theorem rotated_of_transition (rotated : Rotated deps state)
    (transition : Transition deps state label next) : Rotated deps next where
  sound := sound_of_transition rotated.sound transition
  spent := by
    intro call old new member
    rcases exchange_of_transition transition member with
      isOld | ⟨token, row, updated, user, issued, running, rfl, _, rows, _⟩
    · obtain ⟨row, stored, rfl, isRevoked⟩ := rotated.spent isOld
      obtain ⟨kept, keptStored, _, sameHash, _, staysRevoked⟩ :=
        outlives_of_transition transition row stored
      exact ⟨kept, keptStored, sameHash, staysRevoked isRevoked⟩
    · obtain ⟨stored, _, _, rfl, _⟩ := alive_of_committing rotated.sound running
      refine ⟨{ row with revoked := true }, ?_, rfl, rfl⟩
      rw [rows]
      apply List.mem_append_left
      exact mem_revokeRows.mpr ⟨row, stored, if_pos List.mem_cons_self⟩
  unique := by
    -- a token that was exchanged before is revoked, one that is exchanged
    -- now is alive
    have notBoth :
        ∀ {left right : Nat} {token : String} {row : TokenRow}
          {updated : List UUID} {user : UserRow} {issued : Deps.Issued}
          {new : String},
          state.calls.get left =
            some ⟨token, some row, updated, .committing user issued⟩ →
          .exchanged right row.tokenHash new ∈ state.history → False := by
      intro left right token row updated user issued new running earlier
      obtain ⟨stored, isAlive, _⟩ := alive_of_committing rotated.sound running
      obtain ⟨spent, spentStored, sameHash, isRevoked⟩ := rotated.spent earlier
      cases row_unique rotated.sound.hashes spentStored stored sameHash
      rw [isAlive] at isRevoked
      cases isRevoked
    intro left right old leftNew rightNew leftMember rightMember
    rcases exchange_of_transition transition leftMember with
      leftOld | ⟨_, row, _, _, issued, running, rfl, rfl, _⟩
    · rcases exchange_of_transition transition rightMember with
        rightOld | ⟨_, _, _, _, _, running, rfl, rfl, _⟩
      · exact rotated.unique leftOld rightOld
      · exact (notBoth running leftOld).elim
    · rcases exchange_of_transition transition rightMember with
        rightOld | ⟨_, other, _, _, otherIssued, alsoRunning, same, rfl, _⟩
      · exact (notBoth running rightOld).elim
      · have isRow :=
          row_unique rotated.sound.hashes
            (alive_of_committing rotated.sound running).1
            (alive_of_committing rotated.sound alsoRunning).1 same
        cases isRow
        have isCall :=
          rotated.sound.locks row.id running alsoRunning
            (Call.holds_of_found rfl rfl) (Call.holds_of_found rfl rfl)
        cases isCall
        rw [running] at alsoRunning
        cases alsoRunning
        exact ⟨rfl, rfl⟩
  recorded := by
    intro id call response found succeeded
    rcases success_of_transition transition found succeeded with
      stored | ⟨row, updated, user, issued, running, rfl, exchanged, _⟩
    · exact history_of_transition transition (rotated.recorded stored succeeded)
    · obtain ⟨_, _, presented, _, _, tokenId, refreshToken, now, rfl⟩ :=
        alive_of_committing rotated.sound running
      rw [← presented]
      exact exchanged

theorem rotated_of_run (rotated : Rotated deps state)
    (ran : run (step deps) state labels = some final) : Rotated deps final :=
  invariant_of_run
    (fun held stepped =>
      rotated_of_transition held (transition_of_step stepped))
    rotated ran

theorem outlives_of_run (ran : run (step deps) state labels = some final) :
    Outlives state.db.refreshTokens final.db.refreshTokens := by
  have preserved :
      ∀ {before after : State} {label : Label},
        Outlives state.db.refreshTokens before.db.refreshTokens →
        step deps before label = some after →
          Outlives state.db.refreshTokens after.db.refreshTokens :=
    fun kept stepped =>
      kept.trans (outlives_of_transition (transition_of_step stepped))
  exact invariant_of_run preserved (Outlives.refl _) ran

/-- The second token goes back to the first by exchanges. -/
def Chain (state : State) (start token : String) : Prop :=
  Relation.ReflTransGen (Exchanged state) start token

theorem spent_of_exchanged (rotated : Rotated deps state) {row : TokenRow}
    {new : String} (stored : row ∈ state.db.refreshTokens)
    (exchanged : Exchanged state row.tokenHash new) : row.revoked = true := by
  obtain ⟨call, event⟩ := exchanged
  obtain ⟨spent, spentStored, sameHash, isRevoked⟩ := rotated.spent event
  cases row_unique rotated.sound.hashes spentStored stored sameHash
  exact isRevoked

/-- A token that is alive is the last one of its chain. -/
theorem last_of_alive (rotated : Rotated deps state) {row : TokenRow}
    {token : String} (stored : row ∈ state.db.refreshTokens)
    (isAlive : row.revoked = false) (chain : Chain state row.tokenHash token) :
    token = row.tokenHash := by
  rcases Relation.ReflTransGen.cases_head chain with
    same | ⟨middle, exchanged, _⟩
  · exact same.symm
  · rw [spent_of_exchanged rotated stored exchanged] at isAlive
    cases isAlive

theorem alive_unique (rotated : Rotated deps state) {start : String}
    {left right : TokenRow} (leftStored : left ∈ state.db.refreshTokens)
    (rightStored : right ∈ state.db.refreshTokens)
    (leftChain : Chain state start left.tokenHash)
    (rightChain : Chain state start right.tokenHash)
    (leftAlive : left.revoked = false) (rightAlive : right.revoked = false) :
    left = right := by
  have rightUnique : Relator.RightUnique (Exchanged state) := by
    rintro old leftNew rightNew ⟨_, leftEvent⟩ ⟨_, rightEvent⟩
    exact (rotated.unique leftEvent rightEvent).2
  have same : left.tokenHash = right.tokenHash := by
    rcases Relation.ReflTransGen.total_of_right_unique rightUnique leftChain
      rightChain with onwards | backwards
    · exact (last_of_alive rotated leftStored leftAlive onwards).symm
    · exact last_of_alive rotated rightStored rightAlive backwards
  exact row_unique rotated.sound.hashes leftStored rightStored same

theorem returned_of_transition (transition : Transition deps state label next)
    {id : Nat} {call : Call} (found : state.calls.get id = some call)
    (isOver : call.isOpen = false) : next.calls.get id = some call := by
  have other :
      ∀ {acting : Nat} {actor after : Call},
        state.calls.get acting = some actor → actor.isOpen = true →
          (state.calls.put acting after).get id = some call := by
    intro acting actor after running isOpen
    have notMe : id ≠ acting := by
      rintro rfl
      rw [running] at found
      cases found
      rw [isOpen] at isOver
      cases isOver
    rw [Registry.get_put_of_ne notMe, found]
  cases transition with
  | began => exact Registry.get_launch_of_get found
  | moved running moves => exact other running (open_of_moves moves)
  | revoked running committed => exact other running rfl
  | exchanged running committed => exact other running rfl
  | _ => exact found

theorem returned_of_run (found : state.calls.get id = some call)
    (isOver : call.isOpen = false)
    (ran : run (step deps) state labels = some final) :
    final.calls.get id = some call := by
  have preserved :
      ∀ {before after : State} {label : Label},
        before.calls.get id = some call →
        step deps before label = some after → after.calls.get id = some call :=
    fun stored stepped =>
      returned_of_transition (transition_of_step stepped) stored isOver
  exact invariant_of_run preserved found ran

/-- The live token is revoked, and a new one of the user is stored. -/
def Exchanges (deps : Deps) (token : String) (rows later : List TokenRow) :
    Prop :=
  ∃ old ∈ rows, ∃ new,
    old.tokenHash = deps.hashToken token ∧ old.revoked = false ∧
      new.userId = old.userId ∧ new.revoked = false ∧
      later = revokeRows [old.id] rows ++ [new]

/-- The steps of a call that fails without a reuse write nothing, unless the
reply to its commit is lost. -/
theorem tokens_of_failure {later : List Label} {err : Status}
    (rotated : Rotated deps state) (stepped : step deps state label = some next)
    (advances : label.advances id)
    (ran : run (step deps) next later = some final)
    (found : final.calls.get id = some call)
    (failed : call.stage = .returned (.error err))
    (noReuse : call.reuse = false) :
    next.db.refreshTokens = state.db.refreshTokens ∨
      label = .commit id .lost ∧
        Exchanges deps call.token state.db.refreshTokens
          next.db.refreshTokens := by
  have atEnd :
      ∀ {after : Call}, next.calls.get id = some after →
        after.isOpen = false → after = call := by
    intro after stored isOver
    have kept := returned_of_run stored isOver ran
    rw [found] at kept
    cases kept
    rfl
  cases transition_of_step stepped with
  | nothing atomic => exact Or.inl rfl
  | registered user => exact Or.inl rfl
  | loggedIn authentic committed isFresh => cases advances
  | loggedOut stored free => cases advances
  | began => cases advances
  | moved running moves => exact Or.inl rfl
  | @revoked acting outcome token row updated running committed =>
      cases advances
      have isCall := atEnd (Registry.get_put_self running) rfl
      obtain ⟨read, isRead, isRevoked, _⟩ := rotated.sound.shaped running
      cases isRead
      rw [← isCall] at noReuse
      rw [Call.reuse, Option.any_some, isRevoked] at noReuse
      cases noReuse
  | @exchanged acting outcome token row updated user issued running
      committed =>
      cases advances
      have isCall := atEnd (Registry.get_put_self running) rfl
      rw [← isCall] at failed
      cases outcome with
      | failed => exact absurd rfl committed
      | done => cases failed
      | lost =>
          obtain ⟨read, rotates, isUser, _, _, _, rfl⟩ :=
            rotated.sound.shaped running
          cases rotates.found
          cases rotates.updated
          refine Or.inr ⟨rfl, row, ?_, _, ?_, rotates.alive, isUser, rfl, rfl⟩
          · exact rotated.sound.read running rfl rfl
          · rw [← isCall]
            exact rotates.presented

/-- Each token is exchanged by at most one successful call.  Of the tokens
that go back to one login at most one is alive.  A revoked token stays
revoked.  A call that fails without a reuse writes nothing, unless it is the
reply to its commit that was lost: then it has exchanged its token. -/
theorem one_live_token_per_login {labels : List Label} {state : State}
    (ran : run (step deps) State.empty labels = some state) :
    (∀ {left right : Nat} {leftCall rightCall : Call}
        {leftResponse rightResponse : TokenResponse},
      state.calls.get left = some leftCall →
      state.calls.get right = some rightCall →
      leftCall.stage = .returned (.ok leftResponse) →
      rightCall.stage = .returned (.ok rightResponse) →
      deps.hashToken leftCall.token = deps.hashToken rightCall.token →
        left = right) ∧
      (∀ start, .loggedIn start ∈ state.history →
        ∀ left ∈ state.db.refreshTokens, ∀ right ∈ state.db.refreshTokens,
          Chain state start left.tokenHash →
          Chain state start right.tokenHash →
          left.revoked = false → right.revoked = false → left = right) ∧
      (∀ {later : List Label} {final : State},
        run (step deps) state later = some final →
        ∀ row ∈ state.db.refreshTokens, row.revoked = true →
          ∃ kept ∈ final.db.refreshTokens,
            kept.id = row.id ∧ kept.tokenHash = row.tokenHash ∧
              kept.revoked = true) ∧
      ∀ {label : Label} {id : Nat} {next final : State} {later : List Label}
          {call : Call} {err : Status},
        step deps state label = some next → label.advances id →
        run (step deps) next later = some final →
        final.calls.get id = some call →
        call.stage = .returned (.error err) → call.reuse = false →
          next.db.refreshTokens = state.db.refreshTokens ∨
            label = .commit id .lost ∧
              Exchanges deps call.token state.db.refreshTokens
                next.db.refreshTokens := by
  have rotated := rotated_of_run rotated_empty ran
  refine ⟨?_, ?_, ?_, ?_⟩
  · intro left right leftCall rightCall leftResponse rightResponse leftFound
      rightFound leftSucceeded rightSucceeded same
    have leftEvent := rotated.recorded leftFound leftSucceeded
    have rightEvent := rotated.recorded rightFound rightSucceeded
    rw [same] at leftEvent
    exact (rotated.unique leftEvent rightEvent).1
  · intro start _ left leftStored right rightStored leftChain rightChain
      leftAlive rightAlive
    exact alive_unique rotated leftStored rightStored leftChain rightChain
      leftAlive rightAlive
  · intro later final ranOn row stored isRevoked
    obtain ⟨kept, keptStored, sameId, sameHash, _, staysRevoked⟩ :=
      outlives_of_run ranOn row stored
    exact ⟨kept, keptStored, sameId, sameHash, staysRevoked isRevoked⟩
  · intro label id next final later call err stepped advances ranOn found
      failed noReuse
    exact tokens_of_failure rotated stepped advances ranOn found failed noReuse

/-- Stand-ins for SHA-256, bcrypt and the signer. -/
def sampleDeps : Deps where
  hashToken token := "sha256:" ++ token
  normalizeEmail email := some email
  comparePassword hash password := decide (hash = "bcrypt:" ++ password)
  sign _ email _ _ := "jwt:" ++ email
  organizers := []

def ann : Credentials :=
  ⟨"ann@example.com", "correct horse"⟩

/-- The user logs in and gets this token. -/
def signInLabels (rowId : UUID) (token : String) : List Label :=
  [.login ann rowId token 0 .done]

/-- The call exchanges its token up to the commit. -/
def rotateLabels (call : Nat) (rowId : UUID) (token : String) : List Label :=
  [.select call 1, .rotate call, .readUser call, .issue call rowId token 1]

-- Two calls with the same token: the first exchanges it while the second
-- waits, and the second gives up in the mass `UPDATE`.
private def racingLabels : List Label :=
  [.register ann "bcrypt:correct horse" 1] ++ signInLabels 10 "one" ++
    [.refresh "one", .refresh "one"] ++ rotateLabels 0 11 "two" ++
    [.commit 0 .done, .select 1 2, .revokeAll 1, .abort 1 "revoke all tokens"]

theorem one_live_token_per_login_after_a_race :
    ∃ (state : State) (row : TokenRow),
      run (step sampleDeps) State.empty racingLabels = some state ∧
        row ∈ state.db.refreshTokens ∧ row.tokenHash = "sha256:two" ∧
        row.revoked = false ∧
        Chain state "sha256:one" row.tokenHash ∧
        ∀ other ∈ state.db.refreshTokens,
          Chain state "sha256:one" other.tokenHash →
          other.revoked = false → other = row := by
  have ends :
      (run (step sampleDeps) State.empty racingLabels).any
        (fun state =>
          (state.db.refreshTokens.any fun row =>
              decide (row.tokenHash = "sha256:two") && !row.revoked) &&
            decide
              (.exchanged 0 "sha256:one" "sha256:two" ∈ state.history ∧
                .loggedIn "sha256:one" ∈ state.history)) = true := by
    decide +kernel
  obtain ⟨state, ran, checked⟩ := (Option.any_eq_true _ _).mp ends
  obtain ⟨someRow, isHistory⟩ := Bool.and_eq_true_iff.mp checked
  obtain ⟨row, stored, isRow⟩ := List.any_eq_true.mp someRow
  obtain ⟨isTwo, isAlive⟩ := Bool.and_eq_true_iff.mp isRow
  obtain ⟨exchanged, loggedIn⟩ := of_decide_eq_true isHistory
  have hash := of_decide_eq_true isTwo
  have alive : row.revoked = false := by
    simpa using isAlive
  have chain : Chain state "sha256:one" row.tokenHash := by
    rw [hash]
    exact Relation.ReflTransGen.single ⟨0, exchanged⟩
  refine ⟨state, row, ran, stored, hash, alive, chain, ?_⟩
  intro other otherStored otherChain otherAlive
  exact
    (one_live_token_per_login ran).2.1 _ loggedIn other otherStored row stored
      otherChain chain otherAlive alive

-- The exchange is committed and the reply to the commit is lost.
private def unansweredLabels : List Label :=
  [.register ann "bcrypt:correct horse" 1] ++ signInLabels 10 "one" ++
    [.refresh "one"] ++ rotateLabels 0 11 "two"

theorem failed_refresh_can_exchange :
    ∃ (state next : State) (call : Call) (err : Status),
      run (step sampleDeps) State.empty unansweredLabels = some state ∧
        step sampleDeps state (.commit 0 .lost) = some next ∧
        next.calls.get 0 = some call ∧
        call.stage = .returned (.error err) ∧ call.reuse = false ∧
        next.db.refreshTokens ≠ state.db.refreshTokens := by
  have ends :
      (run (step sampleDeps) State.empty unansweredLabels).any
        (fun state =>
          (step sampleDeps state (.commit 0 .lost)).any fun next =>
            (next.calls.get 0).any fun call =>
              decide
                (call.stage =
                    .returned (.error (Status.wrapped "commit")) ∧
                  call.reuse = false ∧
                  next.db.refreshTokens ≠ state.db.refreshTokens)) =
        true := by
    decide +kernel
  obtain ⟨state, ran, someNext⟩ := (Option.any_eq_true _ _).mp ends
  obtain ⟨next, stepped, someCall⟩ := (Option.any_eq_true _ _).mp someNext
  obtain ⟨call, found, checked⟩ := (Option.any_eq_true _ _).mp someCall
  obtain ⟨failed, noReuse, changed⟩ := of_decide_eq_true checked
  exact ⟨state, next, call, _, ran, stepped, found, failed, noReuse, changed⟩

end TicketWave.Auth
