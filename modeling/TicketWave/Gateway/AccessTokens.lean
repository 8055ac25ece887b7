import TicketWave.Auth.Service
import TicketWave.Gateway.Guards

/-!
# Access tokens

Of RS256 it is assumed that nothing verifies that was not signed; `Signed` is
the log of what auth-svc signs.
-/

namespace TicketWave.Gateway

open Library Library.Asking TicketWave.Gateway.Api

/-- `jwt.Claims`, with the times in seconds. -/
structure TokenClaims where
  userId : String
  email : String
  role : String
  issuedAt : Option Nat
  notBefore : Option Nat
  expiresAt : Option Nat
  deriving DecidableEq, Repr

/-- What `Sign` signs. -/
def signClaims (userId email role : String) (ttl now : Nat) : TokenClaims where
  userId := userId
  email := email
  role := role
  issuedAt := some (now / Auth.second)
  notBefore := none
  expiresAt := some ((now + ttl) / Auth.second)

/-- What is left of `ParseWithClaims`: the claims that are there hold now. -/
def TokenClaims.valid (claims : TokenClaims) (now : Nat) : Bool :=
  claims.expiresAt.all (fun expires => decide (now < expires * Auth.second)) &&
    claims.notBefore.all (fun begins => decide (begins * Auth.second ≤ now))

theorem lt_of_valid {userId email role : String} {ttl now clock : Nat}
    (valid : (signClaims userId email role ttl now).valid clock = true) :
    clock < now + ttl := by
  unfold TokenClaims.valid signClaims at valid
  -- `simp` would leave it to the kernel to multiply by `Auth.second`
  rw [Option.all_some, Option.all_none, Bool.and_true,
    decide_eq_true_eq] at valid
  exact Nat.lt_of_lt_of_le valid (Nat.div_mul_le_self _ _)

/-- `Verify`; `parse` is `ParseWithClaims` with its checks of the method and
the signature. -/
def verify (parse : String → Option TokenClaims) (now : Nat)
    (token : String) : Option TokenClaims :=
  (parse token).filter fun claims => claims.valid now

def roleText : Auth.Role → String
  | .user => "user"
  | .organizer => "organizer"
  | .admin => "admin"

/-- The claims of `issueTokens`. -/
def claimsFor (user : Auth.UserRow) (now : Nat) : TokenClaims :=
  signClaims (standardString user.id) user.email (roleText user.role)
    Auth.accessTokenTTL now

/-- For whom the step signs an access token. -/
def signs (deps : Auth.Deps) (state : Auth.State) :
    Auth.Label → Option (Auth.UserRow × Nat)
  | .login req _ _ now _ =>
      match deps.authenticate state.db req with
      | .ok user => some (user, now)
      | .error _ => none
  | .issue id _ _ now =>
      match state.calls.get id with
      | some ⟨_, some _, _, .issuing user⟩ => some (user, now)
      | _ => none
  | _ => none

def Signed (deps : Auth.Deps) (labels : List Auth.Label)
    (user : Auth.UserRow) (now : Nat) : Prop :=
  ∃ before label after state, labels = before ++ label :: after ∧
    run (Auth.step deps) Auth.State.empty before = some state ∧
    signs deps state label = some (user, now)

section Accounts

variable {deps : Auth.Deps} {state next : Auth.State} {label : Auth.Label}

structure Accounts (deps : Auth.Deps) (state : Auth.State) : Prop where
  roles : ∀ user ∈ state.db.users, user.role = deps.roleFor user.email
  read :
    ∀ {id call user}, state.calls.get id = some call →
      call.stage = .issuing user → user ∈ state.db.users

theorem accounts_empty : Accounts deps Auth.State.empty where
  roles := nofun
  read := nofun

theorem role_of_register {users : List Auth.UserRow} {req : Auth.Credentials}
    {passwordHash : String} {id : UUID} {user : Auth.UserRow}
    (registered : deps.register users req passwordHash id = .ok user) :
    user.role = deps.roleFor user.email := by
  unfold Auth.Deps.register at registered
  split at registered
  · cases registered
  · split at registered
    · cases registered
    · split at registered
      · cases registered
      · cases registered
        rfl

theorem users_of_step (stepped : Auth.step deps state label = some next) :
    next.db.users = state.db.users ∨
      ∃ user, user.role = deps.roleFor user.email ∧
        next.db.users = state.db.users ++ [user] := by
  cases label with
  | register req passwordHash id =>
      simp only [Auth.step] at stepped
      split at stepped
      · cases stepped
        exact Or.inl rfl
      · rename_i user registered
        cases stepped
        exact Or.inr ⟨user, role_of_register registered, rfl⟩
  | _ => cases Auth.transition_of_step stepped <;> exact Or.inl rfl

theorem users_subset_of_step
    (stepped : Auth.step deps state label = some next) :
    state.db.users ⊆ next.db.users := by
  rcases users_of_step stepped with same | ⟨_, _, isAdded⟩
  · rw [same]
    exact List.Subset.refl _
  · rw [isAdded]
    exact List.subset_append_left _ _

theorem accounts_of_step (accounts : Accounts deps state)
    (stepped : Auth.step deps state label = some next) :
    Accounts deps next where
  roles := by
    intro user member
    rcases users_of_step stepped with same | ⟨added, isRole, isAdded⟩
    · exact accounts.roles user (same ▸ member)
    · rw [isAdded] at member
      rcases List.mem_append.mp member with before | last
      · exact accounts.roles user before
      · rw [List.mem_singleton.mp last]
        exact isRole
  read := by
    have grows := users_subset_of_step stepped
    intro id call user found isIssuing
    cases Auth.transition_of_step stepped with
    | began =>
        rcases Registry.cases_of_get_launch found with ⟨_, rfl⟩ | stored
        · cases isIssuing
        · exact grows (accounts.read stored isIssuing)
    | moved running moves =>
        rcases Registry.cases_of_get_put found with ⟨_, rfl⟩ | ⟨_, stored⟩
        · cases moves with
          | read known =>
              cases isIssuing
              exact mem_of_lookup known
          | _ => cases isIssuing
        · exact grows (accounts.read stored isIssuing)
    | revoked running committed =>
        rcases Registry.cases_of_get_put found with ⟨_, rfl⟩ | ⟨_, stored⟩
        · cases isIssuing
        · exact grows (accounts.read stored isIssuing)
    | exchanged running committed =>
        rcases Registry.cases_of_get_put found with ⟨_, rfl⟩ | ⟨_, stored⟩
        · cases isIssuing
        · exact grows (accounts.read stored isIssuing)
    | _ => exact grows (accounts.read found isIssuing)

theorem mem_users_of_authenticate {req : Auth.Credentials} {user : Auth.UserRow}
    (authentic : deps.authenticate state.db req = .ok user) :
    user ∈ state.db.users := by
  unfold Auth.Deps.authenticate at authentic
  split at authentic
  · cases authentic
  · rename_i found
    split at authentic
    · cases authentic
      obtain ⟨email, _, isUser⟩ := Option.bind_eq_some_iff.mp found
      exact mem_of_lookup isUser
    · cases authentic

theorem mem_users_of_signs
    (accounts : Accounts deps state) {user : Auth.UserRow} {now : Nat}
    (signed : signs deps state label = some (user, now)) :
    user ∈ state.db.users := by
  unfold signs at signed
  split at signed
  · split at signed
    · rename_i authentic
      cases signed
      exact mem_users_of_authenticate authentic
    · cases signed
  · split at signed
    · rename_i found
      cases signed
      exact accounts.read found rfl
    · cases signed
  · cases signed

/-- Whoever auth-svc signs a token for has an account, with the role that the
list of organizers gives. -/
theorem account_of_signed {labels : List Auth.Label} {final : Auth.State}
    (ran : run (Auth.step deps) Auth.State.empty labels = some final)
    {user : Auth.UserRow} {now : Nat} (signed : Signed deps labels user now) :
    user ∈ final.db.users ∧ user.role = deps.roleFor user.email := by
  obtain ⟨before, label, after, state, rfl, ranBefore, isSigned⟩ := signed
  rw [run_append, ranBefore, Option.bind_some] at ran
  have accounts : Accounts deps state :=
    invariant_of_run accounts_of_step accounts_empty ranBefore
  have member := mem_users_of_signs accounts isSigned
  refine ⟨?_, accounts.roles user member⟩
  exact invariant_of_run
    (fun held stepped => users_subset_of_step stepped held) member ran

end Accounts

section Through

variable (parse : String → Option TokenClaims) (deps : Auth.Deps)
  (labels : List Auth.Label) (clock : Nat) (r : Api.Request)

def Unforgeable : Prop :=
  ∀ token claims, parse token = some claims →
    ∃ user now, Signed deps labels user now ∧ claims = claimsFor user now

/-- The questions to `Verify` are answered at this time. -/
def Verifies (seen : List Exchange) : Prop :=
  ∀ token claims, (⟨.verify token, claims⟩ : Exchange) ∈ seen →
    claims =
      (verify parse clock token).map fun claims =>
        ⟨claims.userId, claims.role⟩

/-- The request has a token that auth-svc signed for the user, fifteen minutes
ago at most. -/
def Carries (user : Auth.UserRow) : Prop :=
  ∃ token now, bearerToken r = some token ∧
    parse token = some (claimsFor user now) ∧
    Signed deps labels user now ∧ clock < now + Auth.accessTokenTTL

/-- What is known of the caller. -/
def Backed (accounts : List Auth.UserRow) : Rpc → Prop
  | .createOrder req =>
      ∃ user ∈ accounts, Carries parse deps labels clock r user ∧
        req.userId = standardString user.id
  | .getOrder _ => ∃ user ∈ accounts, Carries parse deps labels clock r user
  | .createEvent _ | .listEventStats _ =>
      ∃ user ∈ accounts, Carries parse deps labels clock r user ∧
        user.email ∈ deps.organizers
  | _ => True

variable {parse deps labels clock r} {final : Auth.State}

theorem organizer_of_atLeast
    {user : Auth.UserRow} (isRole : user.role = deps.roleFor user.email)
    (ranked : atLeast (roleText user.role) roleOrganizer = true) :
    user.email ∈ deps.organizers := by
  by_contra unlisted
  rw [isRole, Auth.Deps.roleFor, if_neg unlisted] at ranked
  revert ranked
  decide

theorem account_of_verify
    (ran : run (Auth.step deps) Auth.State.empty labels = some final)
    (unforgeable : Unforgeable parse deps labels)
    {token : String} (isToken : bearerToken r = some token)
    {claims : TokenClaims} (verified : verify parse clock token = some claims) :
    ∃ user ∈ final.db.users, Carries parse deps labels clock r user ∧
      user.role = deps.roleFor user.email ∧
      claims.userId = standardString user.id ∧
      claims.role = roleText user.role := by
  obtain ⟨parsed, valid⟩ := Option.filter_eq_some_iff.mp verified
  obtain ⟨user, now, signed, rfl⟩ := unforgeable token claims parsed
  obtain ⟨member, isRole⟩ := account_of_signed ran signed
  have recent : clock < now + Auth.accessTokenTTL := lt_of_valid valid
  exact
    ⟨user, member, ⟨token, now, isToken, parsed, signed, recent⟩, isRole, rfl,
      rfl⟩

/-- The gateway calls for orders, events and sales only on behalf of accounts
that have signed in or refreshed within fifteen minutes, and for events and
sales only of those on the list of organizers. -/
theorem only_accounts_get_through
    (ran : run (Auth.step deps) Auth.State.empty labels = some final)
    (unforgeable : Unforgeable parse deps labels)
    {api : API} {before after : List Exchange} {id : String} {rpc : Rpc}
    {answer : Except Status rpc.Reply} {response : Response}
    (served :
      Runs (serve api r) (before ++ ⟨.call id rpc, answer⟩ :: after) response)
    (verifies : Verifies parse clock before) :
    Backed parse deps labels clock r final.db.users rpc := by
  obtain ⟨_, _, _, inOrder⟩ := good_of_runs served
  obtain ⟨_, _, permits, _⟩ := inOrder before _ after rfl
  have account :
      ∀ claims, Verified r before claims →
        ∃ user ∈ final.db.users, Carries parse deps labels clock r user ∧
          user.role = deps.roleFor user.email ∧
          claims = ⟨standardString user.id, roleText user.role⟩ := by
    rintro claims ⟨token, isToken, isSeen⟩
    obtain ⟨verified, isVerified, rfl⟩ :=
      Option.map_eq_some_iff.mp (verifies token _ isSeen).symm
    obtain ⟨user, member, carries, isRole, isId, isText⟩ :=
      account_of_verify ran unforgeable isToken isVerified
    exact ⟨user, member, carries, isRole, by rw [isId, isText]⟩
  cases rpc with
  | createOrder req =>
      obtain ⟨claims, _, verified, _, _, _, isUser, _⟩ := permits
      obtain ⟨user, member, carries, _, rfl⟩ := account claims verified
      exact ⟨user, member, carries, isUser⟩
  | getOrder orderId =>
      obtain ⟨claims, verified⟩ := permits
      obtain ⟨user, member, carries, _⟩ := account claims verified
      exact ⟨user, member, carries⟩
  | createEvent req =>
      obtain ⟨claims, verified, ranked, _⟩ := permits
      obtain ⟨user, member, carries, isRole, rfl⟩ := account claims verified
      exact ⟨user, member, carries, organizer_of_atLeast isRole ranked⟩
  | listEventStats limit =>
      obtain ⟨claims, verified, ranked⟩ := permits
      obtain ⟨user, member, carries, isRole, rfl⟩ := account claims verified
      exact ⟨user, member, carries, organizer_of_atLeast isRole ranked⟩
  | _ => trivial

end Through

/-- Somebody on the list registers and logs in. -/
def listedDeps : Auth.Deps where
  hashToken := id
  normalizeEmail := some
  comparePassword := fun _ _ => true
  sign := fun _ email _ _ => email
  organizers := ["o@example.org"]

def listedUser : Auth.UserRow :=
  ⟨1, "o@example.org", "hash", .organizer⟩

def listedLabels : List Auth.Label :=
  [.register ⟨"o@example.org", "password"⟩ "hash" 1,
    .login ⟨"o@example.org", "password"⟩ 2 "refresh" 0 .done]

def listedParse (token : String) : Option TokenClaims :=
  if token = "t" then some (claimsFor listedUser 0) else none

def eventRequest : Api.Request :=
  { orderRequest with path := ["api", "events"] }

def listedAnswers : Surroundings Ask.Answer
  | _, .newString => (0 : UUID)
  | _, .verify token =>
      (verify listedParse 60 token).map fun claims =>
        (⟨claims.userId, claims.role⟩ : Claims)
  | _, .allow _ _ _ => (⟨⟨true, 1, 0⟩, false⟩ : RateLimit.Reply)
  | _, .call _ _ => .error (Status.error .unavailable "down")

theorem signed_listedUser : Signed listedDeps listedLabels listedUser 0 :=
  ⟨[.register ⟨"o@example.org", "password"⟩ "hash" 1],
    .login ⟨"o@example.org", "password"⟩ 2 "refresh" 0 .done, [],
    ⟨⟨[listedUser], []⟩, Registry.empty, []⟩, rfl, rfl, by decide +kernel⟩

def isEventCall : Exchange → Bool
  | ⟨.call _ (.createEvent _), _⟩ => true
  | _ => false

theorem listed_organizer_gets_through :
    ∃ final before after id req answer response,
      run (Auth.step listedDeps) Auth.State.empty listedLabels =
          some final ∧
        Runs (serve plainApi eventRequest)
          (before ++ ⟨.call id (.createEvent req), answer⟩ :: after)
          response ∧
        Backed listedParse listedDeps listedLabels 60 eventRequest
          final.db.users (.createEvent req) := by
  have called :
      (play listedAnswers [] (serve plainApi eventRequest)).1.any
        isEventCall = true := by
    decide +kernel
  obtain ⟨exchange, member, isEvent⟩ := List.any_eq_true.mp called
  obtain ⟨before, after, split⟩ := List.append_of_mem member
  have served := runs_play listedAnswers [] (serve plainApi eventRequest)
  have answered : Verifies listedParse 60 before := by
    intro token claims isBefore
    obtain ⟨_, isAnswer⟩ :=
      answer_of_mem_play (split ▸ List.mem_append_left _ isBefore)
    exact Exchange.answer_inj isAnswer
  have unforgeable : Unforgeable listedParse listedDeps listedLabels := by
    intro token claims parsed
    unfold listedParse at parsed
    split at parsed
    · cases parsed
      exact ⟨listedUser, 0, signed_listedUser, rfl⟩
    · cases parsed
  have started :
      (run (Auth.step listedDeps) Auth.State.empty listedLabels).isSome =
        true := by
    decide +kernel
  obtain ⟨final, ran⟩ := Option.isSome_iff_exists.mp started
  rw [split] at served
  match exchange, isEvent with
  | ⟨.call id (.createEvent req), answer⟩, _ =>
      exact ⟨final, before, after, id, req, answer, _, ran, served,
        only_accounts_get_through ran unforgeable served answered⟩

end TicketWave.Gateway
