import TicketWave.Library.Attempt
import TicketWave.Library.Table
import TicketWave.Status

/-!
# Accounts and refresh tokens

The tables and computations of `services/auth/internal/server`; times are in
microseconds.  `Deps` stands for SHA-256, bcrypt, the parser of mail addresses
and the signer, and nothing is assumed of it.
-/

namespace TicketWave.Auth

open Library

inductive Role where
  | user
  | organizer
  | admin
  deriving DecidableEq, Repr

structure UserRow where
  id : UUID
  email : String
  passwordHash : String
  role : Role
  deriving DecidableEq, Repr

structure TokenRow where
  id : UUID
  userId : UUID
  tokenHash : String
  revoked : Bool
  expiresAt : Nat
  deriving DecidableEq, Repr

structure Db where
  users : List UserRow
  refreshTokens : List TokenRow
  deriving DecidableEq, Repr

def Db.empty : Db :=
  ⟨[], []⟩

def Db.userByEmail (db : Db) (email : String) : Option UserRow :=
  lookup UserRow.email db.users email

def Db.userById (db : Db) (id : UUID) : Option UserRow :=
  lookup UserRow.id db.users id

def Db.token (db : Db) (hash : String) : Option TokenRow :=
  lookup TokenRow.tokenHash db.refreshTokens hash

/-- `UPDATE refresh_tokens SET revoked = true` on the rows with these IDs. -/
def revokeRows (ids : List UUID) (rows : List TokenRow) : List TokenRow :=
  updateWhere (fun row => decide (row.id ∈ ids))
    (fun row => { row with revoked := true }) rows

/-- The two rows have an ID or a hash in common. -/
def TokenRow.clashes (row other : TokenRow) : Bool :=
  decide (row.id = other.id) || decide (row.tokenHash = other.tokenHash)

structure Credentials where
  email : String
  password : String
  deriving DecidableEq, Repr

/-- `LoginResponse` and `RefreshResponse` have the same fields. -/
structure TokenResponse where
  accessToken : String
  refreshToken : String
  expiresIn : Nat
  userId : UUID
  email : String
  role : Role
  deriving DecidableEq, Repr

def errBadCredentials : Status :=
  Status.error .unauthenticated "Invalid email or password"

def errInvalidRefresh : Status :=
  Status.error .unauthenticated "Invalid refresh token"

def errExpiredRefresh : Status :=
  Status.error .unauthenticated "Refresh token expired"

def errInvalidEmail : Status :=
  Status.invalid "email is not valid"

def second : Nat := 1000000

def accessTokenTTL : Nat := 15 * 60 * second

def refreshTokenTTL : Nat := 7 * 24 * 60 * 60 * second

structure Deps where
  hashToken : String → String
  normalizeEmail : String → Option String
  /-- `CompareHashAndPassword` -/
  comparePassword : String → String → Bool
  /-- `Sign`, with the user's ID, mail address and role, and the time -/
  sign : UUID → String → Role → Nat → String
  organizers : List String

namespace Deps

variable (deps : Deps)

def roleFor (email : String) : Role :=
  if email ∈ deps.organizers then .organizer else .user

def validatePassword (password : String) : Option Status :=
  if password.utf8ByteSize < 8 ∨ password.utf8ByteSize > 72 then
    some (Status.invalid "password must be 8 to 72 bytes")
  else
    none

/-- `Register` up to its insert; `passwordHash` is what bcrypt made of the
password. -/
def register (users : List UserRow) (req : Credentials) (passwordHash : String)
    (id : UUID) : Except Status UserRow :=
  match deps.normalizeEmail req.email with
  | none => .error errInvalidEmail
  | some email =>
      match validatePassword req.password with
      | some err => .error err
      | none =>
          if email ∈ users.map UserRow.email then
            .error (Status.error .alreadyExists "email already registered")
          else
            .ok ⟨id, email, passwordHash, deps.roleFor email⟩

/-- A malformed address belongs to nobody. -/
def findUser (db : Db) (rawEmail : String) : Option UserRow :=
  (deps.normalizeEmail rawEmail).bind db.userByEmail

/-- The tokens of `issueTokens` and the row that it inserts. -/
structure Issued where
  accessToken : String
  refreshToken : String
  row : TokenRow
  deriving DecidableEq, Repr

/-- `issueTokens`; `refreshToken` is the text of the random bytes. -/
def issueTokens (user : UserRow) (tokenId : UUID) (refreshToken : String)
    (now : Nat) : Issued where
  accessToken := deps.sign user.id user.email user.role now
  refreshToken := refreshToken
  row :=
    { id := tokenId
      userId := user.id
      tokenHash := deps.hashToken refreshToken
      revoked := false
      expiresAt := now + refreshTokenTTL }

/-- The check of the credentials in `Login`. -/
def authenticate (db : Db) (req : Credentials) : Except Status UserRow :=
  match deps.findUser db req.email with
  | none => .error errBadCredentials
  | some user =>
      if deps.comparePassword user.passwordHash req.password then .ok user
      else .error errBadCredentials

end Deps

def respond (user : UserRow) (issued : Deps.Issued) : TokenResponse where
  accessToken := issued.accessToken
  refreshToken := issued.refreshToken
  expiresIn := accessTokenTTL / second
  userId := user.id
  email := user.email
  role := user.role

theorem mem_revokeRows
    {ids : List UUID} {rows : List TokenRow} {row : TokenRow} :
    row ∈ revokeRows ids rows ↔
      ∃ old ∈ rows,
        (if old.id ∈ ids then { old with revoked := true } else old) = row := by
  simp only [revokeRows, mem_updateWhere, decide_eq_true_eq]

theorem ids_revokeRows (ids : List UUID) (rows : List TokenRow) :
    (revokeRows ids rows).map TokenRow.id = rows.map TokenRow.id :=
  map_key_updateWhere (by intro row; rfl) rows

theorem hashes_revokeRows (ids : List UUID) (rows : List TokenRow) :
    (revokeRows ids rows).map TokenRow.tokenHash =
      rows.map TokenRow.tokenHash :=
  map_key_updateWhere (by intro row; rfl) rows

theorem mem_revokeRows_of_not_mem {ids : List UUID} {rows : List TokenRow}
    {row : TokenRow} (member : row ∈ rows) (untouched : row.id ∉ ids) :
    row ∈ revokeRows ids rows :=
  mem_revokeRows.mpr ⟨row, member, if_neg untouched⟩

end TicketWave.Auth
