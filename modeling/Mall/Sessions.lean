/-
Sessions: logins, refresh tokens, logout and password changes.

Sessions live in Redis, whose scripts are atomic; accounts live in the database.
A call is a process that stands between two of its steps, and anything may happen
there: another call, a password change, the end of a deadline, a crash.  Times are
milliseconds of one clock.
-/

import Mall.Foundation.Execution
import Mall.Records

namespace Mall

open Transactional

def errorUnauthorized (message : String) := Fault.unauthorized "UNAUTHORIZED" message

def errorTokenExpired (message : String) := Fault.unauthorized "TOKEN_EXPIRED" message

def errorInvalidPassword (message : String) := Fault.badRequest "INVALID_PASSWORD" message

def errorInvalidCredentials (message : String) := Fault.unauthorized "INVALID_CREDENTIALS" message

/-! ### Tokens and accounts -/

inductive TokenKind where
  | access | refresh
deriving DecidableEq, Repr

/-- `id` is the JTI.  A token stands for its claims: only the server can sign them. -/
structure EcommerceClaims where
  userID : Int
  role : String
  authVersion : Int
  sessionID : String
  tokenKind : TokenKind
  id : String
  issuedAt : Time
  expiresAt : Time
deriving DecidableEq, Repr

structure TokenPair where
  accessToken : EcommerceClaims
  refreshToken : EcommerceClaims

structure Account where
  role : String
  authVersion : Int
  passwordHash : String
deriving DecidableEq

structure AuthSettings where
  accessTimeout : Int
  refreshTimeout : Int
  tokenID : Nat → String
  distinct : Function.Injective tokenID
  nonempty : ∀ count, tokenID count ≠ ""
  comparePassword : String → String → Bool
  hashPassword : String → Except Fault String

/-- Whole seconds, as `time.Truncate` and the numeric dates of tokens keep them. -/
def truncateSecond (time : Time) : Time :=
  time / 1000 * 1000

def AuthSettings.signPair (settings : AuthSettings) (userID : Int) (role : String) (version : Int)
    (sessionID : String) (now deadline : Time) (generated : Nat) : TokenPair :=
  let accessDeadline := if deadline < now + settings.accessTimeout then deadline
    else now + settings.accessTimeout
  { accessToken :=
      { userID := userID
        role := role
        authVersion := version
        sessionID := sessionID
        tokenKind := .access
        id := settings.tokenID generated
        issuedAt := truncateSecond now
        expiresAt := truncateSecond accessDeadline }
    refreshToken :=
      { userID := userID
        role := role
        authVersion := version
        sessionID := sessionID
        tokenKind := .refresh
        id := settings.tokenID (generated + 1)
        issuedAt := truncateSecond now
        expiresAt := truncateSecond deadline } }

/-! ### The session store -/

structure Session where
  owner : Int
  active : Bool
  expiresAt : Time
deriving DecidableEq

/-- Redis drops a key once the clock is past its expiry. -/
def alive (now expiresAt : Time) : Bool :=
  decide (now ≤ expiresAt)

structure SessionStore where
  sessions : String → Option Session
  /-- When the mark of a used refresh token expires, by session and JTI. -/
  used : String → String → Option Time

def SessionStore.session (store : SessionStore) (now : Time) (id : String) : Option Session :=
  (store.sessions id).filter (fun session => alive now session.expiresAt)

/-- `createSessionScript`, behind the checks of `CreateSession`. -/
def SessionStore.createSession (store : SessionStore) (now : Time) (id : String) (userID : Int)
    (expiration : Int) : Except Fault SessionStore := do
  require (¬ (id = "" ∨ userID ≤ 0 ∨ expiration ≤ 0)) (Fault.plain "invalid session")
  require ((store.session now id).isNone = true) (Fault.plain "session already exists")
  pure
    { store with
      sessions := Function.update store.sessions id (some
        { owner := userID
          active := true
          expiresAt := now + expiration }) }

def SessionStore.sessionActive (store : SessionStore) (now : Time) (id : String) (userID : Int) :
    Bool :=
  match store.session now id with
  | none => false
  | some session => session.owner == userID && session.active

/-- `consumeSessionRefreshScript`, behind the checks of `ConsumeSessionRefresh`: the
store with the mark, or nothing when the token is refused. -/
def SessionStore.consumeSessionRefresh (store : SessionStore) (now : Time) (id : String)
    (userID : Int) (tokenID : String) (expiration : Int) : Option SessionStore :=
  if id = "" ∨ userID ≤ 0 ∨ tokenID = "" ∨ expiration ≤ 0 then none
  else
    match store.session now id with
    | none => none
    | some session =>
        if session.owner ≠ userID ∨ session.active = false then none
        else
          let ttl := session.expiresAt - now
          if ttl ≤ 0 then none
          else if ((store.used id tokenID).filter (alive now)).isSome then none
          else some
            { store with
              used := Function.update store.used id
                (Function.update (store.used id) tokenID (some (now + min ttl expiration))) }

/-- `revokeSessionScript`, behind the check of `RevokeSession`: whether the session is
revoked now, and the store. -/
def SessionStore.revokeSession (store : SessionStore) (now : Time) (id : String) (userID : Int) :
    Bool × SessionStore :=
  if id = "" ∨ userID ≤ 0 then (false, store)
  else
    match store.session now id with
    | none => (true, store)
    | some session =>
        if session.owner ≠ userID then (false, store)
        else
          (true,
            { store with
              sessions := Function.update store.sessions id (some
                { session with active := false }) })

/-! ### Checks -/

def validateAccount (account : Option Account) (claims : EcommerceClaims) :
    Except Fault EcommerceClaims := do
  require (¬ (claims.userID ≤ 0 ∨ claims.authVersion ≤ 0)) (errorUnauthorized "invalid account claims")
  let user ← found account (errorUnauthorized "account no longer exists")
  require (claims.authVersion = user.authVersion)
    (errorUnauthorized "credentials changed; sign in again")
  pure { claims with role := user.role }

def validateSession (store : SessionStore) (now : Time) (claims : EcommerceClaims) :
    Except Fault Unit := do
  require (¬ (claims.sessionID = "" ∨ claims.id = "" ∨ claims.userID ≤ 0 ∨
    claims.tokenKind ≠ .access)) (errorUnauthorized "invalid session claims")
  require (store.sessionActive now claims.sessionID claims.userID = true)
    (errorTokenExpired "session has been revoked or expired")

/-- `parseToken`: a text is a token if the server signed it and it has not expired. -/
def parseToken (issued : List EcommerceClaims) (now : Time) (kind : TokenKind)
    (token : EcommerceClaims) : Option EcommerceClaims :=
  if token ∈ issued ∧ now < token.expiresAt ∧ token.tokenKind = kind ∧ 0 < token.userID ∧
      0 < token.authVersion ∧ token.sessionID ≠ "" ∧ token.id ≠ "" then
    some token
  else none

/-! ### Calls -/

/-- Where a call stands, between two calls of the database or of Redis. -/
inductive Process where
  | verified (userID : Int) (role : String) (version : Int)
  /-- The pair is signed; before the time to the deadline is taken. -/
  | signed (sessionID : String) (userID : Int) (deadline : Time) (pair : TokenPair)
  | creating (sessionID : String) (userID : Int) (expiration : Int) (pair : TokenPair)
  | refreshing (claims : EcommerceClaims)
  | consuming (claims : EcommerceClaims)
  | rotating (claims : EcommerceClaims)
  | revoking (sessionID : String) (userID : Int)
  | changing (id version : Int) (passwordHash : String)

structure AuthWorld where
  clock : Time
  accounts : Int → Option Account
  nextAccount : Int
  store : SessionStore
  generated : Nat
  processes : Nat → Option Process
  issued : List EcommerceClaims
  logins : List EcommerceClaims
  /-- The refresh tokens that were accepted, by session and JTI. -/
  accepted : List (String × String)
  loggedOut : List String
  /-- The accounts whose password was changed, with the version that was left. -/
  changed : List (Int × Int)

inductive AuthEvent where
  | elapse (duration : Nat)
  | createUser (role passwordHash : String)
  | updateUserRole (id : Int) (role : String)
  | deleteUser (id : Int)
  | login (process : Nat) (id : Int)
  | refreshSession (process : Nat) (token : EcommerceClaims)
  | logout (process : Nat) (claims : EcommerceClaims) (refreshToken : Option EcommerceClaims)
  | changePassword (process : Nat) (id : Int) (oldPassword newPassword : String)
  | advance (process : Nat)
  | crash (process : Nat)

def AuthWorld.become (world : AuthWorld) (process : Nat) (stage : Option Process) : AuthWorld :=
  { world with processes := Function.update world.processes process stage }

def AuthWorld.spawn (world : AuthWorld) (process : Nat) (stage : Option Process) : AuthWorld :=
  match world.processes process with
  | none => world.become process stage
  | some _ => world

def AuthWorld.release (world : AuthWorld) (pair : TokenPair) : AuthWorld :=
  { world with issued := world.issued ++ [pair.accessToken, pair.refreshToken] }

def AuthWorld.startSession (settings : AuthSettings) (process : Nat) (userID : Int) (role : String)
    (version : Int) (world : AuthWorld) : AuthWorld :=
  let lifetime := max settings.refreshTimeout settings.accessTimeout
  if userID ≤ 0 ∨ version ≤ 0 ∨ lifetime ≤ 0 ∨ settings.accessTimeout ≤ 0 ∨
      settings.refreshTimeout ≤ 0 then
    world.become process none
  else
    let deadline := truncateSecond (world.clock + lifetime)
    let sessionID := settings.tokenID world.generated
    let pair := settings.signPair userID role version sessionID world.clock deadline
      (world.generated + 1)
    { world.become process (some (.signed sessionID userID deadline pair)) with
      generated := world.generated + 3 }

/-- The end of `StartSession`: the pair is handed out if the session was created. -/
def AuthWorld.createSession (process : Nat) (sessionID : String) (userID : Int) (expiration : Int)
    (pair : TokenPair) (world : AuthWorld) : AuthWorld :=
  match world.store.createSession world.clock sessionID userID expiration with
  | .error _ => world.become process none
  | .ok store =>
      { (world.become process none).release pair with
        store := store
        logins := world.logins ++ [pair.refreshToken] }

def AuthWorld.consume (claims : EcommerceClaims) (world : AuthWorld) : Option SessionStore :=
  world.store.consumeSessionRefresh world.clock claims.sessionID claims.userID claims.id
    (claims.expiresAt - world.clock)

def AuthWorld.consumeRefresh (process : Nat) (claims : EcommerceClaims) (world : AuthWorld) :
    AuthWorld :=
  match world.consume claims with
  | none => world.become process none
  | some store =>
      { world.become process (some (.rotating claims)) with
        store := store
        accepted := (claims.sessionID, claims.id) :: world.accepted }

def AuthWorld.rotate (settings : AuthSettings) (process : Nat) (claims : EcommerceClaims)
    (world : AuthWorld) : AuthWorld :=
  { (world.become process none).release (settings.signPair claims.userID claims.role
      claims.authVersion claims.sessionID world.clock claims.expiresAt world.generated) with
    generated := world.generated + 2 }

def AuthWorld.revoke (process : Nat) (sessionID : String) (userID : Int) (world : AuthWorld) :
    AuthWorld :=
  let (revoked, store) := world.store.revokeSession world.clock sessionID userID
  { world.become process none with
    store := store
    loggedOut := if revoked then sessionID :: world.loggedOut else world.loggedOut }

/-- `UpdateUserPassword` changes the row only at the version that was verified. -/
def AuthWorld.updateUserPassword (process : Nat) (id version : Int) (passwordHash : String)
    (world : AuthWorld) : AuthWorld :=
  match (world.accounts id).filter (fun account => account.authVersion == version) with
  | none => world.become process none
  | some account =>
      { world.become process none with
        accounts := Function.update world.accounts id (some
          { account with
            passwordHash := passwordHash
            authVersion := account.authVersion + 1 })
        changed := (id, version) :: world.changed }

def AuthWorld.advance (settings : AuthSettings) (process : Nat) (stage : Process)
    (world : AuthWorld) : AuthWorld :=
  match stage with
  | .verified userID role version => world.startSession settings process userID role version
  | .signed sessionID userID deadline pair =>
      world.become process (some (.creating sessionID userID (deadline - world.clock) pair))
  | .creating sessionID userID expiration pair =>
      world.createSession process sessionID userID expiration pair
  | .refreshing claims =>
      match validateAccount (world.accounts claims.userID) claims with
      | .error _ => world.become process none
      | .ok current => world.become process (some (.consuming current))
  | .consuming claims => world.consumeRefresh process claims
  | .rotating claims => world.rotate settings process claims
  | .revoking sessionID userID => world.revoke process sessionID userID
  | .changing id version passwordHash => world.updateUserPassword process id version passwordHash

def logoutStage (issued : List EcommerceClaims) (now : Time) (claims : EcommerceClaims)
    (refreshToken : Option EcommerceClaims) : Option Process :=
  if claims ∉ issued ∨ claims.sessionID = "" ∨ claims.userID ≤ 0 ∨ claims.id = "" ∨
      claims.tokenKind ≠ .access then none
  else if (refreshToken.bind (parseToken issued now .refresh)).any (fun refresh =>
      refresh.userID != claims.userID || refresh.sessionID != claims.sessionID) then none
  else some (.revoking claims.sessionID claims.userID)

def changeStage (settings : AuthSettings) (account : Option Account) (id : Int)
    (oldPassword newPassword : String) : Except Fault Process := do
  require (¬ id ≤ 0) (errorUnauthorized "invalid account")
  require (¬ (newPassword.utf8ByteSize < 8 ∨ newPassword.utf8ByteSize > 72))
    (errorInvalidPassword "password must be 8 to 72 bytes")
  require (newPassword ≠ oldPassword)
    (errorInvalidPassword "new password must differ from the current one")
  let user ← found account (errorUnauthorized "account no longer exists")
  require (settings.comparePassword user.passwordHash oldPassword = true)
    (errorInvalidCredentials "invalid credentials")
  let passwordHash ← settings.hashPassword newPassword
  pure (.changing id user.authVersion passwordHash)

def AuthWorld.next (settings : AuthSettings) (event : AuthEvent) (world : AuthWorld) : AuthWorld :=
  match event with
  | .elapse duration => { world with clock := world.clock + duration }
  | .createUser role passwordHash =>
      { world with
        accounts := Function.update world.accounts world.nextAccount (some
          { role := role
            authVersion := 1
            passwordHash := passwordHash })
        nextAccount := world.nextAccount + 1 }
  | .updateUserRole id role =>
      { world with
        accounts := Function.update world.accounts id
          ((world.accounts id).map (fun account => { account with role := role })) }
  | .deleteUser id => { world with accounts := Function.update world.accounts id none }
  | .login process id =>
      world.spawn process ((world.accounts id).map (fun account =>
        .verified id account.role account.authVersion))
  | .refreshSession process token =>
      world.spawn process ((parseToken world.issued world.clock .refresh token).map .refreshing)
  | .logout process claims refreshToken =>
      world.spawn process (logoutStage world.issued world.clock claims refreshToken)
  | .changePassword process id oldPassword newPassword =>
      world.spawn process
        (changeStage settings (world.accounts id) id oldPassword newPassword).toOption
  | .advance process =>
      match world.processes process with
      | none => world
      | some stage => world.advance settings process stage
  | .crash process => world.become process none

def AuthWorld.accepts (event : AuthEvent) (world : AuthWorld) : Option (String × String) :=
  match event with
  | .advance process =>
      match world.processes process with
      | some (.consuming claims) =>
          (world.consume claims).map (fun _ => (claims.sessionID, claims.id))
      | _ => none
  | _ => none

/-- Accounts may be there already; nobody is signed in. -/
structure AuthWorld.Initial (world : AuthWorld) : Prop where
  known : ∀ id account, world.accounts id = some account → id < world.nextAccount
  noSessions : ∀ id, world.store.sessions id = none
  noProcesses : ∀ process, world.processes process = none
  noTokens : world.issued = []
  noLogins : world.logins = []
  noneAccepted : world.accepted = []
  noneLoggedOut : world.loggedOut = []
  noneChanged : world.changed = []

abbrev AuthWorld.Reached (settings : AuthSettings) : AuthWorld → Prop :=
  Reachable AuthWorld.Initial (AuthWorld.next settings)

end Mall
