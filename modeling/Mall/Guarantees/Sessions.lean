/-
Sessions over every run: a refresh token is used once and never extends its
session, and a logout or a password change is final.

The records of a world only grow, an acceptance needs a session that is active, and
no session that was logged out is.
-/

import Mall.Refinement.Sessions

namespace Mall

open Transactional

variable {settings : AuthSettings} {world : AuthWorld}

/-! ### Records that only grow -/

structure AuthWorld.Extends (world later : AuthWorld) : Prop where
  accepted : ∀ token ∈ world.accepted, token ∈ later.accepted
  loggedOut : ∀ sessionID ∈ world.loggedOut, sessionID ∈ later.loggedOut
  changed : ∀ change ∈ world.changed, change ∈ later.changed

private theorem AuthWorld.Extends.refl (world : AuthWorld) : world.Extends world :=
  ⟨fun _ member => member, fun _ member => member, fun _ member => member⟩

private theorem AuthWorld.Extends.trans {later last : AuthWorld} (first : world.Extends later)
    (second : later.Extends last) : world.Extends last :=
  ⟨fun token member => second.accepted token (first.accepted token member),
    fun sessionID member => second.loggedOut sessionID (first.loggedOut sessionID member),
    fun change member => second.changed change (first.changed change member)⟩

private theorem AuthWorld.Extends.become (world : AuthWorld) (process : Nat)
    (stage : Option Process) :
    world.Extends (world.become process stage) :=
  ⟨fun _ member => member, fun _ member => member, fun _ member => member⟩

private theorem AuthWorld.Extends.spawn (world : AuthWorld) (process : Nat)
    (stage : Option Process) :
    world.Extends (world.spawn process stage) := by
  unfold AuthWorld.spawn
  split
  · exact .become world process stage
  · exact .refl world

private theorem AuthWorld.Extends.advance (world : AuthWorld) (process : Nat) (stage : Process) :
    world.Extends (world.advance settings process stage) := by
  have stopped := AuthWorld.Extends.become world process none
  cases stage with
  | verified userID role version =>
      unfold AuthWorld.advance AuthWorld.startSession
      dsimp only
      split
      · exact stopped
      · exact { stopped with }
  | signed sessionID userID deadline pair => exact .become world process _
  | creating sessionID userID expiration pair =>
      unfold AuthWorld.advance AuthWorld.createSession
      dsimp only
      split
      · exact stopped
      · exact { stopped with }
  | refreshing claims =>
      unfold AuthWorld.advance
      dsimp only
      split
      · exact stopped
      · exact .become world process _
  | consuming claims =>
      unfold AuthWorld.advance AuthWorld.consumeRefresh
      dsimp only
      split
      · exact stopped
      · exact { stopped with accepted := fun _ member => List.mem_cons_of_mem _ member }
  | rotating claims => exact { stopped with }
  | revoking sessionID userID =>
      refine { stopped with loggedOut := ?_ }
      intro name member
      unfold AuthWorld.advance AuthWorld.revoke
      dsimp only
      split
      · exact List.mem_cons_of_mem _ member
      · exact member
  | changing id version passwordHash =>
      unfold AuthWorld.advance AuthWorld.updateUserPassword
      dsimp only
      split
      · exact stopped
      · exact { stopped with changed := fun _ member => List.mem_cons_of_mem _ member }

private theorem AuthWorld.Extends.next (world : AuthWorld) (event : AuthEvent) :
    world.Extends (world.next settings event) := by
  have same := AuthWorld.Extends.refl world
  cases event with
  | elapse duration => exact { same with }
  | createUser role passwordHash => exact { same with }
  | updateUserRole id role => exact { same with }
  | deleteUser id => exact { same with }
  | login process id => exact .spawn world process _
  | refreshSession process token => exact .spawn world process _
  | logout process claims refreshToken => exact .spawn world process _
  | changePassword process id oldPassword newPassword => exact .spawn world process _
  | advance process =>
      unfold AuthWorld.next
      dsimp only
      split
      · exact same
      · exact .advance world process _
  | crash process => exact .become world process none

private theorem AuthWorld.Extends.run (settings : AuthSettings) (world : AuthWorld)
    (history : List AuthEvent) : world.Extends (run (AuthWorld.next settings) world history) := by
  induction history generalizing world with
  | nil => exact .refl world
  | cons event rest ih => exact (AuthWorld.Extends.next world event).trans (ih _)

/-! ### Refresh tokens -/

private theorem AuthWorld.accepts_eq_some {event : AuthEvent} {sessionID id : String}
    (accepted : world.accepts event = some (sessionID, id)) :
    ∃ process claims store, event = .advance process ∧
      world.processes process = some (.consuming claims) ∧ world.consume claims = some store ∧
      claims.sessionID = sessionID ∧ claims.id = id := by
  cases event with
  | advance process =>
      unfold AuthWorld.accepts at accepted
      dsimp only at accepted
      split at accepted
      · next claims running =>
          obtain ⟨store, done, same⟩ := Option.map_eq_some_iff.mp accepted
          obtain ⟨about, named⟩ := Prod.mk.inj same
          exact ⟨process, claims, store, rfl, running, done, about, named⟩
      · cases accepted
  | _ => cases accepted

private theorem AuthWorld.next_of_accepts {event : AuthEvent} {sessionID id : String}
    (accepted : world.accepts event = some (sessionID, id)) :
    (world.next settings event).accepted = (sessionID, id) :: world.accepted := by
  obtain ⟨process, claims, store, rfl, running, done, rfl, rfl⟩ := AuthWorld.accepts_eq_some accepted
  unfold AuthWorld.next
  dsimp only
  rw [running]
  unfold AuthWorld.advance AuthWorld.consumeRefresh
  dsimp only
  rw [done]

private theorem AuthWorld.Reached.accepts_fresh {event : AuthEvent} {sessionID id : String}
    (reached : world.Reached settings) (accepted : world.accepts event = some (sessionID, id)) :
    (sessionID, id) ∉ world.accepted := by
  have once := (AuthWorld.Reached.sound (reached.step event)).once
  rw [AuthWorld.next_of_accepts accepted] at once
  exact (List.nodup_cons.mp once).1

private theorem AuthWorld.Sound.accepted_session {first second id : String}
    (sound : world.Sound settings)
    (one : (first, id) ∈ world.accepted) (two : (second, id) ∈ world.accepted) : first = second := by
  obtain ⟨token, member, _, rfl, named, _⟩ := sound.marked first id one
  obtain ⟨other, included, _, rfl, same, _⟩ := sound.marked second id two
  rw [sound.unique token other (Or.inl member) (Or.inl included) (named.trans same.symm)]

/-- Some continuation of the run accepts the token. -/
def AuthWorld.Acceptable (settings : AuthSettings) (world : AuthWorld) (token : EcommerceClaims) :
    Prop :=
  ∃ history event,
    (run (AuthWorld.next settings) world history).accepts event = some (token.sessionID, token.id)

private theorem AuthWorld.Acceptable.unused {token : EcommerceClaims}
    (reached : world.Reached settings) (acceptable : world.Acceptable settings token) :
    (token.sessionID, token.id) ∉ world.accepted := by
  obtain ⟨history, event, accepted⟩ := acceptable
  intro used
  exact AuthWorld.Reached.accepts_fresh (reached.run history) accepted
    ((AuthWorld.Extends.run settings world history).accepted _ used)

/-- In every state that can be reached: a refresh identifier that is accepted now is
never accepted again; of the refresh tokens of a session at most one can still be
accepted; and no token of a session outlives the refresh token of its login. -/
theorem refresh_token_single_use (settings : AuthSettings) (world : AuthWorld)
    (reached : world.Reached settings) :
    (∀ event sessionID id, world.accepts event = some (sessionID, id) →
      ∀ history later other,
        (run (AuthWorld.next settings) (world.next settings event) history).accepts later ≠
          some (other, id)) ∧
      (∀ token ∈ world.issued, ∀ other ∈ world.issued, token.tokenKind = .refresh →
        other.tokenKind = .refresh → token.sessionID = other.sessionID →
        world.Acceptable settings token → world.Acceptable settings other → token = other) ∧
      ∀ token ∈ world.issued, ∃ login ∈ world.logins, login.sessionID = token.sessionID ∧
        (∀ another ∈ world.logins, another.sessionID = token.sessionID → another = login) ∧
        token.expiresAt ≤ login.expiresAt := by
  have sound := AuthWorld.Reached.sound reached
  refine ⟨?_, ?_, ?_⟩
  · intro event sessionID id accepted history later other again
    have reachedNext := Reachable.run (reached.step event) history
    have before : (sessionID, id) ∈
        (run (AuthWorld.next settings) (world.next settings event) history).accepted := by
      refine (AuthWorld.Extends.run settings _ history).accepted _ ?_
      rw [AuthWorld.next_of_accepts accepted]
      exact List.mem_cons_self
    -- Both identifiers are records of the state after the second acceptance.
    have last := AuthWorld.Reached.sound (reachedNext.step later)
    have records := @AuthWorld.next_of_accepts settings _ _ _ _ again
    have first : (sessionID, id) ∈ (AuthWorld.next settings later _).accepted :=
      records ▸ List.mem_cons_of_mem _ before
    have second : (other, id) ∈ (AuthWorld.next settings later _).accepted :=
      records ▸ List.mem_cons_self
    cases last.accepted_session first second
    exact AuthWorld.Reached.accepts_fresh reachedNext again before
  · intro token mine other yours kind otherKind same acceptable otherAcceptable
    exact sound.single token mine other yours kind otherKind same
      (acceptable.unused reached) (otherAcceptable.unused reached)
  · intro token member
    obtain ⟨login, listed, about, bound⟩ := sound.deadline token member
    refine ⟨login, listed, about, ?_, bound⟩
    intro another other same
    exact sound.origin another other login listed (same.trans about.symm)

/-- A quarter of an hour and a week; passwords stand for their own hashes. -/
def weekSettings : AuthSettings :=
  { accessTimeout := 900000
    refreshTimeout := 604800000
    tokenID := fun count => String.ofList (List.replicate (count + 1) 'j')
    distinct := by
      intro first second same
      have lengths := congrArg List.length (String.ofList_injective same)
      rw [List.length_replicate, List.length_replicate] at lengths
      exact Nat.succ.inj lengths
    nonempty := by
      intro count empty
      have letters := congrArg String.toList empty
      rw [String.toList_ofList] at letters
      cases letters
    comparePassword := fun hash password => hash == password
    hashPassword := fun password => .ok password }

def oneAccount : AuthWorld :=
  { clock := 0
    accounts := fun id =>
      if id = 1 then
        some
          { role := "user"
            authVersion := 1
            passwordHash := "password1" }
      else none
    nextAccount := 2
    store :=
      { sessions := fun _ => none
        used := fun _ _ => none }
    generated := 0
    processes := fun _ => none
    issued := []
    logins := []
    accepted := []
    loggedOut := []
    changed := [] }

private theorem oneAccount_initial : oneAccount.Initial := by
  refine ⟨?_, fun _ => rfl, fun _ => rfl, rfl, rfl, rfl, rfl, rfl⟩
  intro id account present
  by_cases same : id = 1
  · subst same
    decide
  · have absent : oneAccount.accounts id = none := if_neg same
    rw [absent] at present
    cases present

private theorem oneAccount_reached (history : List AuthEvent) :
    (run (AuthWorld.next weekSettings) oneAccount history).Reached weekSettings :=
  Reachable.run (.start oneAccount_initial) history

def firstPair : TokenPair :=
  weekSettings.signPair 1 "user" 1 "j" 0 604800000 1

def firstLogin : List AuthEvent :=
  [.login 0 1, .advance 0, .advance 0, .advance 0]

def firstRefresh : List AuthEvent :=
  firstLogin ++ [.elapse 1000, .refreshSession 1 firstPair.refreshToken, .advance 1]

theorem refresh_token_single_use_firstRefresh :
    (run (AuthWorld.next weekSettings) oneAccount firstRefresh).accepts (.advance 1) =
        some ("j", "jjj") ∧
      ∀ history later other,
        (run (AuthWorld.next weekSettings)
          ((run (AuthWorld.next weekSettings) oneAccount firstRefresh).next weekSettings
            (.advance 1)) history).accepts later ≠ some (other, "jjj") := by
  have accepted : (run (AuthWorld.next weekSettings) oneAccount firstRefresh).accepts (.advance 1) =
      some ("j", "jjj") := by
    decide +kernel
  obtain ⟨once, _⟩ := refresh_token_single_use weekSettings _ (oneAccount_reached firstRefresh)
  exact ⟨accepted, once _ _ _ accepted⟩

/-! ### Credential versions -/

/-- Numbers of accounts are not reused, and a version that was left is behind. -/
structure AuthWorld.Credentials (world : AuthWorld) : Prop where
  known : ∀ id account, world.accounts id = some account → id < world.nextAccount
  behind : ∀ id version, (id, version) ∈ world.changed →
    id < world.nextAccount ∧
      ∀ account, world.accounts id = some account → version < account.authVersion
  once : world.changed.Nodup

/-- The accounts change, and none goes back to an earlier version. -/
theorem AuthWorld.Credentials.evolve {accounts : Int → Option Account}
    (credentials : world.Credentials)
    (origin : ∀ id account, accounts id = some account →
      ∃ before, world.accounts id = some before ∧ before.authVersion ≤ account.authVersion) :
    { world with accounts := accounts }.Credentials := by
  refine ⟨?_, ?_, credentials.once⟩
  · intro id account present
    obtain ⟨before, old, _⟩ := origin id account present
    exact credentials.known id before old
  · intro id version member
    obtain ⟨known, behind⟩ := credentials.behind id version member
    refine ⟨known, ?_⟩
    intro account present
    obtain ⟨before, old, bound⟩ := origin id account present
    exact lt_of_lt_of_le (behind before old) bound

private theorem AuthWorld.Credentials.createUser (credentials : world.Credentials)
    (role passwordHash : String) :
    (world.next settings (.createUser role passwordHash)).Credentials := by
  have lookup : ∀ id account, Function.update world.accounts world.nextAccount
      (some { role := role, authVersion := 1, passwordHash := passwordHash }) id = some account →
        id = world.nextAccount ∨ world.accounts id = some account := by
    intro id account present
    by_cases same : id = world.nextAccount
    · exact Or.inl same
    · rw [Function.update_of_ne same] at present
      exact Or.inr present
  refine ⟨?_, ?_, credentials.once⟩
  · intro id account present
    change id < world.nextAccount + 1
    rcases lookup id account present with rfl | old
    · exact Int.lt_succ _
    · exact lt_trans (credentials.known id account old) (Int.lt_succ _)
  · intro id version member
    obtain ⟨known, behind⟩ := credentials.behind id version member
    refine ⟨lt_trans known (Int.lt_succ _), ?_⟩
    intro account present
    rcases lookup id account present with rfl | old
    · exact absurd known (lt_irrefl _)
    · exact behind account old

private theorem AuthWorld.Credentials.updateUserPassword (credentials : world.Credentials)
    (process : Nat) (id version : Int) (passwordHash : String) :
    (world.updateUserPassword process id version passwordHash).Credentials := by
  unfold AuthWorld.updateUserPassword
  split
  · exact { credentials with }
  · next account found =>
      obtain ⟨present, current⟩ := Option.filter_eq_some_iff.mp found
      have verified : account.authVersion = version := eq_of_beq current
      have lookup : ∀ other user, Function.update world.accounts id (some
          { account with
            passwordHash := passwordHash
            authVersion := account.authVersion + 1 }) other = some user →
          (other = id ∧ user.authVersion = version + 1) ∨
            (other ≠ id ∧ world.accounts other = some user) := by
        intro other user after
        by_cases same : other = id
        · subst same
          rw [Function.update_self] at after
          cases after
          exact Or.inl ⟨rfl, congrArg (· + 1) verified⟩
        · rw [Function.update_of_ne same] at after
          exact Or.inr ⟨same, after⟩
      have fresh : (id, version) ∉ world.changed := by
        intro before
        have later := (credentials.behind id version before).2 account present
        exact absurd verified (ne_of_gt later)
      refine ⟨?_, ?_, List.nodup_cons.mpr ⟨fresh, credentials.once⟩⟩
      · intro other user after
        rcases lookup other user after with ⟨rfl, _⟩ | ⟨_, old⟩
        · exact credentials.known other account present
        · exact credentials.known other user old
      · intro other left member
        rcases List.mem_cons.mp member with same | old
        · obtain ⟨rfl, rfl⟩ := Prod.mk.inj same
          refine ⟨credentials.known other account present, ?_⟩
          intro user after
          rcases lookup other user after with ⟨_, raised⟩ | ⟨different, _⟩
          · rw [raised]
            exact Int.lt_succ left
          · exact absurd rfl different
        · obtain ⟨known, behind⟩ := credentials.behind other left old
          refine ⟨known, ?_⟩
          intro user after
          rcases lookup other user after with ⟨rfl, raised⟩ | ⟨_, before⟩
          · have past := behind account present
            rw [verified] at past
            rw [raised]
            exact lt_trans past (Int.lt_succ version)
          · exact behind user before

private theorem AuthWorld.Credentials.spawn (credentials : world.Credentials) (process : Nat)
    (stage : Option Process) : (world.spawn process stage).Credentials := by
  unfold AuthWorld.spawn
  split
  · exact { credentials with }
  · exact credentials

private theorem AuthWorld.Credentials.advance (credentials : world.Credentials) (process : Nat)
    (stage : Process) : (world.advance settings process stage).Credentials := by
  cases stage with
  | verified userID role version =>
      unfold AuthWorld.advance AuthWorld.startSession
      dsimp only
      split
      · exact { credentials with }
      · exact { credentials with }
  | signed sessionID userID deadline pair => exact { credentials with }
  | creating sessionID userID expiration pair =>
      unfold AuthWorld.advance AuthWorld.createSession
      dsimp only
      split
      · exact { credentials with }
      · exact { credentials with }
  | refreshing claims =>
      unfold AuthWorld.advance
      dsimp only
      split
      · exact { credentials with }
      · exact { credentials with }
  | consuming claims =>
      unfold AuthWorld.advance AuthWorld.consumeRefresh
      dsimp only
      split
      · exact { credentials with }
      · exact { credentials with }
  | rotating claims => exact { credentials with }
  | revoking sessionID userID => exact { credentials with }
  | changing id version passwordHash =>
      exact credentials.updateUserPassword process id version passwordHash

private theorem AuthWorld.Credentials.next (credentials : world.Credentials) (event : AuthEvent) :
    (world.next settings event).Credentials := by
  cases event with
  | elapse duration => exact { credentials with }
  | createUser role passwordHash => exact credentials.createUser role passwordHash
  | updateUserRole id role =>
      refine credentials.evolve ?_
      intro other account present
      by_cases same : other = id
      · subst same
        rw [Function.update_self] at present
        obtain ⟨before, old, rfl⟩ := Option.map_eq_some_iff.mp present
        exact ⟨before, old, le_refl _⟩
      · rw [Function.update_of_ne same] at present
        exact ⟨account, present, le_refl _⟩
  | deleteUser id =>
      refine credentials.evolve ?_
      intro other account present
      by_cases same : other = id
      · subst same
        rw [Function.update_self] at present
        cases present
      · rw [Function.update_of_ne same] at present
        exact ⟨account, present, le_refl _⟩
  | login process id => exact credentials.spawn process _
  | refreshSession process token => exact credentials.spawn process _
  | logout process claims refreshToken => exact credentials.spawn process _
  | changePassword process id oldPassword newPassword => exact credentials.spawn process _
  | advance process =>
      unfold AuthWorld.next
      dsimp only
      split
      · exact credentials
      · exact credentials.advance process _
  | crash process => exact { credentials with }

private theorem AuthWorld.Reached.credentials (reached : world.Reached settings) :
    world.Credentials := by
  refine Reachable.invariant ?_ (fun _ event _ credentials => credentials.next event) reached
  intro start initial
  refine ⟨initial.known, ?_, ?_⟩
  · intro id version member
    rw [initial.noneChanged] at member
    cases member
  · rw [initial.noneChanged]
    exact List.nodup_nil

/-! ### Finality -/

private theorem AuthWorld.Sound.sessionActive_loggedOut {sessionID : String}
    (sound : world.Sound settings) (out : sessionID ∈ world.loggedOut) (userID : Int) :
    world.store.sessionActive world.clock sessionID userID = false := by
  unfold SessionStore.sessionActive
  split
  · rfl
  · next session found =>
      obtain ⟨present, living⟩ := SessionStore.session_eq_some found
      rcases (sound.loggedOut sessionID out).2 session present with inactive | expired
      · rw [inactive, Bool.and_false]
      · exact absurd living (not_le.mpr expired)

private theorem AuthWorld.Sound.accepts_loggedOut {sessionID id : String} {event : AuthEvent}
    (sound : world.Sound settings) (out : sessionID ∈ world.loggedOut) :
    world.accepts event ≠ some (sessionID, id) := by
  intro accepted
  obtain ⟨_, claims, store, _, _, done, rfl, _⟩ := AuthWorld.accepts_eq_some accepted
  obtain ⟨session, consumes⟩ := AuthWorld.consume_eq_some done
  rcases (sound.loggedOut claims.sessionID out).2 session consumes.present with inactive | expired
  · rw [consumes.active] at inactive
    cases inactive
  · exact lt_asymm expired consumes.lasting

/-- In every state that can be reached, and from then on: no access check and no
refresh accepts a token of a session that was logged out; no account check accepts
claims with a version that a password change left; and of the password changes from
one version of an account at most one took place. -/
theorem revocation_final (settings : AuthSettings) (world : AuthWorld)
    (reached : world.Reached settings) :
    (∀ sessionID ∈ world.loggedOut, ∀ history,
      (∀ claims, claims.sessionID = sessionID →
        ∃ fault, validateSession (run (AuthWorld.next settings) world history).store
          (run (AuthWorld.next settings) world history).clock claims = .error fault) ∧
      ∀ event id,
        (run (AuthWorld.next settings) world history).accepts event ≠ some (sessionID, id)) ∧
      (∀ id version, (id, version) ∈ world.changed → ∀ history claims, claims.userID = id →
        claims.authVersion ≤ version →
        ∃ fault, validateAccount ((run (AuthWorld.next settings) world history).accounts id) claims =
          .error fault) ∧
      world.changed.Nodup := by
  refine ⟨?_, ?_, (AuthWorld.Reached.credentials reached).once⟩
  · intro sessionID out history
    have sound := AuthWorld.Reached.sound (reached.run history)
    have still := (AuthWorld.Extends.run settings world history).loggedOut sessionID out
    refine ⟨?_, fun event id => sound.accepts_loggedOut still⟩
    rintro claims rfl
    cases checked : validateSession (run (AuthWorld.next settings) world history).store
        (run (AuthWorld.next settings) world history).clock claims with
    | error fault => exact ⟨fault, rfl⟩
    | ok done =>
        obtain ⟨_, _, active⟩ := bind_eq_ok.mp checked
        have contrary := require_eq_ok.mp active
        rw [sound.sessionActive_loggedOut still] at contrary
        cases contrary
  · rintro id version left history claims rfl older
    have credentials := AuthWorld.Reached.credentials (reached.run history)
    have still := (AuthWorld.Extends.run settings world history).changed _ left
    cases checked : validateAccount
        ((run (AuthWorld.next settings) world history).accounts claims.userID) claims with
    | error fault => exact ⟨fault, rfl⟩
    | ok current =>
        obtain ⟨user, present, same, _⟩ := validateAccount_ok checked
        have newer := (credentials.behind claims.userID version still).2 user present
        rw [same] at older
        exact absurd older (not_le.mpr newer)

def signedOut : List AuthEvent :=
  firstLogin ++
    [.logout 1 firstPair.accessToken (some firstPair.refreshToken), .advance 1,
      .changePassword 2 1 "password1" "password2", .advance 2]

theorem revocation_final_signedOut :
    (∀ history event id,
      (run (AuthWorld.next weekSettings)
        (run (AuthWorld.next weekSettings) oneAccount signedOut) history).accepts event ≠
          some ("j", id)) ∧
      ∀ history claims, claims.userID = 1 → claims.authVersion ≤ 1 →
        ∃ fault, validateAccount ((run (AuthWorld.next weekSettings)
          (run (AuthWorld.next weekSettings) oneAccount signedOut) history).accounts 1) claims =
            .error fault := by
  have out : "j" ∈ (run (AuthWorld.next weekSettings) oneAccount signedOut).loggedOut := by
    decide +kernel
  have changed : (1, 1) ∈ (run (AuthWorld.next weekSettings) oneAccount signedOut).changed := by
    decide +kernel
  obtain ⟨sessions, versions, _⟩ := revocation_final weekSettings _ (oneAccount_reached signedOut)
  exact ⟨fun history => (sessions "j" out history).2, versions 1 1 changed⟩

end Mall
