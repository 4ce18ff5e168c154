/-
What holds of tokens, sessions and calls in every reachable world.

A session is held by at most one thing at a time: the login that is about to create
it, a refresh token that was not used, or the call that used one and has not signed
the next.
-/

import Mall.Sessions

namespace Mall

open Transactional

variable {settings : AuthSettings} {world : AuthWorld}

/-! ### Calls -/

def Process.starting : Process → Option (String × TokenPair)
  | .signed sessionID _ _ pair | .creating sessionID _ _ pair => some (sessionID, pair)
  | _ => none

def Process.claims : Process → Option EcommerceClaims
  | .refreshing claims | .consuming claims | .rotating claims => some claims
  | _ => none

def Process.spent : Process → Option EcommerceClaims
  | .rotating claims => some claims
  | _ => none

def Process.revokes : Process → Option String
  | .revoking sessionID _ => some sessionID
  | _ => none

def Process.Holds (stage : Process) (sessionID : String) : Prop :=
  (∃ pair, stage.starting = some (sessionID, pair)) ∨
    ∃ claims, stage.spent = some claims ∧ claims.sessionID = sessionID

/-- The claims are those of a refresh token, up to the role. -/
def EcommerceClaims.From (issued : List EcommerceClaims) (claims : EcommerceClaims) : Prop :=
  ∃ token ∈ issued, token.tokenKind = .refresh ∧ claims = { token with role := claims.role }

/-- The token was handed out, or a login is about to. -/
def AuthWorld.Known (world : AuthWorld) (token : EcommerceClaims) : Prop :=
  token ∈ world.issued ∨ ∃ process stage sessionID pair, world.processes process = some stage ∧
    stage.starting = some (sessionID, pair) ∧
    (token = pair.accessToken ∨ token = pair.refreshToken)

def AuthSettings.Generated (settings : AuthSettings) (count : Nat) (text : String) : Prop :=
  ∃ number < count, text = settings.tokenID number

theorem AuthSettings.Generated.mono {count more : Nat} {text : String}
    (generated : settings.Generated count text) (le : count ≤ more) :
    settings.Generated more text := by
  obtain ⟨number, below, same⟩ := generated
  exact ⟨number, lt_of_lt_of_le below le, same⟩

theorem AuthSettings.Generated.ne {count number : Nat} {text : String}
    (generated : settings.Generated count text) (fresh : count ≤ number) :
    text ≠ settings.tokenID number := by
  obtain ⟨old, below, rfl⟩ := generated
  intro same
  have equal := settings.distinct same
  omega

structure TokenPair.Fits (pair : TokenPair) (sessionID : String) : Prop where
  access : pair.accessToken.sessionID = sessionID
  refresh : pair.refreshToken.sessionID = sessionID
  kind : pair.accessToken.tokenKind = .access
  refreshKind : pair.refreshToken.tokenKind = .refresh
  deadline : pair.accessToken.expiresAt ≤ pair.refreshToken.expiresAt

private theorem truncateSecond_mono {early late : Time} (le : early ≤ late) :
    truncateSecond early ≤ truncateSecond late :=
  Int.mul_le_mul_of_nonneg_right (Int.ediv_le_ediv (by decide) le) (by decide)

private theorem truncateSecond_le (time : Time) : truncateSecond time ≤ time :=
  Int.ediv_mul_le time (by decide)

theorem AuthSettings.signPair_fits (settings : AuthSettings) (userID : Int) (role : String)
    (version : Int) (sessionID : String) (now deadline : Time) (generated : Nat) :
    (settings.signPair userID role version sessionID now deadline generated).Fits sessionID := by
  refine ⟨rfl, rfl, rfl, rfl, truncateSecond_mono ?_⟩
  split
  · exact le_refl _
  · next late => exact not_lt.mp late

/-! ### The invariant -/

structure AuthWorld.Sound (settings : AuthSettings) (world : AuthWorld) : Prop where
  generated : ∀ token, world.Known token →
    settings.Generated world.generated token.sessionID ∧
      settings.Generated world.generated token.id
  unique : ∀ token other, world.Known token → world.Known other → token.id = other.id →
    token = other
  opened : ∀ sessionID session, world.store.sessions sessionID = some session →
    ∃ token ∈ world.issued, token.sessionID = sessionID
  starts : ∀ process stage sessionID pair, world.processes process = some stage →
    stage.starting = some (sessionID, pair) →
      pair.Fits sessionID ∧ ∀ token ∈ world.issued, token.sessionID ≠ sessionID
  source : ∀ process stage claims, world.processes process = some stage →
    stage.claims = some claims → claims.From world.issued
  revokes : ∀ process stage sessionID, world.processes process = some stage →
    stage.revokes = some sessionID → ∃ token ∈ world.issued, token.sessionID = sessionID
  /-- The mark of a used token lasts as long as the session and the token. -/
  marked : ∀ sessionID id, (sessionID, id) ∈ world.accepted →
    ∃ token ∈ world.issued, token.tokenKind = .refresh ∧ token.sessionID = sessionID ∧
      token.id = id ∧ ∃ expiry, world.store.used sessionID id = some expiry ∧
        ∀ session, world.store.sessions sessionID = some session →
          min session.expiresAt token.expiresAt ≤ expiry
  holders : ∀ process other stage second sessionID, world.processes process = some stage →
    world.processes other = some second → stage.Holds sessionID → second.Holds sessionID →
      process = other
  held : ∀ process stage, world.processes process = some stage → ∀ token ∈ world.issued,
    token.tokenKind = .refresh → stage.Holds token.sessionID →
      (token.sessionID, token.id) ∈ world.accepted
  single : ∀ token ∈ world.issued, ∀ other ∈ world.issued, token.tokenKind = .refresh →
    other.tokenKind = .refresh → token.sessionID = other.sessionID →
    (token.sessionID, token.id) ∉ world.accepted → (other.sessionID, other.id) ∉ world.accepted →
      token = other
  once : world.accepted.Nodup
  deadline : ∀ token ∈ world.issued, ∃ login ∈ world.logins,
    login.sessionID = token.sessionID ∧ token.expiresAt ≤ login.expiresAt
  logins : ∀ login ∈ world.logins, login ∈ world.issued
  origin : ∀ login ∈ world.logins, ∀ other ∈ world.logins, login.sessionID = other.sessionID →
    login = other
  loggedOut : ∀ sessionID ∈ world.loggedOut,
    (∃ token ∈ world.issued, token.sessionID = sessionID) ∧
      ∀ session, world.store.sessions sessionID = some session →
        session.active = false ∨ session.expiresAt < world.clock

theorem AuthWorld.Initial.sound (initial : world.Initial) : world.Sound settings := by
  have unknown : ∀ token, ¬ world.Known token := by
    rintro token (member | ⟨process, stage, _, _, running, _⟩)
    · rw [initial.noTokens] at member
      cases member
    · rw [initial.noProcesses] at running
      cases running
  have idle : ∀ process stage, world.processes process ≠ some stage := by
    intro process stage running
    rw [initial.noProcesses] at running
    cases running
  have none : ∀ token, token ∉ world.issued := fun token member => unknown token (Or.inl member)
  refine
    { generated := fun token known => absurd known (unknown token)
      unique := fun token _ known => absurd known (unknown token)
      opened := ?_
      starts := fun _ _ _ _ running => absurd running (idle _ _)
      source := fun _ _ _ running => absurd running (idle _ _)
      revokes := fun _ _ _ running => absurd running (idle _ _)
      marked := ?_
      holders := fun _ _ _ _ _ running => absurd running (idle _ _)
      held := fun _ _ running => absurd running (idle _ _)
      single := fun token member => absurd member (none token)
      once := ?_
      deadline := fun token member => absurd member (none token)
      logins := ?_
      origin := ?_
      loggedOut := ?_ }
  · intro sessionID session present
    rw [initial.noSessions] at present
    cases present
  · rw [initial.noneAccepted]
    nofun
  · rw [initial.noneAccepted]
    exact List.nodup_nil
  · rw [initial.noLogins]
    nofun
  · rw [initial.noLogins]
    nofun
  · rw [initial.noneLoggedOut]
    nofun

/-! ### Steps between the scripts -/

/-- What a call may turn into without a token or a session changing hands. -/
structure Process.Follows (world : AuthWorld) (process : Nat) (stage : Process) : Prop where
  starting : ∀ start, stage.starting = some start →
    ∃ before, world.processes process = some before ∧ before.starting = some start
  claims : ∀ claims, stage.claims = some claims → claims.From world.issued
  spent : stage.spent = none
  revokes : ∀ sessionID, stage.revokes = some sessionID →
    ∃ token ∈ world.issued, token.sessionID = sessionID

theorem Process.Follows.holds {process : Nat} {stage : Process} {sessionID : String}
    (follows : stage.Follows world process) (holds : stage.Holds sessionID) :
    ∃ before, world.processes process = some before ∧ before.Holds sessionID := by
  rcases holds with ⟨pair, start⟩ | ⟨claims, spent, _⟩
  · obtain ⟨before, running, same⟩ := follows.starting _ start
    exact ⟨before, running, Or.inl ⟨pair, same⟩⟩
  · rw [follows.spent] at spent
    cases spent

theorem AuthWorld.become_cases {process other : Nat} {stage : Option Process} {second : Process}
    (running : (world.become process stage).processes other = some second) :
    (other ≠ process ∧ world.processes other = some second) ∨
      (other = process ∧ stage = some second) := by
  by_cases same : other = process
  · subst same
    right
    change Function.update world.processes other stage other = some second at running
    rw [Function.update_self] at running
    exact ⟨rfl, running⟩
  · left
    change Function.update world.processes process stage other = some second at running
    rw [Function.update_of_ne same] at running
    exact ⟨same, running⟩

theorem AuthWorld.Sound.become {process : Nat} {stage : Option Process}
    (sound : world.Sound settings)
    (follows : ∀ next, stage = some next → next.Follows world process) :
    (world.become process stage).Sound settings := by
  have known : ∀ token, (world.become process stage).Known token → world.Known token := by
    rintro token (member | ⟨other, second, sessionID, pair, running, start, which⟩)
    · exact Or.inl member
    · rcases AuthWorld.become_cases running with ⟨_, before⟩ | ⟨rfl, same⟩
      · exact Or.inr ⟨other, second, sessionID, pair, before, start, which⟩
      · obtain ⟨before, old, started⟩ := (follows second same).starting _ start
        exact Or.inr ⟨other, before, sessionID, pair, old, started, which⟩
  have holds : ∀ other second sessionID,
      (world.become process stage).processes other = some second → second.Holds sessionID →
        ∃ before, world.processes other = some before ∧ before.Holds sessionID := by
    intro other second sessionID running holding
    rcases AuthWorld.become_cases running with ⟨_, before⟩ | ⟨rfl, same⟩
    · exact ⟨second, before, holding⟩
    · exact (follows second same).holds holding
  refine
    { generated := fun token mine => sound.generated token (known token mine)
      unique := fun token other mine yours =>
        sound.unique token other (known token mine) (known other yours)
      opened := sound.opened
      starts := ?_
      source := ?_
      revokes := ?_
      marked := sound.marked
      holders := ?_
      held := ?_
      single := sound.single
      once := sound.once
      deadline := sound.deadline
      logins := sound.logins
      origin := sound.origin
      loggedOut := sound.loggedOut }
  · intro other second sessionID pair running start
    rcases AuthWorld.become_cases running with ⟨_, before⟩ | ⟨rfl, same⟩
    · exact sound.starts other second sessionID pair before start
    · obtain ⟨before, old, started⟩ := (follows second same).starting _ start
      exact sound.starts other before sessionID pair old started
  · intro other second claims running about
    rcases AuthWorld.become_cases running with ⟨_, before⟩ | ⟨_, same⟩
    · exact sound.source other second claims before about
    · exact (follows second same).claims claims about
  · intro other second sessionID running about
    rcases AuthWorld.become_cases running with ⟨_, before⟩ | ⟨_, same⟩
    · exact sound.revokes other second sessionID before about
    · exact (follows second same).revokes sessionID about
  · intro one two stage second sessionID first last mine yours
    obtain ⟨before, old, holding⟩ := holds one stage sessionID first mine
    obtain ⟨earlier, older, keeping⟩ := holds two second sessionID last yours
    exact sound.holders one two before earlier sessionID old older holding keeping
  · intro other second running token member kind mine
    obtain ⟨before, old, holding⟩ := holds other second token.sessionID running mine
    exact sound.held other before old token member kind holding

theorem AuthWorld.Sound.stop (sound : world.Sound settings) (process : Nat) :
    (world.become process none).Sound settings := by
  refine sound.become ?_
  intro next same
  cases same

theorem AuthWorld.Sound.spawn {process : Nat} {stage : Option Process}
    (sound : world.Sound settings)
    (follows : ∀ next, stage = some next → next.Follows world process) :
    (world.spawn process stage).Sound settings := by
  unfold AuthWorld.spawn
  split
  · exact sound.become follows
  · exact sound

theorem AuthWorld.Sound.elapse (sound : world.Sound settings) (duration : Nat) :
    { world with clock := world.clock + duration }.Sound settings := by
  refine { sound with loggedOut := ?_ }
  intro sessionID member
  obtain ⟨token, concluded⟩ := sound.loggedOut sessionID member
  refine ⟨token, ?_⟩
  intro session present
  rcases concluded session present with inactive | expired
  · exact Or.inl inactive
  · exact Or.inr (lt_of_lt_of_le expired (Int.le_add_of_nonneg_right (Int.natCast_nonneg duration)))

theorem AuthWorld.Sound.accounts (sound : world.Sound settings) (accounts : Int → Option Account)
    (nextAccount : Int) :
    { world with accounts := accounts, nextAccount := nextAccount }.Sound settings :=
  { sound with }

/-! ### Logins -/

/-- A session that was never named has no token and nothing holds it. -/
theorem AuthWorld.Sound.unnamed (sound : world.Sound settings) {number : Nat}
    (fresh : world.generated ≤ number) :
    (∀ token ∈ world.issued, token.sessionID ≠ settings.tokenID number) ∧
      ∀ process stage, world.processes process = some stage →
        ¬ stage.Holds (settings.tokenID number) := by
  refine ⟨?_, ?_⟩
  · intro token member
    exact (sound.generated token (Or.inl member)).1.ne fresh
  · rintro process stage running (⟨pair, start⟩ | ⟨claims, spent, about⟩)
    · have fits := (sound.starts process stage _ pair running start).1
      have known : world.Known pair.refreshToken :=
        Or.inr ⟨process, stage, _, pair, running, start, Or.inr rfl⟩
      exact (sound.generated _ known).1.ne fresh fits.refresh
    · have read : stage.claims = some claims := by
        cases stage <;> first | exact spent | cases spent
      obtain ⟨token, member, _, same⟩ := sound.source process stage claims running read
      rw [same] at about
      exact (sound.generated token (Or.inl member)).1.ne fresh about

theorem AuthWorld.Sound.begin {process : Nat} {stage : Process} {pair : TokenPair}
    (sound : world.Sound settings)
    (start : stage.starting = some (settings.tokenID world.generated, pair))
    (claimless : stage.claims = none) (unspent : stage.spent = none) (revokes : stage.revokes = none)
    (fits : pair.Fits (settings.tokenID world.generated))
    (accessID : pair.accessToken.id = settings.tokenID (world.generated + 1))
    (refreshID : pair.refreshToken.id = settings.tokenID (world.generated + 2)) :
    { world.become process (some stage) with generated := world.generated + 3 }.Sound settings := by
  obtain ⟨unissued, unheld⟩ := sound.unnamed (le_refl world.generated)
  have known : ∀ token, (world.become process (some stage)).Known token →
      world.Known token ∨ token = pair.accessToken ∨ token = pair.refreshToken := by
    rintro token (member | ⟨other, second, sessionID, mine, running, started, which⟩)
    · exact Or.inl (Or.inl member)
    · rcases AuthWorld.become_cases running with ⟨_, before⟩ | ⟨rfl, same⟩
      · exact Or.inl (Or.inr ⟨other, second, sessionID, mine, before, started, which⟩)
      · cases same
        rw [start] at started
        cases started
        exact Or.inr which
  have holds : ∀ other second sessionID,
      (world.become process (some stage)).processes other = some second →
        second.Holds sessionID →
          world.processes other = some second ∨
            (other = process ∧ sessionID = settings.tokenID world.generated) := by
    intro other second sessionID running holding
    rcases AuthWorld.become_cases running with ⟨_, before⟩ | ⟨rfl, same⟩
    · exact Or.inl before
    · cases same
      rcases holding with ⟨mine, started⟩ | ⟨claims, spent, _⟩
      · rw [start] at started
        cases started
        exact Or.inr ⟨rfl, rfl⟩
      · rw [unspent] at spent
        cases spent
  have old : ∀ token, world.Known token → token.id ≠ pair.accessToken.id ∧
      token.id ≠ pair.refreshToken.id := by
    intro token mine
    rw [accessID, refreshID]
    have named := (sound.generated token mine).2
    exact ⟨named.ne (by omega), named.ne (by omega)⟩
  have apart : pair.accessToken.id ≠ pair.refreshToken.id := by
    rw [accessID, refreshID]
    intro same
    have equal := settings.distinct same
    omega
  refine
    { sound with
      generated := ?_
      unique := ?_
      starts := ?_
      source := ?_
      revokes := ?_
      holders := ?_
      held := ?_ }
  · intro token mine
    change settings.Generated (world.generated + 3) token.sessionID ∧
      settings.Generated (world.generated + 3) token.id
    rcases known token mine with before | rfl | rfl
    · obtain ⟨session, id⟩ := sound.generated token before
      exact ⟨session.mono (by omega), id.mono (by omega)⟩
    · exact ⟨⟨world.generated, by omega, fits.access⟩, ⟨world.generated + 1, by omega, accessID⟩⟩
    · exact ⟨⟨world.generated, by omega, fits.refresh⟩, ⟨world.generated + 2, by omega, refreshID⟩⟩
  · intro token other mine yours same
    rcases known token mine with before | rfl | rfl <;>
      rcases known other yours with earlier | rfl | rfl
    · exact sound.unique token other before earlier same
    · exact absurd same (old token before).1
    · exact absurd same (old token before).2
    · exact absurd same.symm (old other earlier).1
    · rfl
    · exact absurd same apart
    · exact absurd same.symm (old other earlier).2
    · exact absurd same.symm apart
    · rfl
  · intro other second sessionID mine running started
    rcases AuthWorld.become_cases running with ⟨_, before⟩ | ⟨rfl, same⟩
    · exact sound.starts other second sessionID mine before started
    · cases same
      rw [start] at started
      cases started
      exact ⟨fits, unissued⟩
  · intro other second claims running about
    rcases AuthWorld.become_cases running with ⟨_, before⟩ | ⟨_, same⟩
    · exact sound.source other second claims before about
    · cases same
      rw [claimless] at about
      cases about
  · intro other second sessionID running about
    rcases AuthWorld.become_cases running with ⟨_, before⟩ | ⟨_, same⟩
    · exact sound.revokes other second sessionID before about
    · cases same
      rw [revokes] at about
      cases about
  · intro one two first second sessionID running going mine yours
    rcases holds one first sessionID running mine with before | ⟨here, new⟩ <;>
      rcases holds two second sessionID going yours with earlier | ⟨there, fresh⟩
    · exact sound.holders one two first second sessionID before earlier mine yours
    · rw [fresh] at mine
      exact absurd mine (unheld one first before)
    · rw [new] at yours
      exact absurd yours (unheld two second earlier)
    · exact here.trans there.symm
  · intro other second running token member kind mine
    rcases holds other second token.sessionID running mine with before | ⟨_, new⟩
    · exact sound.held other second before token member kind mine
    · exact absurd new (unissued token member)

theorem AuthWorld.Sound.startSession {process : Nat} {userID : Int} {role : String} {version : Int}
    (sound : world.Sound settings) :
    (world.startSession settings process userID role version).Sound settings := by
  unfold AuthWorld.startSession
  dsimp only
  split
  · exact sound.stop process
  · exact sound.begin rfl rfl rfl rfl (settings.signPair_fits ..) rfl rfl

theorem EcommerceClaims.From.mono {issued more : List EcommerceClaims} {claims : EcommerceClaims}
    (source : claims.From issued) (kept : ∀ token ∈ issued, token ∈ more) : claims.From more := by
  obtain ⟨token, member, rest⟩ := source
  exact ⟨token, kept token member, rest⟩

theorem TokenPair.mem_release {pair : TokenPair} {token : EcommerceClaims} :
    token ∈ (world.release pair).issued ↔
      token ∈ world.issued ∨ token = pair.accessToken ∨ token = pair.refreshToken := by
  change token ∈ world.issued ++ [pair.accessToken, pair.refreshToken] ↔ _
  rw [List.mem_append, List.mem_pair]

/-- What a call must show that hands out a pair for the session it holds. -/
structure AuthWorld.Hands (settings : AuthSettings) (world : AuthWorld) (process : Nat)
    (stage : Process) (sessionID : String) (pair : TokenPair) (store : SessionStore)
    (generated : Nat) (logins : List EcommerceClaims) : Prop where
  running : world.processes process = some stage
  holding : stage.Holds sessionID
  fits : pair.Fits sessionID
  named : settings.Generated generated sessionID ∧
    settings.Generated generated pair.accessToken.id ∧
    settings.Generated generated pair.refreshToken.id
  count : world.generated ≤ generated
  fresh : ∀ token, (world.become process none).Known token →
    token.id ≠ pair.accessToken.id ∧ token.id ≠ pair.refreshToken.id
  apart : pair.accessToken.id ≠ pair.refreshToken.id
  used : store.used = world.store.used
  /-- Only the session itself may be new in the store. -/
  kept : ∀ token ∈ world.issued,
    store.sessions token.sessionID = world.store.sessions token.sessionID
  opened : ∀ name session, store.sessions name = some session →
    name = sessionID ∨ world.store.sessions name = some session
  loginsKept : ∀ login ∈ world.logins, login ∈ logins
  loginsIssued : ∀ login ∈ logins, login ∈ world.logins ∨ login = pair.refreshToken
  origin : ∀ login ∈ logins, ∀ other ∈ logins, login.sessionID = other.sessionID → login = other
  covered : ∃ login ∈ logins, login.sessionID = sessionID ∧
    pair.refreshToken.expiresAt ≤ login.expiresAt

theorem AuthWorld.Sound.hand {process : Nat} {stage : Process} {sessionID : String}
    {pair : TokenPair} {store : SessionStore} {generated : Nat} {logins : List EcommerceClaims}
    (sound : world.Sound settings)
    (hands : world.Hands settings process stage sessionID pair store generated logins) :
    { (world.become process none).release pair with
      store := store
      generated := generated
      logins := logins }.Sound settings := by
  have fits := hands.fits
  have cases : ∀ other second, (world.become process none).processes other = some second →
      other ≠ process ∧ world.processes other = some second := by
    intro other second going
    rcases AuthWorld.become_cases going with before | ⟨_, none⟩
    · exact before
    · cases none
  have issued : ∀ token, token ∈ ((world.become process none).release pair).issued →
      token ∈ world.issued ∨ token = pair.accessToken ∨ token = pair.refreshToken :=
    fun token member => TokenPair.mem_release.mp member
  have kept : ∀ token ∈ world.issued, token ∈ ((world.become process none).release pair).issued :=
    fun token member => TokenPair.mem_release.mpr (Or.inl member)
  have accessIssued : pair.accessToken ∈ ((world.become process none).release pair).issued :=
    TokenPair.mem_release.mpr (Or.inr (Or.inl rfl))
  have refreshIssued : pair.refreshToken ∈ ((world.become process none).release pair).issued :=
    TokenPair.mem_release.mpr (Or.inr (Or.inr rfl))
  have before : ∀ token, (world.become process none).Known token → world.Known token := by
    rintro token (member | ⟨other, second, name, mine, going, started, which⟩)
    · exact Or.inl member
    · exact Or.inr ⟨other, second, name, mine, (cases other second going).2, started, which⟩
  have known : ∀ token, ((world.become process none).release pair).Known token →
      (world.become process none).Known token ∨ token = pair.accessToken ∨
        token = pair.refreshToken := by
    rintro token (member | elsewhere)
    · rcases issued token member with old | new
      · exact Or.inl (Or.inl old)
      · exact Or.inr new
    · exact Or.inl (Or.inr elsewhere)
  have alone : ∀ other second name, (world.become process none).processes other = some second →
      second.Holds name → name ≠ sessionID := by
    rintro other second name going holds rfl
    obtain ⟨different, old⟩ := cases other second going
    exact different (sound.holders other process second stage name old hands.running holds
      hands.holding)
  have spent : ∀ token ∈ world.issued, token.tokenKind = .refresh → token.sessionID = sessionID →
      (token.sessionID, token.id) ∈ world.accepted := by
    rintro token member kind rfl
    exact sound.held process stage hands.running token member kind hands.holding
  refine
    { generated := ?_
      unique := ?_
      opened := ?_
      starts := ?_
      source := fun other second claims going about =>
        (sound.source other second claims (cases other second going).2 about).mono kept
      revokes := ?_
      marked := ?_
      holders := fun one two first second name going moving =>
        sound.holders one two first second name (cases one first going).2 (cases two second moving).2
      held := ?_
      single := ?_
      once := sound.once
      deadline := ?_
      logins := ?_
      origin := hands.origin
      loggedOut := ?_ }
  · intro token mine
    change settings.Generated generated token.sessionID ∧ settings.Generated generated token.id
    obtain ⟨session, accessID, refreshID⟩ := hands.named
    rcases known token mine with old | rfl | rfl
    · obtain ⟨first, second⟩ := sound.generated token (before token old)
      exact ⟨first.mono hands.count, second.mono hands.count⟩
    · rw [fits.access]
      exact ⟨session, accessID⟩
    · rw [fits.refresh]
      exact ⟨session, refreshID⟩
  · intro token other mine yours same
    rcases known token mine with old | rfl | rfl <;> rcases known other yours with older | rfl | rfl
    · exact sound.unique token other (before token old) (before other older) same
    · exact absurd same (hands.fresh token old).1
    · exact absurd same (hands.fresh token old).2
    · exact absurd same.symm (hands.fresh other older).1
    · rfl
    · exact absurd same hands.apart
    · exact absurd same.symm (hands.fresh other older).2
    · exact absurd same.symm hands.apart
    · rfl
  · intro name session present
    rcases hands.opened name session present with rfl | old
    · exact ⟨pair.accessToken, accessIssued, fits.access⟩
    · obtain ⟨token, member, about⟩ := sound.opened name session old
      exact ⟨token, kept token member, about⟩
  · intro other second name mine going started
    obtain ⟨own, unnamed⟩ :=
      sound.starts other second name mine (cases other second going).2 started
    have different := alone other second name going (Or.inl ⟨mine, started⟩)
    refine ⟨own, ?_⟩
    intro token member
    rcases issued token member with old | rfl | rfl
    · exact unnamed token old
    · rw [fits.access]
      exact different.symm
    · rw [fits.refresh]
      exact different.symm
  · intro other second name going about
    obtain ⟨token, member, same⟩ := sound.revokes other second name (cases other second going).2 about
    exact ⟨token, kept token member, same⟩
  · intro name id member
    obtain ⟨token, old, kind, rfl, named, expiry, mark, lasts⟩ := sound.marked name id member
    refine ⟨token, kept token old, kind, rfl, named, expiry, ?_, ?_⟩
    · change store.used token.sessionID id = some expiry
      rw [hands.used]
      exact mark
    · intro session present
      exact lasts session ((hands.kept token old).symm.trans present)
  · intro other second going token member kind holds
    rcases issued token member with old | rfl | rfl
    · exact sound.held other second (cases other second going).2 token old kind holds
    · rw [fits.kind] at kind
      cases kind
    · exact absurd fits.refresh (alone other second _ going holds)
  · intro token mine other yours kind otherKind same unused otherUnused
    rcases issued token mine with old | rfl | rfl <;> rcases issued other yours with older | rfl | rfl
    · exact sound.single token old other older kind otherKind same unused otherUnused
    · rw [fits.kind] at otherKind
      cases otherKind
    · exact absurd (spent token old kind (same.trans fits.refresh)) unused
    · rw [fits.kind] at kind
      cases kind
    · rfl
    · rw [fits.kind] at kind
      cases kind
    · exact absurd (spent other older otherKind (same.symm.trans fits.refresh)) otherUnused
    · rw [fits.kind] at otherKind
      cases otherKind
    · rfl
  · intro token member
    obtain ⟨login, listed, about, bound⟩ := hands.covered
    rcases issued token member with old | rfl | rfl
    · obtain ⟨first, earlier, own, limit⟩ := sound.deadline token old
      exact ⟨first, hands.loginsKept first earlier, own, limit⟩
    · exact ⟨login, listed, about.trans fits.access.symm, le_trans fits.deadline bound⟩
    · exact ⟨login, listed, about.trans fits.refresh.symm, bound⟩
  · intro login member
    rcases hands.loginsIssued login member with old | rfl
    · exact kept login (sound.logins login old)
    · exact refreshIssued
  · intro name member
    obtain ⟨⟨token, old, rfl⟩, concluded⟩ := sound.loggedOut name member
    refine ⟨⟨token, kept token old, rfl⟩, ?_⟩
    intro session present
    exact concluded session ((hands.kept token old).symm.trans present)

theorem AuthWorld.Sound.create {process : Nat} {stage : Process} {sessionID : String}
    {pair : TokenPair} {session : Session} (sound : world.Sound settings)
    (running : world.processes process = some stage)
    (start : stage.starting = some (sessionID, pair)) :
    { (world.become process none).release pair with
      store :=
        { world.store with
          sessions := Function.update world.store.sessions sessionID (some session) }
      generated := world.generated
      logins := world.logins ++ [pair.refreshToken] }.Sound settings := by
  obtain ⟨fits, unissued⟩ := sound.starts process stage sessionID pair running start
  have holding : stage.Holds sessionID := Or.inl ⟨pair, start⟩
  have accessKnown : world.Known pair.accessToken :=
    Or.inr ⟨process, stage, sessionID, pair, running, start, Or.inl rfl⟩
  have refreshKnown : world.Known pair.refreshToken :=
    Or.inr ⟨process, stage, sessionID, pair, running, start, Or.inr rfl⟩
  -- Nobody else knows the tokens of the session yet.
  have apart : ∀ token, (world.become process none).Known token →
      token.sessionID ≠ sessionID ∧ world.Known token := by
    rintro token (member | ⟨other, second, name, mine, going, started, which⟩)
    · exact ⟨unissued token member, Or.inl member⟩
    · rcases AuthWorld.become_cases going with ⟨different, old⟩ | ⟨_, none⟩
      · refine ⟨?_, Or.inr ⟨other, second, name, mine, old, started, which⟩⟩
        have own := (sound.starts other second name mine old started).1
        have about : token.sessionID = name := by
          rcases which with rfl | rfl
          · exact own.access
          · exact own.refresh
        rw [about]
        rintro rfl
        exact different (sound.holders other process second stage name old running
          (Or.inl ⟨mine, started⟩) holding)
      · cases none
  have named := sound.generated _ refreshKnown
  refine sound.hand
    { running := running
      holding := holding
      fits := fits
      named := ⟨fits.refresh ▸ named.1, (sound.generated _ accessKnown).2, named.2⟩
      count := le_refl _
      fresh := ?_
      apart := ?_
      used := rfl
      kept := ?_
      opened := ?_
      loginsKept := fun login member => List.mem_append_left _ member
      loginsIssued := ?_
      origin := ?_
      covered := ⟨pair.refreshToken, List.mem_append_right _ (List.mem_singleton.mpr rfl),
        fits.refresh, le_refl _⟩ }
  · intro token mine
    obtain ⟨elsewhere, old⟩ := apart token mine
    refine ⟨?_, ?_⟩
    · intro same
      have equal := sound.unique token _ old accessKnown same
      exact elsewhere (equal ▸ fits.access)
    · intro same
      have equal := sound.unique token _ old refreshKnown same
      exact elsewhere (equal ▸ fits.refresh)
  · intro same
    have equal := sound.unique _ _ accessKnown refreshKnown same
    have kinds := fits.kind
    rw [equal, fits.refreshKind] at kinds
    cases kinds
  · intro token member
    exact Function.update_of_ne (unissued token member) ..
  · intro name other present
    by_cases same : name = sessionID
    · exact Or.inl same
    · right
      change Function.update world.store.sessions sessionID (some session) name = some other at present
      rw [Function.update_of_ne same] at present
      exact present
  · intro login member
    rcases List.mem_append.mp member with old | new
    · exact Or.inl old
    · exact Or.inr (List.mem_singleton.mp new)
  · intro login mine other yours same
    rcases List.mem_append.mp mine with old | new <;> rcases List.mem_append.mp yours with older | newer
    · exact sound.origin login old other older same
    · cases List.mem_singleton.mp newer
      rw [fits.refresh] at same
      exact absurd same (unissued login (sound.logins login old))
    · cases List.mem_singleton.mp new
      rw [fits.refresh] at same
      exact absurd same.symm (unissued other (sound.logins other older))
    · cases List.mem_singleton.mp new
      cases List.mem_singleton.mp newer
      rfl

theorem AuthWorld.Sound.createSession {process : Nat} {sessionID : String} {userID : Int}
    {expiration : Int} {pair : TokenPair} (sound : world.Sound settings)
    (running : world.processes process = some (.creating sessionID userID expiration pair)) :
    (world.createSession process sessionID userID expiration pair).Sound settings := by
  unfold AuthWorld.createSession
  split
  · exact sound.stop process
  · next store created =>
      unfold SessionStore.createSession at created
      obtain ⟨_, _, created⟩ := bind_eq_ok.mp created
      obtain ⟨_, _, created⟩ := bind_eq_ok.mp created
      cases pure_eq_ok.mp created
      exact sound.create running rfl

/-! ### Refreshing -/

/-- What an accepted refresh token has met, and the mark that it leaves. -/
structure AuthWorld.Consumes (world : AuthWorld) (claims : EcommerceClaims) (session : Session)
    (store : SessionStore) : Prop where
  present : world.store.sessions claims.sessionID = some session
  active : session.active = true
  lasting : world.clock < session.expiresAt
  valid : world.clock < claims.expiresAt
  unmarked : ∀ expiry, world.store.used claims.sessionID claims.id = some expiry →
    expiry < world.clock
  marks : store =
    { world.store with
      used := Function.update world.store.used claims.sessionID
        (Function.update (world.store.used claims.sessionID) claims.id
          (some (min session.expiresAt claims.expiresAt))) }

theorem SessionStore.session_eq_some {store : SessionStore} {now : Time} {id : String}
    {session : Session} (found : store.session now id = some session) :
    store.sessions id = some session ∧ now ≤ session.expiresAt := by
  obtain ⟨present, living⟩ := Option.filter_eq_some_iff.mp found
  exact ⟨present, of_decide_eq_true living⟩

private theorem add_min_sub (now first second : Int) :
    now + min (first - now) (second - now) = min first second := by
  omega

theorem AuthWorld.consume_eq_some {claims : EcommerceClaims} {store : SessionStore}
    (done : world.consume claims = some store) : ∃ session, world.Consumes claims session store := by
  unfold AuthWorld.consume SessionStore.consumeSessionRefresh at done
  split at done
  · cases done
  · next checked =>
    push Not at checked
    obtain ⟨_, _, _, valid⟩ := checked
    split at done
    · cases done
    · next session found =>
      obtain ⟨present, _⟩ := SessionStore.session_eq_some found
      split at done
      · cases done
      · next owned =>
        push Not at owned
        dsimp only at done
        split at done
        · cases done
        · next left =>
          split at done
          · cases done
          · next unmarked =>
            cases done
            have ends : world.clock + min (session.expiresAt - world.clock)
                (claims.expiresAt - world.clock) = min session.expiresAt claims.expiresAt :=
              add_min_sub ..
            refine ⟨session, present, Bool.ne_false_iff.mp owned.2, ?_, ?_, ?_, ?_⟩
            · exact Int.lt_of_sub_pos (not_le.mp left)
            · exact Int.lt_of_sub_pos valid
            · intro expiry marked
              by_contra late
              apply unmarked
              have living : alive world.clock expiry = true := decide_eq_true (not_lt.mp late)
              rw [marked, Option.filter_some, if_pos living]
              rfl
            · rw [ends]

/-- An accepted token is an issued one that was not accepted before. -/
theorem AuthWorld.Sound.consumes_fresh {process : Nat} {claims : EcommerceClaims} {session : Session}
    {store : SessionStore} (sound : world.Sound settings)
    (running : world.processes process = some (.consuming claims))
    (consumes : world.Consumes claims session store) :
    ∃ token ∈ world.issued, token.tokenKind = .refresh ∧ token.sessionID = claims.sessionID ∧
      token.id = claims.id ∧ token.expiresAt = claims.expiresAt ∧
      (claims.sessionID, claims.id) ∉ world.accepted := by
  obtain ⟨token, member, kind, same⟩ := sound.source process _ claims running rfl
  have session' : token.sessionID = claims.sessionID := by rw [same]
  have id' : token.id = claims.id := by rw [same]
  have expires : token.expiresAt = claims.expiresAt := by rw [same]
  refine ⟨token, member, kind, session', id', expires, ?_⟩
  intro again
  obtain ⟨first, earlier, _, _, named, expiry, mark, lasts⟩ :=
    sound.marked claims.sessionID claims.id again
  have equal : first = token :=
    sound.unique first token (Or.inl earlier) (Or.inl member) (named.trans id'.symm)
  have ended := consumes.unmarked expiry mark
  have bound := lasts session consumes.present
  rw [equal, expires] at bound
  have running := lt_min consumes.lasting consumes.valid
  exact absurd (lt_of_lt_of_le running bound) (not_lt.mpr (le_of_lt ended))

theorem AuthWorld.Sound.consumeRefresh {process : Nat} {claims : EcommerceClaims}
    (sound : world.Sound settings)
    (running : world.processes process = some (.consuming claims)) :
    (world.consumeRefresh process claims).Sound settings := by
  unfold AuthWorld.consumeRefresh
  split
  · exact sound.stop process
  · next store done =>
    obtain ⟨session, consumes⟩ := AuthWorld.consume_eq_some done
    obtain ⟨token, member, kind, about, named, expires, unused⟩ :=
      sound.consumes_fresh running consumes
    have unheld : ∀ other second, world.processes other = some second →
        ¬ second.Holds claims.sessionID := by
      intro other second going holding
      rw [← about] at holding
      have used := sound.held other second going token member kind holding
      rw [about, named] at used
      exact unused used
    have holds : ∀ other second sessionID,
        (world.become process (some (.rotating claims))).processes other = some second →
          second.Holds sessionID → world.processes other = some second ∨
            (other = process ∧ sessionID = claims.sessionID) := by
      intro other second sessionID going holding
      rcases AuthWorld.become_cases going with ⟨_, before⟩ | ⟨rfl, same⟩
      · exact Or.inl before
      · cases same
        rcases holding with ⟨_, start⟩ | ⟨spent, which, own⟩
        · cases start
        · cases which
          exact Or.inr ⟨rfl, own.symm⟩
    have known : ∀ other, (world.become process (some (.rotating claims))).Known other →
        world.Known other := by
      rintro other (listed | ⟨index, second, sessionID, pair, going, start, which⟩)
      · exact Or.inl listed
      · rcases AuthWorld.become_cases going with ⟨_, before⟩ | ⟨_, same⟩
        · exact Or.inr ⟨index, second, sessionID, pair, before, start, which⟩
        · cases same
          cases start
    cases consumes.marks
    refine
      { generated := fun other mine => sound.generated other (known other mine)
        unique := fun one two mine yours => sound.unique one two (known one mine) (known two yours)
        opened := sound.opened
        starts := ?_
        source := ?_
        revokes := ?_
        marked := ?_
        holders := ?_
        held := ?_
        single := ?_
        once := List.nodup_cons.mpr ⟨unused, sound.once⟩
        deadline := sound.deadline
        logins := sound.logins
        origin := sound.origin
        loggedOut := sound.loggedOut }
    · intro other second sessionID pair going start
      rcases AuthWorld.become_cases going with ⟨_, before⟩ | ⟨_, same⟩
      · exact sound.starts other second sessionID pair before start
      · cases same
        cases start
    · intro other second own going which
      rcases AuthWorld.become_cases going with ⟨_, before⟩ | ⟨_, same⟩
      · exact sound.source other second own before which
      · cases same
        cases which
        exact sound.source process _ claims running rfl
    · intro other second sessionID going which
      rcases AuthWorld.become_cases going with ⟨_, before⟩ | ⟨_, same⟩
      · exact sound.revokes other second sessionID before which
      · cases same
        cases which
    · intro sessionID id listed
      by_cases here : sessionID = claims.sessionID ∧ id = claims.id
      · obtain ⟨rfl, rfl⟩ := here
        refine ⟨token, member, kind, about, named, min session.expiresAt claims.expiresAt, ?_, ?_⟩
        · change Function.update world.store.used _ _ _ _ = _
          rw [Function.update_self, Function.update_self]
        · intro other present
          have same : other = session := Option.some.inj (present.symm.trans consumes.present)
          rw [same, expires]
      · have before : (sessionID, id) ∈ world.accepted := by
          rcases List.mem_cons.mp listed with new | old
          · exact absurd (Prod.mk.inj new) here
          · exact old
        obtain ⟨first, old, oldKind, own, mine, expiry, mark, lasts⟩ :=
          sound.marked sessionID id before
        refine ⟨first, old, oldKind, own, mine, expiry, ?_, lasts⟩
        rw [← mark]
        change Function.update world.store.used _ _ sessionID id = _
        by_cases same : sessionID = claims.sessionID
        · subst same
          rw [Function.update_self, Function.update_of_ne (fun equal => here ⟨rfl, equal⟩)]
        · rw [Function.update_of_ne same]
    · intro one two first second sessionID going moving mine yours
      rcases holds one first sessionID going mine with before | ⟨here, new⟩ <;>
        rcases holds two second sessionID moving yours with earlier | ⟨there, fresh⟩
      · exact sound.holders one two first second sessionID before earlier mine yours
      · rw [fresh] at mine
        exact absurd mine (unheld one first before)
      · rw [new] at yours
        exact absurd yours (unheld two second earlier)
      · exact here.trans there.symm
    · intro other second going one listed oneKind holding
      rcases holds other second one.sessionID going holding with before | ⟨_, own⟩
      · exact List.mem_cons_of_mem _ (sound.held other second before one listed oneKind holding)
      · by_cases spent : (one.sessionID, one.id) ∈ world.accepted
        · exact List.mem_cons_of_mem _ spent
        · have equal : one = token := by
            refine sound.single one listed token member oneKind kind (own.trans about.symm) spent ?_
            rw [about, named]
            exact unused
          rw [equal, about, named]
          exact List.mem_cons_self
    · intro one mine two yours oneKind twoKind same oneUnused twoUnused
      exact sound.single one mine two yours oneKind twoKind same
        (fun used => oneUnused (List.mem_cons_of_mem _ used))
        (fun used => twoUnused (List.mem_cons_of_mem _ used))

theorem AuthWorld.Sound.rotate {process : Nat} {claims : EcommerceClaims}
    (sound : world.Sound settings)
    (running : world.processes process = some (.rotating claims)) :
    (world.rotate settings process claims).Sound settings := by
  obtain ⟨source, sourceMember, _, same⟩ := sound.source process _ claims running rfl
  have sourceSession : source.sessionID = claims.sessionID := by rw [same]
  have sourceDeadline : source.expiresAt = claims.expiresAt := by rw [same]
  have holding : (Process.rotating claims).Holds claims.sessionID := Or.inr ⟨claims, rfl, rfl⟩
  have before : ∀ token, (world.become process none).Known token → world.Known token := by
    rintro token (member | ⟨other, second, name, mine, going, started, which⟩)
    · exact Or.inl member
    · rcases AuthWorld.become_cases going with ⟨_, old⟩ | ⟨_, none⟩
      · exact Or.inr ⟨other, second, name, mine, old, started, which⟩
      · cases none
  obtain ⟨login, listed, about, bound⟩ := sound.deadline source sourceMember
  refine sound.hand
    { running := running
      holding := holding
      fits := settings.signPair_fits ..
      named := ⟨?_, ⟨world.generated, by omega, rfl⟩, ⟨world.generated + 1, by omega, rfl⟩⟩
      count := by omega
      fresh := ?_
      apart := ?_
      used := rfl
      kept := fun _ _ => rfl
      opened := fun _ _ present => Or.inr present
      loginsKept := fun _ member => member
      loginsIssued := fun _ member => Or.inl member
      origin := sound.origin
      covered := ⟨login, listed, about.trans sourceSession, ?_⟩ }
  · rw [← sourceSession]
    exact (sound.generated source (Or.inl sourceMember)).1.mono (by omega)
  · intro token mine
    have named := (sound.generated token (before token mine)).2
    exact ⟨named.ne (le_refl _), named.ne (by omega)⟩
  · intro same
    have equal := settings.distinct same
    omega
  · rw [sourceDeadline] at bound
    exact le_trans (truncateSecond_le claims.expiresAt) bound

/-! ### Revocation -/

theorem SessionStore.revokeSession_cases (store : SessionStore) (now : Time) (id : String)
    (userID : Int) :
    store.revokeSession now id userID = (false, store) ∨
      (store.session now id = none ∧ store.revokeSession now id userID = (true, store)) ∨
      ∃ session, store.session now id = some session ∧
        store.revokeSession now id userID =
          (true,
            { store with
              sessions := Function.update store.sessions id (some
                { session with active := false }) }) := by
  unfold SessionStore.revokeSession
  split
  · exact Or.inl rfl
  · split
    · next absent => exact Or.inr (Or.inl ⟨absent, rfl⟩)
    · next session present =>
        split
        · exact Or.inl rfl
        · exact Or.inr (Or.inr ⟨session, present, rfl⟩)

theorem AuthWorld.Sound.revoke {process : Nat} {sessionID : String} {userID : Int}
    (sound : world.Sound settings)
    (running : world.processes process = some (.revoking sessionID userID)) :
    (world.revoke process sessionID userID).Sound settings := by
  have issued := sound.revokes process _ sessionID running rfl
  have stopped := sound.stop process
  unfold AuthWorld.revoke
  rcases world.store.revokeSession_cases world.clock sessionID userID with
    refused | ⟨absent, gone⟩ | ⟨session, found, revoked⟩
  · rw [refused]
    exact { stopped with }
  · rw [gone]
    refine { stopped with loggedOut := ?_ }
    intro name member
    rcases List.mem_cons.mp member with rfl | old
    · refine ⟨issued, ?_⟩
      intro session present
      right
      by_contra living
      have found : world.store.session world.clock name = some session :=
        Option.filter_eq_some_iff.mpr ⟨present, decide_eq_true (not_lt.mp living)⟩
      rw [absent] at found
      cases found
    · exact sound.loggedOut name old
  · rw [revoked]
    obtain ⟨present, _⟩ := SessionStore.session_eq_some found
    -- The session stays in the store, with its deadline.
    have lookup : ∀ name other, Function.update world.store.sessions sessionID
        (some { session with active := false }) name = some other →
          (name = sessionID ∧ other = { session with active := false }) ∨
            (name ≠ sessionID ∧ world.store.sessions name = some other) := by
      intro name other after
      by_cases same : name = sessionID
      · subst same
        rw [Function.update_self] at after
        exact Or.inl ⟨rfl, (Option.some.inj after).symm⟩
      · rw [Function.update_of_ne same] at after
        exact Or.inr ⟨same, after⟩
    refine
      { stopped with
        opened := ?_
        marked := ?_
        loggedOut := ?_ }
    · intro name other after
      rcases lookup name other after with ⟨rfl, _⟩ | ⟨_, old⟩
      · exact issued
      · exact sound.opened name other old
    · intro name id member
      obtain ⟨token, old, kind, about, named, expiry, mark, lasts⟩ := sound.marked name id member
      refine ⟨token, old, kind, about, named, expiry, mark, ?_⟩
      intro other after
      rcases lookup name other after with ⟨rfl, rfl⟩ | ⟨_, before⟩
      · exact lasts session present
      · exact lasts other before
    · intro name member
      have old : name ≠ sessionID → name ∈ world.loggedOut :=
        fun different => (List.mem_cons.mp member).resolve_left different
      refine ⟨?_, ?_⟩
      · rcases List.mem_cons.mp member with rfl | before
        · exact issued
        · exact (sound.loggedOut name before).1
      · intro other after
        rcases lookup name other after with ⟨_, rfl⟩ | ⟨different, before⟩
        · exact Or.inl rfl
        · exact (sound.loggedOut name (old different)).2 other before

/-! ### Runs -/

theorem validateAccount_ok {account : Option Account} {claims current : EcommerceClaims}
    (valid : validateAccount account claims = .ok current) :
    ∃ user, account = some user ∧ claims.authVersion = user.authVersion ∧
      current = { claims with role := user.role } := by
  obtain ⟨_, _, valid⟩ := bind_eq_ok.mp valid
  obtain ⟨user, read, valid⟩ := bind_eq_ok.mp valid
  obtain ⟨_, version, valid⟩ := bind_eq_ok.mp valid
  exact ⟨user, found_eq_ok.mp read, require_eq_ok.mp version, (pure_eq_ok.mp valid).symm⟩

private theorem parseToken_eq_some {issued : List EcommerceClaims} {now : Time} {kind : TokenKind}
    {token claims : EcommerceClaims} (parsed : parseToken issued now kind token = some claims) :
    claims = token ∧ token ∈ issued ∧ token.tokenKind = kind := by
  unfold parseToken at parsed
  split at parsed
  · next valid => exact ⟨(Option.some.inj parsed).symm, valid.1, valid.2.2.1⟩
  · cases parsed

private theorem logoutStage_eq_some {issued : List EcommerceClaims} {now : Time}
    {claims : EcommerceClaims} {refreshToken : Option EcommerceClaims} {stage : Process}
    (checked : logoutStage issued now claims refreshToken = some stage) :
    claims ∈ issued ∧ stage = .revoking claims.sessionID claims.userID := by
  unfold logoutStage at checked
  split at checked
  · cases checked
  · next valid =>
      split at checked
      · cases checked
      · exact ⟨not_not.mp (not_or.mp valid).1, (Option.some.inj checked).symm⟩

private theorem changeStage_eq_some {account : Option Account} {id : Int}
    {oldPassword newPassword : String} {stage : Process}
    (checked : (changeStage settings account id oldPassword newPassword).toOption = some stage) :
    ∃ user passwordHash, account = some user ∧
      stage = .changing id user.authVersion passwordHash := by
  replace checked : changeStage settings account id oldPassword newPassword = .ok stage := by
    cases result : changeStage settings account id oldPassword newPassword with
    | error fault =>
        rw [result] at checked
        cases checked
    | ok reached =>
        rw [result] at checked
        cases checked
        rfl
  obtain ⟨_, _, checked⟩ := bind_eq_ok.mp checked
  obtain ⟨_, _, checked⟩ := bind_eq_ok.mp checked
  obtain ⟨_, _, checked⟩ := bind_eq_ok.mp checked
  obtain ⟨user, read, checked⟩ := bind_eq_ok.mp checked
  obtain ⟨_, _, checked⟩ := bind_eq_ok.mp checked
  obtain ⟨passwordHash, _, checked⟩ := bind_eq_ok.mp checked
  exact ⟨user, passwordHash, found_eq_ok.mp read, (pure_eq_ok.mp checked).symm⟩

theorem Process.Follows.idle {process : Nat} {stage : Process} (starting : stage.starting = none)
    (claims : stage.claims = none) (spent : stage.spent = none) (revokes : stage.revokes = none) :
    stage.Follows world process := by
  refine ⟨?_, ?_, spent, ?_⟩
  · intro start some
    rw [starting] at some
    cases some
  · intro token some
    rw [claims] at some
    cases some
  · intro sessionID some
    rw [revokes] at some
    cases some

theorem Process.Follows.token {process : Nat} {stage : Process} {token : EcommerceClaims}
    (starting : stage.starting = none) (claims : stage.claims = some token)
    (spent : stage.spent = none) (revokes : stage.revokes = none)
    (source : token.From world.issued) : stage.Follows world process := by
  refine ⟨?_, ?_, spent, ?_⟩
  · intro start some
    rw [starting] at some
    cases some
  · intro other some
    rw [claims] at some
    cases some
    exact source
  · intro sessionID some
    rw [revokes] at some
    cases some

theorem AuthWorld.Sound.advance {process : Nat} {stage : Process} (sound : world.Sound settings)
    (running : world.processes process = some stage) :
    (world.advance settings process stage).Sound settings := by
  cases stage with
  | verified userID role version => exact sound.startSession
  | signed sessionID userID deadline pair =>
      refine sound.become ?_
      rintro stage ⟨⟩
      refine ⟨?_, ?_, rfl, ?_⟩
      · rintro start ⟨⟩
        exact ⟨_, running, rfl⟩
      · rintro claims ⟨⟩
      · rintro name ⟨⟩
  | creating sessionID userID expiration pair => exact sound.createSession running
  | refreshing claims =>
      unfold AuthWorld.advance
      dsimp only
      split
      · exact sound.stop process
      · next current valid =>
          obtain ⟨user, _, _, rfl⟩ := validateAccount_ok valid
          obtain ⟨token, member, kind, same⟩ := sound.source process _ claims running rfl
          refine sound.become ?_
          rintro stage ⟨⟩
          exact Process.Follows.token rfl rfl rfl rfl ⟨token, member, kind, by rw [same]⟩
  | consuming claims => exact sound.consumeRefresh running
  | rotating claims => exact sound.rotate running
  | revoking sessionID userID => exact sound.revoke running
  | changing id version passwordHash =>
      have stopped := sound.stop process
      unfold AuthWorld.advance AuthWorld.updateUserPassword
      dsimp only
      split
      · exact stopped
      · exact { stopped with }

theorem AuthWorld.Sound.next (sound : world.Sound settings) (event : AuthEvent) :
    (world.next settings event).Sound settings := by
  cases event with
  | elapse duration => exact sound.elapse duration
  | createUser role passwordHash => exact sound.accounts _ _
  | updateUserRole id role => exact sound.accounts _ _
  | deleteUser id => exact sound.accounts _ _
  | login process id =>
      refine sound.spawn ?_
      intro stage verified
      obtain ⟨account, _, rfl⟩ := Option.map_eq_some_iff.mp verified
      exact Process.Follows.idle rfl rfl rfl rfl
  | refreshSession process token =>
      refine sound.spawn ?_
      intro stage parsed
      obtain ⟨claims, read, rfl⟩ := Option.map_eq_some_iff.mp parsed
      obtain ⟨rfl, member, kind⟩ := parseToken_eq_some read
      exact Process.Follows.token rfl rfl rfl rfl ⟨claims, member, kind, rfl⟩
  | logout process claims refreshToken =>
      refine sound.spawn ?_
      intro stage checked
      obtain ⟨member, rfl⟩ := logoutStage_eq_some checked
      refine ⟨?_, ?_, rfl, ?_⟩
      · rintro start ⟨⟩
      · rintro token ⟨⟩
      · rintro name ⟨⟩
        exact ⟨claims, member, rfl⟩
  | changePassword process id oldPassword newPassword =>
      refine sound.spawn ?_
      intro stage checked
      obtain ⟨user, passwordHash, _, rfl⟩ := changeStage_eq_some checked
      exact Process.Follows.idle rfl rfl rfl rfl
  | advance process =>
      unfold AuthWorld.next
      dsimp only
      split
      · exact sound
      · next stage running => exact sound.advance running
  | crash process => exact sound.stop process

theorem AuthWorld.Reached.sound (reached : world.Reached settings) : world.Sound settings :=
  Reachable.invariant (fun _ initial => initial.sound) (fun _ event _ sound => sound.next event)
    reached

end Mall
