/-
The quota on writes and on anonymous sign-in requests.

Two Redis scripts count requests in windows of a minute, by account and by address.  The
address enters a key only as a digest.  Where Redis gives no answer the script may have
run all the same.
-/

import Mall.LoginLimit
import Mall.Foundation.FixedWindow

namespace Mall

inductive LimitCategory where
  | posts
  | comments
  | uploads
  | interactions
  | auth
deriving DecidableEq

def LimitCategory.name : LimitCategory → String
  | .posts => "posts"
  | .comments => "comments"
  | .uploads => "uploads"
  | .interactions => "interactions"
  | .auth => "auth"

def rateLimitCategory (operation : String) : Option LimitCategory :=
  if operation ∈ ["/api.community.v1.Community/CreatePost",
      "/api.community.v1.Community/UpdatePost"] then some .posts
  else if operation = "/api.community.v1.Community/CreateComment" then some .comments
  else if operation ∈ ["/api.media.v1.Media/CreateImageUpload",
      "/api.media.v1.Media/CompleteImageUpload"] then some .uploads
  else if operation ∈ ["/api.user.v1.User/RecordProductView",
      "/api.user.v1.User/DeleteBrowsingHistoryItem", "/api.user.v1.User/ClearBrowsingHistory",
      "/api.community.v1.Community/LikePost", "/api.community.v1.Community/UnlikePost",
      "/api.community.v1.Community/DeletePost",
      "/api.community.v1.Community/DeleteComment"] then some .interactions
  else if operation ∈ ["/api.user.v1.User/Login", "/api.user.v1.User/Register",
      "/api.user.v1.User/RefreshToken", "/api.user.v1.User/ChangePassword"] then some .auth
  else none

/-! ### Configuration -/

structure CommunityConfig where
  historyRetentionDays : Int
  cleanupBatchSize : Int
  maintenanceWorkers : Int
  mediaWorkers : Int
  postsPerMinute : Int
  commentsPerMinute : Int
  uploadsPerMinute : Int
  interactionsPerMinute : Int
  rateLimitFailOpen : Bool

def CommunityConfig.fields (config : CommunityConfig) : List (String × Int × Int) :=
  [("history_retention_days", config.historyRetentionDays, 3650),
    ("cleanup_batch_size", config.cleanupBatchSize, 1000),
    ("maintenance_workers", config.maintenanceWorkers, 32),
    ("media_workers", config.mediaWorkers, 32),
    ("posts_per_minute", config.postsPerMinute, 10000),
    ("comments_per_minute", config.commentsPerMinute, 10000),
    ("uploads_per_minute", config.uploadsPerMinute, 10000),
    ("interactions_per_minute", config.interactionsPerMinute, 10000)]

def validateCommunity (config : CommunityConfig) : Except Fault Unit :=
  match config.fields.find? (fun field => decide (field.2.1 < 0 ∨ field.2.1 > field.2.2)) with
  | some field => .error (Fault.plain
      ("community." ++ field.1 ++ " must be between 0 (default) and " ++ toString field.2.2))
  | none => .ok ()

structure AuthLimitConfig where
  authRequestsPerMinute : Int
  loginAccountBurst : Int
  loginAccountInterval : Int

def validateAuthLimits (config : AuthLimitConfig) : Except Fault Unit :=
  if config.authRequestsPerMinute < 0 ∨ config.authRequestsPerMinute > 10000 then
    .error (Fault.plain "auth.auth_requests_per_minute must be between 0 (default) and 10000")
  else if config.loginAccountBurst < 0 ∨ config.loginAccountBurst > 100 then
    .error (Fault.plain "auth.login_account_burst must be between 0 (default) and 100")
  else if config.loginAccountInterval ≠ 0 ∧
      (config.loginAccountInterval < second ∨ config.loginAccountInterval > minute) then
    .error (Fault.plain "auth.login_account_interval must be 0 (default) or between 1s and 60s")
  else .ok ()

/-- Five times a limit fits an `int32`, so the product in `Allow` never wraps. -/
structure WriteLimiter where
  limits : LimitCategory → Int
  failOpen : Bool
  bounded : ∀ category, 1 ≤ limits category ∧ limits category ≤ 10000

def configured (value default : Int) : Int :=
  if value > 0 then value else default

def writeLimits (community : CommunityConfig) (auth : AuthLimitConfig) : LimitCategory → Int
  | .posts => configured community.postsPerMinute 10
  | .comments => configured community.commentsPerMinute 30
  | .uploads => configured community.uploadsPerMinute 20
  | .interactions => configured community.interactionsPerMinute 120
  | .auth => configured auth.authRequestsPerMinute 10

private theorem writeLimits_bounded {community : CommunityConfig} {auth : AuthLimitConfig}
    (social : validateCommunity community = .ok ()) (sign : validateAuthLimits auth = .ok ())
    (category : LimitCategory) :
    1 ≤ writeLimits community auth category ∧ writeLimits community auth category ≤ 10000 := by
  have fields : ∀ field ∈ community.fields, ¬ field.2.1 > field.2.2 := by
    intro field member large
    unfold validateCommunity at social
    split at social
    · cases social
    · next none =>
        exact List.find?_eq_none.mp none field member (decide_eq_true (Or.inr large))
  have requests : ¬ auth.authRequestsPerMinute > 10000 := by
    intro large
    rw [validateAuthLimits, if_pos (Or.inr large)] at sign
    cases sign
  simp only [CommunityConfig.fields, List.forall_mem_cons] at fields
  obtain ⟨_, _, _, _, posts, comments, uploads, interactions, _⟩ := fields
  cases category <;> simp only [writeLimits, configured] <;> split <;> omega

def newWriteLimiter (community : CommunityConfig) (auth : AuthLimitConfig) :
    Except Fault WriteLimiter :=
  match social : validateCommunity community, sign : validateAuthLimits auth with
  | .error fault, _ => .error fault
  | .ok (), .error fault => .error fault
  | .ok (), .ok () => .ok
      { limits := writeLimits community auth
        failOpen := community.rateLimitFailOpen
        bounded := writeLimits_bounded social sign }

/-! ### Scripts -/

abbrev LimitWindows := List Char → Option FixedWindow.Window

def LimitWindows.incr (windows : LimitWindows) (lapsed : Int → Int → Bool) (key : List Char)
    (now : Int) : Int × LimitWindows :=
  let window := FixedWindow.hit lapsed 60000 now (windows key)
  (window.count, Function.update windows key (some window))

/-- Both scripts, by their keys and limits: every key is counted, and the reply is zero if
one of them is above its limit. -/
def limitScript (lapsed : Int → Int → Bool) (now : Int) :
    List (List Char × Int) → LimitWindows → Int × LimitWindows
  | [], windows => (1, windows)
  | (key, limit) :: rest, windows =>
      let (count, counted) := windows.incr lapsed key now
      let (reply, after) := limitScript lapsed now rest counted
      (if count > limit then 0 else reply, after)

def limitUserKey (category : LimitCategory) (uid : Int) : List Char :=
  redisKey [.text "community", .text "limit", .text category.name, .text "user", .number uid]

/-- `digest` prints the first half of the SHA-256 sum. -/
def limitIPKey (digest : String → String) (category : LimitCategory) (ip : String) : List Char :=
  redisKey [.text "community", .text "limit", .text category.name, .text "ip",
    .text (digest (trimSpace ip))]

/-- How a call of a script ends: with its reply, or with an error after it ran or not. -/
inductive ScriptCall where
  | replies
  | fails (ran : Bool)
deriving DecidableEq

structure WriteRequest where
  actorID : Int
  ip : String
  operation : String
  now : Int
  call : ScriptCall

/-- The keys and limits of a request: those of `anonLimitScript` without an account, those
of `writeLimitScript` with one. -/
def WriteLimiter.bounds (limiter : WriteLimiter) (digest : String → String)
    (category : LimitCategory) (request : WriteRequest) : List (List Char × Int) :=
  let ip := limitIPKey digest category request.ip
  let limit := limiter.limits category
  if request.actorID ≤ 0 then [(ip, limit)]
  else [(limitUserKey category request.actorID, limit), (ip, limit * 5)]

def WriteLimiter.unavailable (limiter : WriteLimiter) (category : LimitCategory) :
    Except Fault Unit :=
  if category ≠ .auth ∧ limiter.failOpen = true then .ok ()
  else .error (Fault.serviceUnavailable "RATE_LIMIT_UNAVAILABLE" "write limiter is unavailable")

def WriteLimiter.allow (limiter : WriteLimiter) (lapsed : Int → Int → Bool)
    (digest : String → String) (request : WriteRequest) (windows : LimitWindows) :
    Except Fault Unit × LimitWindows :=
  match rateLimitCategory request.operation with
  | none => (.ok (), windows)
  | some category =>
      if request.actorID ≤ 0 ∧ category ≠ .auth then
        (.error (Fault.unauthorized "UNAUTHORIZED" "authentication is required"), windows)
      else
        let (n, counted) :=
          limitScript lapsed request.now (limiter.bounds digest category request) windows
        match request.call with
        | .fails ran => (limiter.unavailable category, if ran then counted else windows)
        | .replies =>
            if n = 0 then
              (.error (Fault.domain 429 "RATE_LIMITED"
                "write quota exceeded; retry after one minute"), counted)
            else (.ok (), counted)

def WriteLimiter.admitted (limiter : WriteLimiter) (lapsed : Int → Int → Bool)
    (digest : String → String) : LimitWindows → List WriteRequest → List WriteRequest
  | _, [] => []
  | windows, request :: rest =>
      let (answer, counted) := limiter.allow lapsed digest request windows
      let later := admitted limiter lapsed digest counted rest
      if answer = .ok () ∧ request.call = .replies then request :: later else later

end Mall
