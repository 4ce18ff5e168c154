/-
Cursors, and the lists that are paged by them.

The JSON and base64 encodings are outside the program; they enter as a codec.
-/

import Mall.Community
import Mall.Decisions
import Mall.Foundation.Decimal
import Mall.Foundation.Keyset

namespace Mall

open Relational

/-! ### Cursors -/

/-- An instant with the offset of the zone in which it is written, both in
nanoseconds. -/
structure ZonedTime where
  instant : Int
  offset : Int
deriving DecidableEq

def zeroTime : Int := -62135596800000000000

def year10000 : Int := 253402300800000000000

/-- `t.Year() < 1970`, with 1970 starting at zero. -/
def ZonedTime.beforeEpoch (time : ZonedTime) : Bool :=
  decide (time.instant + time.offset < 0)

def ZonedTime.afterYear9999 (time : ZonedTime) : Bool :=
  decide (year10000 ≤ time.instant + time.offset)

structure Cursor where
  version : Int
  scope : List Char
  time : ZonedTime
  id : Int
deriving DecidableEq

/-- The encodings that a cursor goes through. -/
structure CursorCodec where
  /-- `json.Marshal`, which refuses some times. -/
  marshal : Cursor → Option (List Char)
  /-- A decoder that allows no unknown fields: the value, and whether the input
  ends after it. -/
  unmarshal : List Char → Option (Cursor × Bool)
  encodeToString : List Char → List Char
  decodeString : List Char → Option (List Char)

structure CursorPage where
  scope : List Char
  time : Int
  id : Int
  limit : Int
  hasCursor : Bool

def byteLength (text : List Char) : Nat :=
  (text.map Char.utf8Size).sum

def scope (kind : String) (ids : List Int) : List Char :=
  ids.foldl (fun text id => text ++ ':' :: Decimal.digits id) kind.toList

section Codec

variable (codec : CursorCodec)

def parsePage (raw scope : List Char) (size : Int) : Except Fault CursorPage :=
  if size < 0 ∨ size > 50 then
    .error (errInvalidCursor "page_size must be between 0 and 50")
  else
    let first : CursorPage :=
      { scope := scope
        time := 0
        id := 0
        limit := if size = 0 then 20 else size
        hasCursor := false }
    if raw = [] then .ok first
    else if byteLength raw > 512 then .error (errInvalidCursor "cursor too long")
    else
      match codec.decodeString raw with
      | none => .error (errInvalidCursor "malformed cursor")
      | some text =>
          match codec.unmarshal text with
          | none => .error (errInvalidCursor "malformed cursor")
          | some (cursor, ends) =>
              if ends = false ∨ cursor.version ≠ 1 ∨ cursor.scope ≠ scope ∨ cursor.id ≤ 0 ∨
                  cursor.time.instant = zeroTime ∨ cursor.time.beforeEpoch = true ∨
                  cursor.time.afterYear9999 = true then
                .error (errInvalidCursor "invalid cursor scope or key")
              else
                .ok { first with time := cursor.time.instant, id := cursor.id, hasCursor := true }

/-- The error of `json.Marshal` is dropped, and with it the text. -/
def nextCursor (page : CursorPage) (time id : Int) : List Char :=
  codec.encodeToString ((codec.marshal
    { version := 1
      scope := page.scope
      time := { instant := time, offset := 0 }
      id := id }).getD [])

end Codec

/-! ### Pages of rows -/

abbrev Stamp := Int × Int

/-- The row comparison `(a, b) < (c, d)`. -/
def Stamp.before (left right : Stamp) : Bool :=
  decide (left.1 < right.1 ∨ (left.1 = right.1 ∧ left.2 < right.2))

inductive Direction where
  | newestFirst | oldestFirst
deriving DecidableEq

def Direction.past (direction : Direction) (cursor row : Stamp) : Bool :=
  match direction with
  | .newestFirst => row.before cursor
  | .oldestFirst => cursor.before row

/-- The cursor condition, `ORDER BY` and `LIMIT` of the list statements, which ask
for one row more than the page holds. -/
def pageRows {ρ : Type} (direction : Direction) (stamp : ρ → Stamp) (page : CursorPage)
    (rows : List ρ) : List ρ :=
  ((rows.filter (fun row =>
    !page.hasCursor || direction.past (page.time, page.id) (stamp row))).insertionSort
      (fun left right => direction.past (stamp right) (stamp left) = false)).take
        (page.limit + 1).toNat

def cutPage {ρ : Type} (codec : CursorCodec) (stamp : ρ → Stamp) (page : CursorPage)
    (rows : List ρ) : List ρ × List Char :=
  if (rows.length : Int) > page.limit then
    let shown := rows.take page.limit.toNat
    match shown.getLast? with
    | some last => (shown, nextCursor codec page (stamp last).1 (stamp last).2)
    | none => (shown, [])
  else (rows, [])

/-! ### Statements -/

def Post.stamp (post : Post) : Stamp := (post.createdAt, post.id)

def PostComment.stamp (comment : PostComment) : Stamp := (comment.createdAt, comment.id)

def Community.feed (db : Community) (authorID : Int) : List Post :=
  db.posts.rows.filter (fun post =>
    decide (post.deletedAt = none ∧ (authorID = 0 ∨ post.authorId = some authorID)))

def Community.listPosts (db : Community) (authorID : Int) (page : CursorPage) : List Post :=
  pageRows .newestFirst Post.stamp page (db.feed authorID)

/-- Top-level comments; a deleted one stays as long as it has a live reply. -/
def Community.roots (db : Community) (postID : Int) : List PostComment :=
  db.comments.rows.filter (fun comment =>
    decide (comment.postId = postID) && (db.visiblePost comment.postId).isSome &&
      decide (comment.rootCommentId = none) &&
        (decide (comment.deletedAt = none) || decide (db.liveReplies postID comment.id ≠ [])))

def Community.listRootComments (db : Community) (postID : Int) (page : CursorPage) :
    List PostComment :=
  pageRows .newestFirst PostComment.stamp page (db.roots postID)

def Community.replyCount (db : Community) (root : PostComment) : Int :=
  (db.liveReplies root.postId root.id).length

/-- Live replies, each with the comment it answers. -/
def Community.replies (db : Community) (postID rootID : Int) : List PostComment :=
  db.comments.rows.filter (fun comment =>
    decide (comment.postId = postID) && (db.visiblePost comment.postId).isSome &&
      decide (comment.rootCommentId = some rootID ∧ comment.deletedAt = none) &&
        (comment.replyToCommentId.bind (db.getComment comment.postId)).isSome)

def Community.listCommentReplies (db : Community) (postID rootID : Int) (page : CursorPage) :
    List PostComment :=
  pageRows .oldestFirst PostComment.stamp page (db.replies postID rootID)

/-! ### Lists -/

section Lists

variable (codec : CursorCodec)

/-- `PostRepo.list`, without what `enrich` adds to each post. -/
def Community.postList (db : Community) (authorID : Int) (page : CursorPage) :
    List Post × List Char :=
  cutPage codec Post.stamp page (db.listPosts authorID page)

structure CommentEntry where
  comment : PostComment
  deleted : Bool
  replyCount : Int
  replyToDeleted : Bool

def CommentEntry.stamp (entry : CommentEntry) : Stamp := entry.comment.stamp

/-- A deleted comment is listed without its author. -/
def Community.rootEntry (db : Community) (comment : PostComment) : CommentEntry :=
  { comment :=
      if comment.deletedAt.isSome then { comment with authorId := none, content := "" }
      else comment
    deleted := comment.deletedAt.isSome
    replyCount := db.replyCount comment
    replyToDeleted := false }

def Community.replyEntry (db : Community) (comment : PostComment) : CommentEntry :=
  { comment := comment
    deleted := false
    replyCount := 0
    replyToDeleted :=
      ((comment.replyToCommentId.bind (db.getComment comment.postId)).bind
        PostComment.deletedAt).isSome }

def Community.commentList (db : Community) (postID rootID : Int) (page : CursorPage) :
    Except Fault (List CommentEntry × List Char) :=
  if (db.visiblePost postID).isNone then .error errPostNotFound
  else if rootID = 0 then
    .ok (cutPage codec CommentEntry.stamp page ((db.listRootComments postID page).map db.rootEntry))
  else
    match db.getComment postID rootID with
    | none => .error (errCommentNotFound "root not found")
    | some root =>
        if root.rootCommentId.isSome then .error (errCommentNotFound "root not found")
        else
          .ok (cutPage codec CommentEntry.stamp page
            ((db.listCommentReplies postID rootID page).map db.replyEntry))

def listPosts (db : Community) (actor : Actor) (authorID : Int) (raw : List Char) (size : Int) :
    Except Fault (List Post × List Char) := do
  actor.validate
  if authorID < 0 then .error (errInvalidContent "invalid author")
  else
    let page ← parsePage codec raw (scope "posts" [authorID]) size
    pure (db.postList codec authorID page)

def listComments (db : Community) (actor : Actor) (postID rootID : Int) (raw : List Char)
    (size : Int) : Except Fault (List CommentEntry × List Char) := do
  actor.validate
  if postID ≤ 0 then .error (Fault.badRequest "INVALID_ID" "IDs must be positive")
  else if rootID < 0 then .error (errInvalidReplyTarget "invalid root")
  else
    let page ← parsePage codec raw (scope "comments" [postID, rootID]) size
    db.commentList codec postID rootID page

end Lists

end Mall
