/-
The community tables.

A row holds the columns that the modelled statements read.
-/

import Mall.Faults
import Mall.Records

namespace Mall

open Relational

structure Post where
  id : Int
  authorId : Option Int
  title : String
  content : String
  version : Int
  createdAt : Time
  deletedAt : Option Time

structure PostComment where
  id : Int
  postId : Int
  authorId : Option Int
  rootCommentId : Option Int
  replyToCommentId : Option Int
  content : String
  createdAt : Time
  deletedAt : Option Time

instance : Identified Post :=
  ⟨Post.id, fun identity row => { row with id := identity }, fun _ _ => rfl, fun _ => rfl⟩

instance : Identified PostComment :=
  ⟨PostComment.id, fun identity row => { row with id := identity }, fun _ _ => rfl, fun _ => rfl⟩

structure Community where
  posts : Table Post
  comments : Table PostComment

/-! ### Faults -/

def errPostNotFound := Fault.notFound "POST_NOT_FOUND" "post not found"

def errCommentNotFound (message : String) : Fault := Fault.notFound "COMMENT_NOT_FOUND" message

def errInvalidReplyTarget (message : String) : Fault :=
  Fault.badRequest "INVALID_REPLY_TARGET" message

def errInvalidContent (message : String) : Fault := Fault.badRequest "INVALID_CONTENT" message

def errInvalidCursor (message : String) : Fault := Fault.badRequest "INVALID_CURSOR" message

/-! ### Reads -/

def Community.liveReplies (db : Community) (postID rootID : Int) : List PostComment :=
  db.comments.rows.filter (fun reply =>
    decide (reply.postId = postID ∧ reply.rootCommentId = some rootID ∧ reply.deletedAt = none))

/-- `GetVisiblePost` and the join that every list makes with its post. -/
def Community.visiblePost (db : Community) (postID : Int) : Option Post :=
  (db.posts.find? postID).filter (fun post => decide (post.deletedAt = none))

def Community.getComment (db : Community) (postID id : Int) : Option PostComment :=
  (db.comments.find? id).filter (fun comment => decide (comment.postId = postID))

end Mall
