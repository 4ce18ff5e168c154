/-
Cursor paging shows every row exactly once.

The three lists are one walk over stamps, newest or oldest first.  A cursor made
by a page is read back by the next request of the same list and by no other.
-/

import Mall.Paging
import Mathlib.Data.Nat.Digits.Defs
import Mathlib.Data.Prod.Lex

namespace Mall

open Relational

/-! ### Orders -/

def Direction.key (direction : Direction) (stamp : Stamp) : ℤ ×ₗ ℤ :=
  match direction with
  | .newestFirst => toLex (-stamp.1, -stamp.2)
  | .oldestFirst => toLex stamp

private theorem Direction.past_iff (direction : Direction) (cursor row : Stamp) :
    direction.past cursor row = true ↔ direction.key cursor < direction.key row := by
  cases direction with
  | newestFirst =>
      rw [Direction.past, Stamp.before, decide_eq_true_iff, Direction.key, Direction.key,
        Prod.Lex.toLex_lt_toLex]
      dsimp only
      rw [neg_lt_neg_iff, neg_lt_neg_iff, neg_inj, @eq_comm _ row.1]
  | oldestFirst =>
      rw [Direction.past, Stamp.before, decide_eq_true_iff, Direction.key, Direction.key,
        Prod.Lex.toLex_lt_toLex]

private theorem Direction.key_injective (direction : Direction) :
    Function.Injective direction.key := by
  intro left right same
  cases direction with
  | newestFirst =>
      obtain ⟨times, ids⟩ := Prod.mk.inj (toLex.injective same)
      exact Prod.ext (neg_injective times) (neg_injective ids)
  | oldestFirst => exact toLex.injective same

def CursorPage.after (page : CursorPage) (direction : Direction) : Option (ℤ ×ₗ ℤ) :=
  if page.hasCursor then some (direction.key (page.time, page.id)) else none

/-- The statements return the first rows past the cursor, one more than the page
holds. -/
theorem pageRows_eq {ρ : Type} (direction : Direction) (stamp : ρ → Stamp) (page : CursorPage)
    (rows : List ρ) :
    pageRows direction stamp page rows =
      (Keyset.beyond (fun row => direction.key (stamp row)) (page.after direction) rows).take
        (page.limit + 1).toNat := by
  unfold pageRows
  congr 1
  refine Keyset.beyond_eq ?_ ?_
  · intro row
    unfold CursorPage.after Keyset.Past
    cases page.hasCursor with
    | false => simp
    | true => simp [direction.past_iff]
  · intro left right
    rw [← Bool.not_eq_true, direction.past_iff, not_lt]

/-! ### Cursors -/

def year0 : Int := -62167219200000000000

def plainLetter (letter : Char) : Bool :=
  letter.isAlphanum || decide (letter = ':') || decide (letter = '-')

/-- A cursor in UTC that `json.Marshal` accepts. -/
structure Cursor.Writable (cursor : Cursor) : Prop where
  version : cursor.version = 1
  plain : ∀ letter ∈ cursor.scope, plainLetter letter = true
  zone : cursor.time.offset = 0
  since : year0 ≤ cursor.time.instant
  before : cursor.time.instant < year10000
  positive : 0 < cursor.id
  bounded : cursor.id ≤ maxInt64

/-- What the encodings are documented to do: decoding inverts encoding, base64
writes four letters for three bytes, and the JSON text adds no more than the field
names, a time and an id to the scope. -/
structure CursorCodec.Lawful (codec : CursorCodec) : Prop where
  decodes : ∀ text, codec.decodeString (codec.encodeToString text) = some text
  sized : ∀ text, byteLength (codec.encodeToString text) ≤ (4 * byteLength text + 2) / 3
  nonempty : ∀ text, codec.encodeToString text = [] → text = []
  marshals : ∀ cursor : Cursor, cursor.Writable → ∃ text, codec.marshal cursor = some text ∧
    codec.unmarshal text = some (cursor, true) ∧ text ≠ [] ∧
      byteLength text ≤ byteLength cursor.scope + 75

structure Stamp.Dated (stamp : Stamp) : Prop where
  since : 0 ≤ stamp.1
  before : stamp.1 < year10000
  positive : 0 < stamp.2
  bounded : stamp.2 ≤ maxInt64

section Cursors

variable {codec : CursorCodec} {page : CursorPage} {stamp : Stamp}

private theorem Stamp.Dated.writable (dated : stamp.Dated)
    (plain : ∀ letter ∈ page.scope, plainLetter letter = true) :
    Cursor.Writable
      { version := 1
        scope := page.scope
        time := { instant := stamp.1, offset := 0 }
        id := stamp.2 } :=
  { version := rfl
    plain := plain
    zone := rfl
    since := le_trans (by decide) dated.since
    before := dated.before
    positive := dated.positive
    bounded := dated.bounded }

private theorem nextCursor_parses (lawful : codec.Lawful)
    (writable : Cursor.Writable
      { version := 1
        scope := page.scope
        time := { instant := stamp.1, offset := 0 }
        id := stamp.2 })
    (short : byteLength page.scope ≤ 48) (scope : List Char) {size : Int} (least : 0 ≤ size)
    (most : size ≤ 50) :
    parsePage codec (nextCursor codec page stamp.1 stamp.2) scope size =
      if page.scope = scope ∧ 0 ≤ stamp.1 then
        .ok
          { scope := scope
            time := stamp.1
            id := stamp.2
            limit := if size = 0 then 20 else size
            hasCursor := true }
      else .error (errInvalidCursor "invalid cursor scope or key") := by
  obtain ⟨text, written, read, some, small⟩ := lawful.marshals _ writable
  have raw : nextCursor codec page stamp.1 stamp.2 = codec.encodeToString text := by
    rw [nextCursor, written, Option.getD_some]
  have full : codec.encodeToString text ≠ [] := fun empty => some (lawful.nonempty _ empty)
  have fits : ¬ byteLength (codec.encodeToString text) > 512 := by
    have size := lawful.sized text
    dsimp only at small
    omega
  rw [raw, parsePage, if_neg (by omega)]
  dsimp only
  rw [if_neg full, if_neg fits, lawful.decodes]
  dsimp only
  rw [read]
  dsimp only
  by_cases accepted : page.scope = scope ∧ 0 ≤ stamp.1
  · rw [if_pos accepted, if_neg]
    have later := writable.before
    have positive := writable.positive
    have zero : zeroTime < 0 := by decide
    simp only [ZonedTime.beforeEpoch, ZonedTime.afterYear9999, decide_eq_true_iff]
    dsimp only at later positive
    rintro (open_ | version | scope | id | time | early | late)
    · cases open_
    · exact version rfl
    · exact scope accepted.1
    · omega
    · omega
    · omega
    · omega
  · rw [if_neg accepted, if_pos]
    simp only [ZonedTime.beforeEpoch, decide_eq_true_iff]
    by_cases same : page.scope = scope
    · have early : ¬ 0 ≤ stamp.1 := fun since => accepted ⟨same, since⟩
      exact Or.inr (Or.inr (Or.inr (Or.inr (Or.inr (Or.inl (by omega))))))
    · exact Or.inr (Or.inr (Or.inl same))

private theorem nextCursor_ne_nil (lawful : codec.Lawful)
    (writable : Cursor.Writable
      { version := 1
        scope := page.scope
        time := { instant := stamp.1, offset := 0 }
        id := stamp.2 }) :
    nextCursor codec page stamp.1 stamp.2 ≠ [] := by
  obtain ⟨text, written, _, some, _⟩ := lawful.marshals _ writable
  rw [nextCursor, written, Option.getD_some]
  exact fun empty => some (lawful.nonempty _ empty)

end Cursors

/-! ### Scopes -/

private theorem byteLength_append (left right : List Char) :
    byteLength (left ++ right) = byteLength left + byteLength right := by
  rw [byteLength, List.map_append, List.sum_append]
  rfl

private theorem utf8Size_of_numeral {letter : Char} (numeral : Decimal.numeral letter = true) :
    letter.utf8Size = 1 := by
  have ascii : letter.val ≤ 0x7f := by
    unfold Decimal.numeral Char.isDigit at numeral
    rcases Bool.or_eq_true_iff.mp numeral with digit | sign
    · have most : letter.val ≤ '9'.val := (Bool.and_eq_true_iff.mp digit).2 |> of_decide_eq_true
      exact UInt32.le_trans most (by decide)
    · rw [eq_of_beq sign]
      decide
  exact if_pos ascii

private theorem byteLength_digits (value : Int) :
    byteLength (Decimal.digits value) = (Decimal.digits value).length := by
  have each : (Decimal.digits value).map Char.utf8Size = (Decimal.digits value).map (fun _ => 1) :=
    List.map_congr_left (fun _ present => utf8Size_of_numeral (Decimal.numeral_of_mem_digits present))
  rw [byteLength, each]
  simp

private theorem length_digits_le {id : Int} (nonnegative : 0 ≤ id) (bounded : id ≤ maxInt64) :
    (Decimal.digits id).length ≤ 19 := by
  rw [Decimal.digits_of_nonneg nonnegative]
  unfold maxInt64 at bounded
  exact Nat.toDigits_length 10 _ 19 (by decide) (by omega)

private theorem plainLetter_of_mem_digits {id : Int} {letter : Char}
    (present : letter ∈ Decimal.digits id) : plainLetter letter = true := by
  have numeral := Decimal.numeral_of_mem_digits present
  unfold Decimal.numeral at numeral
  unfold plainLetter Char.isAlphanum
  rcases Bool.or_eq_true_iff.mp numeral with digit | sign
  · rw [digit, Bool.or_true, Bool.true_or, Bool.true_or]
  · rw [eq_of_beq sign]
    rfl

inductive Feed where
  | posts (authorID : Int)
  | roots (postID : Int)
  | replies (postID rootID : Int)

/-- The ids are 64-bit integers that the usecases let through. -/
def Feed.Valid : Feed → Prop
  | .posts authorID => 0 ≤ authorID ∧ authorID ≤ maxInt64
  | .roots postID => 0 < postID ∧ postID ≤ maxInt64
  | .replies postID rootID =>
      (0 < postID ∧ postID ≤ maxInt64) ∧ 0 < rootID ∧ rootID ≤ maxInt64

def Feed.scope : Feed → List Char
  | .posts authorID => Mall.scope "posts" [authorID]
  | .roots postID => Mall.scope "comments" [postID, 0]
  | .replies postID rootID => Mall.scope "comments" [postID, rootID]

private theorem scope_two (kind : String) (first second : Int) :
    scope kind [first, second] =
      (kind.toList ++ ':' :: Decimal.digits first) ++ ':' :: Decimal.digits second :=
  rfl

private theorem plain_extend {text : List Char} (plain : ∀ letter ∈ text, plainLetter letter = true)
    (id : Int) : ∀ letter ∈ text ++ ':' :: Decimal.digits id, plainLetter letter = true := by
  intro letter present
  rcases List.mem_append.mp present with early | late
  · exact plain letter early
  · rcases List.mem_cons.mp late with rfl | digit
    · rfl
    · exact plainLetter_of_mem_digits digit

private theorem Feed.plain (feed : Feed) : ∀ letter ∈ feed.scope, plainLetter letter = true := by
  cases feed with
  | posts authorID => exact plain_extend (List.all_eq_true.mp (by decide)) authorID
  | roots postID => exact plain_extend (plain_extend (List.all_eq_true.mp (by decide)) postID) 0
  | replies postID rootID =>
      exact plain_extend (plain_extend (List.all_eq_true.mp (by decide)) postID) rootID

private theorem byteLength_extend_le {text : List Char} {bound : Nat} {id : Int}
    (short : byteLength text ≤ bound) (nonnegative : 0 ≤ id) (bounded : id ≤ maxInt64) :
    byteLength (text ++ ':' :: Decimal.digits id) ≤ bound + 20 := by
  have digits := length_digits_le nonnegative bounded
  have tail : byteLength (':' :: Decimal.digits id) = 1 + (Decimal.digits id).length := by
    rw [← byteLength_digits]
    exact byteLength_append [':'] _
  rw [byteLength_append, tail]
  omega

private theorem Feed.Valid.short {feed : Feed} (valid : feed.Valid) :
    byteLength feed.scope ≤ 48 := by
  cases feed with
  | posts authorID =>
      have size := @byteLength_extend_le "posts".toList 8 authorID (by decide) valid.1 valid.2
      exact size.trans (by decide)
  | roots postID =>
      have first := @byteLength_extend_le "comments".toList 8 postID (by decide) valid.1.le valid.2
      exact (byteLength_extend_le first (le_refl 0) (by decide)).trans (by decide)
  | replies postID rootID =>
      have first := @byteLength_extend_le "comments".toList 8 postID (by decide) valid.1.1.le
        valid.1.2
      exact (byteLength_extend_le first valid.2.1.le valid.2.2).trans (by decide)

/-- Different lists have different scopes. -/
theorem Feed.scope_injective {left right : Feed} (leftValid : left.Valid) (rightValid : right.Valid)
    (same : left.scope = right.scope) : left = right := by
  have read {first second third fourth : Int}
      (equal : Mall.scope "comments" [first, second] = Mall.scope "comments" [third, fourth]) :
      first = third ∧ second = fourth := by
    rw [scope_two, scope_two, List.append_assoc, List.append_assoc] at equal
    have tails := List.cons.inj (List.append_cancel_left equal)
    obtain ⟨ids, rests⟩ := Decimal.append_inj_of_stop (fun _ => Decimal.numeral_of_mem_digits)
      (fun _ => Decimal.numeral_of_mem_digits) (by decide) (by decide) tails.2
    exact ⟨Decimal.digits_injective ids, Decimal.digits_injective (List.cons.inj rests).2⟩
  cases left with
  | posts authorID =>
      cases right with
      | posts other =>
          have equal : ':' :: Decimal.digits authorID = ':' :: Decimal.digits other :=
            List.append_cancel_left same
          rw [Decimal.digits_injective (List.cons.inj equal).2]
      | roots other => cases same
      | replies other root => cases same
  | roots postID =>
      cases right with
      | posts other => cases same
      | roots other => rw [(read same).1]
      | replies other root =>
          have zero := (read same).2
          have positive := rightValid.2.1
          omega
  | replies postID rootID =>
      cases right with
      | posts other => cases same
      | roots other =>
          have zero := (read same).2
          have positive := leftValid.2.1
          omega
      | replies other root => rw [(read same).1, (read same).2]

/-! ### Requests -/

def Feed.direction : Feed → Direction
  | .posts _ => .newestFirst
  | .roots _ => .newestFirst
  | .replies _ _ => .oldestFirst

def Feed.rows (feed : Feed) (db : Community) : List Stamp :=
  match feed with
  | .posts authorID => (db.feed authorID).map Post.stamp
  | .roots postID => (db.roots postID).map PostComment.stamp
  | .replies postID rootID => (db.replies postID rootID).map PostComment.stamp

/-- The list can be asked for: its post is visible, and its root is one. -/
def Feed.Open (feed : Feed) (db : Community) : Prop :=
  match feed with
  | .posts _ => True
  | .roots postID => (db.visiblePost postID).isSome = true
  | .replies postID rootID => (db.visiblePost postID).isSome = true ∧
      ∃ root, db.getComment postID rootID = some root ∧ root.rootCommentId = none

def Feed.request (codec : CursorCodec) (actor : Actor) (feed : Feed) (db : Community)
    (raw : List Char) (size : Int) : Except Fault (List Stamp × List Char) :=
  match feed with
  | .posts authorID => (listPosts codec db actor authorID raw size).map
      (fun reply => (reply.1.map Post.stamp, reply.2))
  | .roots postID => (listComments codec db actor postID 0 raw size).map
      (fun reply => (reply.1.map CommentEntry.stamp, reply.2))
  | .replies postID rootID => (listComments codec db actor postID rootID raw size).map
      (fun reply => (reply.1.map CommentEntry.stamp, reply.2))

def Feed.ahead (feed : Feed) (db : Community) (after : Option (ℤ ×ₗ ℤ)) : List Stamp :=
  Keyset.beyond feed.direction.key after (feed.rows db)

section Requests

variable {codec : CursorCodec} {actor : Actor} {feed : Feed} {db : Community}

private theorem map_cutPage {ρ σ : Type} (stamp : ρ → Stamp) (read : σ → ρ) (page : CursorPage)
    (rows : List σ) :
    ((cutPage codec (fun row => stamp (read row)) page rows).1.map read,
        (cutPage codec (fun row => stamp (read row)) page rows).2) =
      cutPage codec stamp page (rows.map read) := by
  unfold cutPage
  rw [List.length_map]
  split
  · dsimp only
    rw [← List.map_take, List.getLast?_map]
    cases (rows.take page.limit.toNat).getLast? with
    | none => rfl
    | some last => rfl
  · rfl

private theorem map_pageRows {ρ : Type} (direction : Direction) (stamp : ρ → Stamp)
    (page : CursorPage) (rows : List ρ) :
    (pageRows direction stamp page rows).map stamp =
      (Keyset.beyond direction.key (page.after direction) (rows.map stamp)).take
        (page.limit + 1).toNat := by
  rw [pageRows_eq, List.map_take, Keyset.map_beyond]

private theorem stamp_rootEntry (comment : PostComment) :
    (db.rootEntry comment).stamp = comment.stamp := by
  unfold Community.rootEntry CommentEntry.stamp PostComment.stamp
  dsimp only
  split
  · rfl
  · rfl

private theorem Feed.request_eq (valid : feed.Valid) (signedIn : 0 < actor.id)
    (isOpen : feed.Open db) (raw : List Char) (size : Int) :
    feed.request codec actor db raw size =
      (parsePage codec raw feed.scope size).map (fun page =>
        cutPage codec id page ((feed.ahead db (page.after feed.direction)).take
          (page.limit + 1).toNat)) := by
  have known : actor.validate = .ok () := if_neg (by omega)
  cases feed with
  | posts authorID =>
      have accepted : ¬ authorID < 0 := not_lt.mpr valid.1
      unfold Feed.request listPosts
      dsimp only
      rw [known, if_neg accepted]
      change _ = Except.map _ (parsePage codec raw (Mall.scope "posts" [authorID]) size)
      cases parsePage codec raw (Mall.scope "posts" [authorID]) size with
      | error fault => rfl
      | ok page =>
          refine congrArg Except.ok ((map_cutPage id Post.stamp page _).trans ?_)
          rw [Community.listPosts, map_pageRows]
          rfl
  | roots postID =>
      have accepted : ¬ postID ≤ 0 := not_le.mpr valid.1
      have visible : ¬ (db.visiblePost postID).isNone = true := by
        rw [Option.isNone_iff_eq_none, ← ne_eq, Option.ne_none_iff_isSome]
        exact isOpen
      unfold Feed.request listComments
      dsimp only
      rw [known, if_neg accepted, if_neg (by decide)]
      change _ = Except.map _ (parsePage codec raw (Mall.scope "comments" [postID, 0]) size)
      cases parsePage codec raw (Mall.scope "comments" [postID, 0]) size with
      | error fault => rfl
      | ok page =>
          change Except.map _ (db.commentList codec postID 0 page) = _
          rw [Community.commentList, if_neg visible, if_pos rfl]
          refine congrArg Except.ok ((map_cutPage id CommentEntry.stamp page _).trans ?_)
          rw [List.map_map]
          have stamps : CommentEntry.stamp ∘ db.rootEntry = PostComment.stamp :=
            funext stamp_rootEntry
          rw [stamps, Community.listRootComments, map_pageRows]
          rfl
  | replies postID rootID =>
      obtain ⟨visiblePost, root, found, top⟩ := isOpen
      have accepted : ¬ postID ≤ 0 := not_le.mpr valid.1.1
      have visible : ¬ (db.visiblePost postID).isNone = true := by
        rw [Option.isNone_iff_eq_none, ← ne_eq, Option.ne_none_iff_isSome]
        exact visiblePost
      have positive := valid.2.1
      unfold Feed.request listComments
      dsimp only
      rw [known, if_neg accepted, if_neg (by omega)]
      change _ = Except.map _ (parsePage codec raw (Mall.scope "comments" [postID, rootID]) size)
      cases parsePage codec raw (Mall.scope "comments" [postID, rootID]) size with
      | error fault => rfl
      | ok page =>
          change Except.map _ (db.commentList codec postID rootID page) = _
          rw [Community.commentList, if_neg visible, if_neg (by omega), found]
          dsimp only
          rw [top, if_neg (by decide)]
          refine congrArg Except.ok ((map_cutPage id CommentEntry.stamp page _).trans ?_)
          rw [List.map_map]
          have stamps : CommentEntry.stamp ∘ db.replyEntry = PostComment.stamp := rfl
          rw [stamps, Community.listCommentReplies, map_pageRows]
          rfl

private theorem Feed.distinct (feed : Feed) (db : Community) :
    ((feed.rows db).map feed.direction.key).Nodup := by
  have stamps : (feed.rows db).Nodup := by
    refine List.Nodup.of_map Prod.snd ?_
    cases feed with
    | posts authorID =>
        change (((db.posts.rows.filter _).map Post.stamp).map Prod.snd).Nodup
        rw [List.map_map]
        exact db.posts.distinct.sublist (List.filter_sublist.map Post.id)
    | roots postID =>
        change (((db.comments.rows.filter _).map PostComment.stamp).map Prod.snd).Nodup
        rw [List.map_map]
        exact db.comments.distinct.sublist (List.filter_sublist.map PostComment.id)
    | replies postID rootID =>
        change (((db.comments.rows.filter _).map PostComment.stamp).map Prod.snd).Nodup
        rw [List.map_map]
        exact db.comments.distinct.sublist (List.filter_sublist.map PostComment.id)
  exact stamps.map feed.direction.key_injective

private theorem Feed.positive {stamp : Stamp} (present : stamp ∈ feed.rows db) : 0 < stamp.2 := by
  cases feed with
  | posts authorID =>
      obtain ⟨post, found, rfl⟩ := List.mem_map.mp present
      exact (db.posts.issued post (List.mem_of_mem_filter found)).1
  | roots postID =>
      obtain ⟨comment, found, rfl⟩ := List.mem_map.mp present
      exact (db.comments.issued comment (List.mem_of_mem_filter found)).1
  | replies postID rootID =>
      obtain ⟨comment, found, rfl⟩ := List.mem_map.mp present
      exact (db.comments.issued comment (List.mem_of_mem_filter found)).1

/-- The rows of the list were created from 1970 to 9999, under 64-bit ids. -/
def Feed.Dated (feed : Feed) (db : Community) : Prop :=
  ∀ stamp ∈ feed.rows db, 0 ≤ stamp.1 ∧ stamp.1 < year10000 ∧ stamp.2 ≤ maxInt64

private theorem Feed.Dated.stamp (dated : feed.Dated db) {stamp : Stamp}
    (present : stamp ∈ feed.rows db) :
    stamp.Dated :=
  { since := (dated stamp present).1
    before := (dated stamp present).2.1
    positive := Feed.positive present
    bounded := (dated stamp present).2.2 }

/-- A text that every request of the list reads as the given cursor. -/
def Feed.Stands (codec : CursorCodec) (feed : Feed) (raw : List Char) (after : Option (ℤ ×ₗ ℤ)) :
    Prop :=
  ∀ size, 1 ≤ size → size ≤ 50 → ∃ page, parsePage codec raw feed.scope size = .ok page ∧
    page.scope = feed.scope ∧ page.limit = size ∧ page.after feed.direction = after

private theorem Feed.Stands.first (codec : CursorCodec) (feed : Feed) :
    feed.Stands codec [] none := by
  intro size least most
  have parsed : parsePage codec [] feed.scope size = .ok
      { scope := feed.scope
        time := 0
        id := 0
        limit := if size = 0 then 20 else size
        hasCursor := false } := by
    rw [parsePage, if_neg (by omega)]
    exact if_pos rfl
  exact ⟨_, parsed, rfl, if_neg (by omega), rfl⟩

private theorem Feed.Stands.next {page : CursorPage} {stamp : Stamp} (lawful : codec.Lawful)
    (valid : feed.Valid) (sameScope : page.scope = feed.scope) (dated : stamp.Dated) :
    feed.Stands codec (nextCursor codec page stamp.1 stamp.2) (some (feed.direction.key stamp)) := by
  intro size least most
  have writable := @Stamp.Dated.writable page stamp dated (sameScope ▸ feed.plain)
  have parsed := nextCursor_parses lawful writable (sameScope ▸ valid.short) feed.scope
    (by omega) most
  rw [if_pos ⟨sameScope, dated.since⟩] at parsed
  exact ⟨_, parsed, rfl, if_neg (by omega), rfl⟩

/-- A request either shows all that is left and ends the list, or shows the
beginning of it and points behind its last row. -/
theorem Feed.Stands.request {raw : List Char} {after : Option (ℤ ×ₗ ℤ)} {size : Int}
    (stands : feed.Stands codec raw after) (lawful : codec.Lawful) (valid : feed.Valid)
    (signedIn : 0 < actor.id) (isOpen : feed.Open db) (dated : feed.Dated db) (least : 1 ≤ size)
    (most : size ≤ 50) :
    ∃ shown next, feed.request codec actor db raw size = .ok (shown, next) ∧
      ((next = [] ∧ shown = feed.ahead db after) ∨
        (next ≠ [] ∧ shown <+: feed.ahead db after ∧ ∃ last, shown.getLast? = some last ∧
          feed.Stands codec next (some (feed.direction.key last)))) := by
  obtain ⟨page, parsed, sameScope, limit, start⟩ := stands size least most
  have answer := @Feed.request_eq codec actor feed db valid signedIn isOpen raw size
  rw [parsed] at answer
  change _ = Except.ok (cutPage codec id page ((feed.ahead db (page.after feed.direction)).take
    (page.limit + 1).toNat)) at answer
  rw [start, limit] at answer
  generalize rest : feed.ahead db after = ahead at answer
  rw [answer, cutPage, limit, List.length_take]
  by_cases more : ((min (size + 1).toNat ahead.length : Nat) : Int) > size
  · rw [if_pos more]
    have shortened : (ahead.take (size + 1).toNat).take size.toNat = ahead.take size.toNat := by
      rw [List.take_take]
      congr 1
      omega
    have filled : ahead.take size.toNat ≠ [] := by
      intro empty
      have length := congrArg List.length empty
      rw [List.length_take, List.length_nil] at length
      omega
    obtain ⟨last, ends⟩ := Option.ne_none_iff_exists'.mp
      (fun none => filled (List.getLast?_eq_none_iff.mp none))
    have among : last ∈ feed.rows db := by
      have present := (List.take_prefix size.toNat ahead).subset (List.mem_of_getLast? ends)
      rw [← rest] at present
      exact (Keyset.mem_beyond.mp present).1
    have stamp := dated.stamp among
    dsimp only
    rw [shortened, ends]
    refine ⟨_, _, rfl, Or.inr ⟨?_, List.take_prefix _ _, last, ends, ?_⟩⟩
    · exact nextCursor_ne_nil lawful (stamp.writable (sameScope ▸ feed.plain))
    · exact Feed.Stands.next lawful valid sameScope stamp
  · rw [if_neg more]
    refine ⟨_, _, rfl, Or.inl ⟨rfl, ?_⟩⟩
    exact List.take_of_length_le (by omega)

end Requests

/-! ### Following the cursor -/

/-- A client that asks for page after page until no cursor comes back, for at most
`fuel` requests. -/
def followCursor (request : Nat → List Char → Except Fault (List Stamp × List Char)) :
    Nat → Nat → List Char → Option (Except Fault (List Stamp))
  | 0, _, _ => none
  | fuel + 1, number, raw =>
      match request number raw with
      | .error fault => some (.error fault)
      | .ok (shown, next) =>
          if next = [] then some (.ok shown)
          else (followCursor request fuel (number + 1) next).map (Except.map (shown ++ ·))

section Following

variable {codec : CursorCodec} {actor : Actor} {feed : Feed} {view : Nat → Community}
  {size : Nat → Int}

def Feed.requests (codec : CursorCodec) (actor : Actor) (feed : Feed) (view : Nat → Community)
    (size : Nat → Int) (number : Nat) (raw : List Char) : Except Fault (List Stamp × List Char) :=
  feed.request codec actor (view number) raw (size number)

private theorem followCursor_cases (lawful : codec.Lawful) (valid : feed.Valid)
    (signedIn : 0 < actor.id)
    (isOpen : ∀ number, feed.Open (view number)) (dated : ∀ number, feed.Dated (view number))
    (sized : ∀ number, 1 ≤ size number ∧ size number ≤ 50) (fuel number : Nat) {raw : List Char}
    {after : Option (ℤ ×ₗ ℤ)} (stands : feed.Stands codec raw after) :
    (∃ pages finish, Keyset.Walk feed.direction.key after pages finish ∧
        Keyset.Reads (fun moment => feed.rows (view moment)) number pages ∧ pages.length = fuel ∧
        followCursor (feed.requests codec actor view size) fuel number raw = none) ∨
      ∃ pages, Keyset.Finished feed.direction.key after pages ∧
        Keyset.Reads (fun moment => feed.rows (view moment)) number pages ∧ pages.length ≤ fuel ∧
        ∀ more, followCursor (feed.requests codec actor view size) (fuel + more) number raw =
          some (.ok (Keyset.shown pages)) := by
  induction fuel generalizing number raw after with
  | zero => exact Or.inl ⟨[], after, Keyset.Walk.stay _, trivial, rfl, rfl⟩
  | succ fuel ih =>
      obtain ⟨shown, next, answer, outcome⟩ := stands.request lawful valid signedIn (isOpen number)
        (dated number) (sized number).1 (sized number).2
      let page : Keyset.Page Stamp :=
        { rows := feed.rows (view number)
          shown := shown }
      have step (budget : Nat) :
          followCursor (feed.requests codec actor view size) (budget + 1) number raw =
            if next = [] then some (.ok shown)
            else (followCursor (feed.requests codec actor view size) budget (number + 1) next).map
              (Except.map (shown ++ ·)) := by
        rw [followCursor, Feed.requests, answer]
      have renamed (more : Nat) : fuel + 1 + more = fuel + more + 1 := by omega
      rcases outcome with ⟨ended, complete⟩ | ⟨goes, prefixed, last, ends, continues⟩
      · right
        refine ⟨[page], ⟨[], page, after, rfl, Keyset.Walk.stay _, complete⟩, ⟨rfl, trivial⟩,
          Nat.succ_le_succ (Nat.zero_le _), ?_⟩
        intro more
        rw [renamed, step, if_pos ended]
        simp [Keyset.shown, page]
      · rcases ih (number + 1) continues with
          ⟨pages, finish, walk, reads, length, none⟩ | ⟨pages, finished, reads, length, result⟩
        · left
          refine ⟨page :: pages, finish, Keyset.Walk.page prefixed ends walk, ⟨rfl, reads⟩,
            by rw [List.length_cons, length], ?_⟩
          rw [step, if_neg goes, none]
          rfl
        · right
          obtain ⟨earlier, final, finish, rfl, walk, rest⟩ := finished
          refine ⟨page :: (earlier ++ [final]),
            ⟨page :: earlier, final, finish, rfl, Keyset.Walk.page prefixed ends walk, rest⟩,
            ⟨rfl, reads⟩, Nat.succ_le_succ length, ?_⟩
          intro more
          rw [renamed, step, if_neg goes, result]
          rfl

private theorem shown_sorted {pages : List (Keyset.Page Stamp)}
    (finished : Keyset.Finished feed.direction.key none pages)
    (distinct : Keyset.Distinct feed.direction.key pages) :
    (Keyset.shown pages).Pairwise (fun left right => feed.direction.past left right = true) :=
  (finished.sorted distinct).imp (fun less => (feed.direction.past_iff _ _).mpr less)

private theorem Feed.Valid.parsePage_nextCursor (valid : feed.Valid) (lawful : codec.Lawful)
    {page : CursorPage} {stamp : Stamp} {other : List Char} {request : Int}
    (scope : page.scope = feed.scope) (dated : stamp.Dated) (least : 0 ≤ request)
    (most : request ≤ 50) :
    parsePage codec (nextCursor codec page stamp.1 stamp.2) other request =
      if feed.scope = other then
        .ok
          { scope := other
            time := stamp.1
            id := stamp.2
            limit := if request = 0 then 20 else request
            hasCursor := true }
      else .error (errInvalidCursor "invalid cursor scope or key") := by
  have parsed := @nextCursor_parses codec page stamp lawful
    (dated.writable (scope ▸ feed.plain)) (scope ▸ valid.short) other request least most
  rw [parsed, scope]
  simp only [dated.since, and_true]

/-- Rows that were created from 1970 to 9999 are paged exactly.  Over a database
that stays as it is the client comes to an end and has every row once, in order.
Over one that changes between requests it never sees a row twice, and a finished
client has seen every row that stayed.  A cursor is read back by its own list, and
refused under any other scope and so by any other list. -/
theorem paging_shows_each_row_once (lawful : codec.Lawful) (valid : feed.Valid)
    (signedIn : 0 < actor.id) (sized : ∀ number, 1 ≤ size number ∧ size number ≤ 50) :
    (∀ db, feed.Open db → feed.Dated db → ∃ shown,
      (∀ fuel, (feed.rows db).length < fuel →
        followCursor (feed.requests codec actor (fun _ => db) size) fuel 0 [] =
          some (.ok shown)) ∧
      shown.Perm (feed.rows db) ∧
      shown.Pairwise (fun left right => feed.direction.past left right = true)) ∧
    (∀ view : Nat → Community, (∀ number, feed.Open (view number)) →
      (∀ number, feed.Dated (view number)) → ∀ fuel outcome,
      followCursor (feed.requests codec actor view size) fuel 0 [] = some outcome →
      ∃ shown, outcome = .ok shown ∧
        shown.Pairwise (fun left right => feed.direction.past left right = true) ∧
        (∀ stamp, (∀ number < fuel, stamp ∈ feed.rows (view number)) → shown.count stamp = 1) ∧
        ∀ stamp ∈ shown, ∃ number < fuel, stamp ∈ feed.rows (view number)) ∧
    (∀ (page : CursorPage) (stamp : Stamp) other request, page.scope = feed.scope →
      stamp.Dated → 0 ≤ request → request ≤ 50 →
      parsePage codec (nextCursor codec page stamp.1 stamp.2) other request =
        if feed.scope = other then
          .ok
            { scope := other
              time := stamp.1
              id := stamp.2
              limit := if request = 0 then 20 else request
              hasCursor := true }
        else .error (errInvalidCursor "invalid cursor scope or key")) ∧
    (∀ (page : CursorPage) (stamp : Stamp) (other : Feed) request, page.scope = feed.scope →
      stamp.Dated → other.Valid → other ≠ feed → 0 ≤ request → request ≤ 50 →
      parsePage codec (nextCursor codec page stamp.1 stamp.2) other.scope request =
        .error (errInvalidCursor "invalid cursor scope or key")) := by
  refine ⟨?_, ?_, ?_, ?_⟩
  · intro db isOpen dated
    rcases @followCursor_cases codec actor feed (fun _ => db) size lawful valid signedIn
      (fun _ => isOpen) (fun _ => dated) sized ((feed.rows db).length + 1) 0 [] none
      (Feed.Stands.first codec feed) with
      ⟨pages, finish, walk, reads, length, _⟩ | ⟨pages, finished, reads, _, result⟩
    · exfalso
      have bound := @Keyset.Walk.length_le _ _ _ _ _ _ _ walk
        (reads.distinct (fun _ => feed.distinct db)) ((feed.rows db).map feed.direction.key).toFinset
        (fun page present row found => by
          obtain ⟨_, _, rows⟩ := reads.mem present
          rw [rows] at found
          exact List.mem_toFinset.mpr (List.mem_map_of_mem found))
      have small := List.toFinset_card_le ((feed.rows db).map feed.direction.key)
      rw [List.length_map] at small
      omega
    · have distinct := reads.distinct (fun _ => feed.distinct db)
      have whole := finished.static (feed.distinct db) (fun page present => by
        obtain ⟨_, _, rows⟩ := reads.mem present
        exact rows)
      refine ⟨Keyset.shown pages, ?_, ?_, shown_sorted finished distinct⟩
      · intro fuel enough
        have more := result (fuel - ((feed.rows db).length + 1))
        rw [Nat.add_sub_cancel' enough] at more
        exact more
      · rw [whole]
        exact Keyset.beyond_none _ _
  · intro view isOpen dated fuel outcome came
    rcases @followCursor_cases codec actor feed view size lawful valid signedIn isOpen dated sized
      fuel 0 [] none (Feed.Stands.first codec feed) with
      ⟨_, _, _, _, _, none⟩ | ⟨pages, finished, reads, length, result⟩
    · rw [came] at none
      cases none
    · have distinct := reads.distinct (fun number => feed.distinct (view number))
      have sorted := shown_sorted finished distinct
      have same := result 0
      rw [Nat.add_zero, came] at same
      refine ⟨Keyset.shown pages, Option.some.inj same, sorted, ?_, ?_⟩
      · intro stamp stays
        have once : (Keyset.shown pages).Nodup := by
          refine sorted.imp ?_
          intro left right past equal
          rw [equal, feed.direction.past_iff] at past
          exact lt_irrefl _ past
        have lasting : Keyset.Lasting feed.direction.key pages (feed.direction.key stamp) := by
          intro page present
          obtain ⟨moment, bound, rows⟩ := reads.mem present
          exact ⟨stamp, rows ▸ stays moment (by omega), rfl⟩
        obtain ⟨row, present, equal⟩ := finished.covers distinct (fun _ none => nomatch none) lasting
        rw [feed.direction.key_injective equal] at present
        exact List.count_eq_one_of_mem once present
      · intro stamp present
        obtain ⟨page, among, found⟩ := finished.shown_subset stamp present
        obtain ⟨moment, bound, rows⟩ := reads.mem among
        exact ⟨moment, by omega, rows ▸ found⟩
  · exact fun page stamp other request scope dated => valid.parsePage_nextCursor lawful scope dated
  · intro page stamp other request scope dated otherValid different least most
    rw [valid.parsePage_nextCursor lawful scope dated least most]
    exact if_neg fun same => different (Feed.scope_injective otherValid valid same.symm)

end Following

/-! ### Posts of 1969 and of 1970 -/

def plainText (cursor : Cursor) : List Char :=
  Decimal.digits cursor.id ++ '|' :: (Decimal.digits cursor.time.instant ++ '|' :: cursor.scope)

def readPlain (text : List Char) : Option Cursor := do
  let id ← Decimal.wholeNumber (text.takeWhile (· != '|'))
  let rest := (text.dropWhile (· != '|')).tail
  let instant ← Decimal.wholeNumber (rest.takeWhile (· != '|'))
  pure
    { version := 1
      scope := (rest.dropWhile (· != '|')).tail
      time := { instant := instant, offset := 0 }
      id := id }

/-- The cursor behind the first of two posts of one moment in 1970, with its texts. -/
def postCursor : Cursor :=
  { version := 1
    scope := "posts:0".toList
    time := { instant := 0, offset := 0 }
    id := 2 }

def postCursorJSON : List Char :=
  "\x7b\"v\":1,\"s\":\"posts:0\",\"t\":\"1970-01-01T00:00:00Z\",\"i\":2\x7d".toList

def postCursorBase64 : List Char :=
  "eyJ2IjoxLCJzIjoicG9zdHM6MCIsInQiOiIxOTcwLTAxLTAxVDAwOjAwOjAwWiIsImkiOjJ9".toList

/-- The texts of that cursor as they are; any other cursor is written plainly. -/
def postCodec : CursorCodec :=
  { marshal := fun cursor =>
      some (if cursor = postCursor then postCursorJSON else plainText cursor)
    unmarshal := fun text =>
      if text = postCursorJSON then some (postCursor, true)
      else (readPlain text).map (fun cursor => (cursor, true))
    encodeToString := Equiv.swap postCursorJSON postCursorBase64
    decodeString := fun text => some (Equiv.swap postCursorJSON postCursorBase64 text) }

private theorem length_instant_le {instant : Int} (since : year0 ≤ instant)
    (before : instant < year10000) :
    (Decimal.digits instant).length ≤ 22 := by
  unfold year0 at since
  unfold year10000 at before
  rcases le_or_gt 0 instant with sign | sign
  · rw [Decimal.digits_of_nonneg sign]
    exact (Nat.toDigits_length 10 _ 21 (by decide) (by omega)).trans (by decide)
  · rw [Decimal.digits_of_neg sign, List.length_cons]
    exact Nat.succ_le_succ (Nat.toDigits_length 10 _ 21 (by decide) (by omega))

private theorem cut_digits (value : Int) (rest : List Char) :
    (Decimal.digits value ++ '|' :: rest).takeWhile (· != '|') = Decimal.digits value ∧
      (Decimal.digits value ++ '|' :: rest).dropWhile (· != '|') = '|' :: rest := by
  have numerals : ∀ letter ∈ Decimal.digits value, (letter != '|') = true := by
    intro letter member
    rw [bne_iff_ne]
    rintro rfl
    exact absurd (Decimal.numeral_of_mem_digits member) (by decide)
  constructor
  · rw [List.takeWhile_append_of_pos numerals, List.takeWhile_cons_of_neg (by decide),
      List.append_nil]
  · rw [List.dropWhile_append_of_pos numerals, List.dropWhile_cons_of_neg (by decide)]

private theorem readPlain_plainText {cursor : Cursor} (writable : cursor.Writable) :
    readPlain (plainText cursor) = some cursor := by
  unfold readPlain plainText
  rw [(cut_digits cursor.id _).1, (cut_digits cursor.id _).2, List.tail_cons]
  dsimp only
  rw [(cut_digits cursor.time.instant _).1, (cut_digits cursor.time.instant _).2, List.tail_cons,
    Decimal.wholeNumber_digits, Decimal.wholeNumber_digits, ← writable.version, ← writable.zone]
  rfl

private theorem plainText_ne_postCursorJSON (cursor : Cursor) :
    plainText cursor ≠ postCursorJSON := by
  intro same
  unfold plainText at same
  cases written : Decimal.digits cursor.id with
  | nil =>
      rw [written] at same
      cases same
  | cons first rest =>
      rw [written, List.cons_append] at same
      have numeral := Decimal.numeral_of_mem_digits (written ▸ List.mem_cons_self)
      rw [(List.cons.inj same).1] at numeral
      exact absurd numeral (by decide)

private theorem postCodec_lawful : postCodec.Lawful :=
  { decodes := fun text => congrArg some (Equiv.swap_apply_self _ _ text)
    sized := by
      intro text
      change byteLength (Equiv.swap postCursorJSON postCursorBase64 text) ≤ _
      rw [Equiv.swap_apply_def]
      split
      · next same =>
          rw [same]
          decide
      · split
        · next same =>
            rw [same]
            decide
        · omega
    nonempty := by
      intro text
      change Equiv.swap postCursorJSON postCursorBase64 text = [] → _
      rw [Equiv.swap_apply_def]
      split
      · intro empty
        cases empty
      · split
        · intro empty
          cases empty
        · exact id
    marshals := by
      intro cursor writable
      by_cases known : cursor = postCursor
      · refine ⟨postCursorJSON, congrArg some (if_pos known), ?_, by decide, ?_⟩
        · rw [known]
          rfl
        · rw [known]
          decide
      · refine ⟨plainText cursor, congrArg some (if_neg known), ?_, ?_, ?_⟩
        · refine (if_neg (plainText_ne_postCursorJSON cursor)).trans ?_
          rw [readPlain_plainText writable]
          rfl
        · unfold plainText
          simp
        · have ids := length_digits_le writable.positive.le writable.bounded
          have times := length_instant_le writable.since writable.before
          have bar (rest : List Char) : byteLength ('|' :: rest) = 1 + byteLength rest :=
            byteLength_append ['|'] rest
          unfold plainText
          rw [byteLength_append, bar, byteLength_append, bar, byteLength_digits,
            byteLength_digits]
          omega }

def twoPosts (createdAt : Int) : Community :=
  let post : Post :=
    { id := 0
      authorId := some 1
      title := "tea"
      content := "tea"
      version := 1
      createdAt := createdAt
      deletedAt := none }
  { posts := (Table.empty.insert post).insert post
    comments := .empty }

theorem paging_shows_each_row_once_twoPosts :
    (∃ shown, (∀ fuel, 2 < fuel →
        followCursor ((Feed.posts 0).requests postCodec { id := 1, admin := false }
          (fun _ => twoPosts 0) (fun _ => 1)) fuel 0 [] = some (.ok shown)) ∧
      shown.Perm [(0, 1), (0, 2)]) ∧
    (Feed.posts 0).request postCodec { id := 1, admin := false } (twoPosts 0) [] 1 =
      .ok ([(0, 2)], postCursorBase64) ∧
    parsePage postCodec postCursorBase64 (Feed.roots 1).scope 1 =
      .error (errInvalidCursor "invalid cursor scope or key") := by
  have valid : (Feed.posts 0).Valid := ⟨by decide, by decide⟩
  have dated : (Feed.posts 0).Dated (twoPosts 0) := by
    intro stamp present
    have among : stamp ∈ [((0 : Int), (1 : Int)), (0, 2)] := present
    rcases List.mem_cons.mp among with rfl | rest
    · decide
    · rw [List.mem_singleton.mp rest]
      decide
  obtain ⟨static, _, _, refused⟩ := @paging_shows_each_row_once postCodec
    { id := 1, admin := false } (Feed.posts 0) (fun _ => 1) postCodec_lawful valid (by decide)
    (fun _ => by decide)
  obtain ⟨shown, ends, whole, _⟩ := static (twoPosts 0) trivial dated
  let page : CursorPage :=
    { scope := (Feed.posts 0).scope
      time := 0
      id := 0
      limit := 1
      hasCursor := false }
  have written : nextCursor postCodec page 0 2 = postCursorBase64 := by decide +kernel
  refine ⟨⟨shown, ends, whole⟩, by rfl, ?_⟩
  rw [← written]
  exact refused page (0, 2) (.roots 1) 1 rfl ⟨by decide, by decide, by decide, by decide⟩
    ⟨by decide, by decide⟩ (by nofun) (by decide) (by decide)

/-- Of two posts from before 1970 the second is never shown: the cursor behind the
first is refused by the list that made it. -/
theorem posts_of_1969_stop_the_list :
    postCodec.Lawful ∧ (Feed.posts 0).rows (twoPosts (-1)) = [(-1, 1), (-1, 2)] ∧
      ∀ codec : CursorCodec, codec.Lawful →
        followCursor ((Feed.posts 0).requests codec { id := 1, admin := false }
          (fun _ => twoPosts (-1)) (fun _ => 1)) 2 0 [] =
            some (.error (errInvalidCursor "invalid cursor scope or key")) := by
  refine ⟨postCodec_lawful, rfl, ?_⟩
  intro codec lawful
  have valid : (Feed.posts 0).Valid := ⟨by decide, by decide⟩
  let page : CursorPage :=
    { scope := (Feed.posts 0).scope
      time := 0
      id := 0
      limit := 1
      hasCursor := false }
  have writable : Cursor.Writable
      { version := 1
        scope := page.scope
        time := { instant := -1, offset := 0 }
        id := 2 } :=
    { version := rfl
      plain := (Feed.posts 0).plain
      zone := rfl
      since := by decide
      before := by decide
      positive := by decide
      bounded := by decide }
  have ahead : (Feed.posts 0).ahead (twoPosts (-1)) none = [(-1, 2), (-1, 1)] := by
    decide +kernel
  have request (raw : List Char) :=
    @Feed.request_eq codec { id := 1, admin := false } (Feed.posts 0) (twoPosts (-1)) valid
      (by decide) trivial raw 1
  have first : (Feed.posts 0).request codec { id := 1, admin := false } (twoPosts (-1)) [] 1 =
      .ok ([(-1, 2)], nextCursor codec page (-1) 2) := by
    rw [request]
    change Except.ok (cutPage codec id page (((Feed.posts 0).ahead (twoPosts (-1)) none).take 2)) = _
    rw [ahead]
    rfl
  have full := @nextCursor_ne_nil codec page (-1, 2) lawful writable
  have second : (Feed.posts 0).request codec { id := 1, admin := false } (twoPosts (-1))
      (nextCursor codec page (-1) 2) 1 =
      .error (errInvalidCursor "invalid cursor scope or key") := by
    have parsed := @nextCursor_parses codec page (-1, 2) lawful writable valid.short
      (Feed.posts 0).scope 1 (by decide) (by decide)
    rw [if_neg (by decide)] at parsed
    dsimp only at parsed
    rw [request, parsed]
    rfl
  rw [followCursor, Feed.requests, first]
  dsimp only at full ⊢
  rw [if_neg full, followCursor, Feed.requests, second]
  rfl

end Mall
