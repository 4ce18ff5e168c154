/-
Cache keys never clash.

A key is read back from its cells, the texts between its colons.  The labels among the
first four cells tell the read, every number is a cell of its own, and a text of the
caller stands between cells of a known number on either side.
-/

import Mall.CacheKeys
import Mall.Refinement.Caching

namespace Mall

/-! ### Cells -/

private theorem joinLetters_cons_cons (separator : Char) (part next : List Char)
    (rest : List (List Char)) :
    joinLetters separator (part :: next :: rest) =
      part ++ separator :: joinLetters separator (next :: rest) := rfl

private theorem joinLetters_append (separator : Char) {first second : List (List Char)}
    (some : first ≠ []) (more : second ≠ []) :
    joinLetters separator (first ++ second) =
      joinLetters separator first ++ separator :: joinLetters separator second := by
  induction first with
  | nil => exact absurd rfl some
  | cons part rest ih =>
      cases rest with
      | nil =>
          cases second with
          | nil => exact absurd rfl more
          | cons next others => rfl
      | cons next others =>
          have tail := ih (List.cons_ne_nil _ _)
          rw [List.cons_append] at tail
          rw [List.cons_append, List.cons_append, joinLetters_cons_cons, tail,
            joinLetters_cons_cons, List.append_assoc, List.cons_append]

/-- A key that is a part of a longer one is joined like its own parts. -/
theorem redisKey_nested {base rest : List KeyPart} (some : base ≠ []) (more : rest ≠ []) :
    redisKey (.text (String.ofList (redisKey base)) :: rest) = redisKey (base ++ rest) := by
  have printed : rest.map KeyPart.print ≠ [] := fun empty => more (List.map_eq_nil_iff.mp empty)
  have inner : (KeyPart.text (String.ofList (redisKey base))).print = redisKey base :=
    String.toList_ofList
  calc
    redisKey (.text (String.ofList (redisKey base)) :: rest) =
        joinLetters ':' ([redisKey base] ++ rest.map KeyPart.print) :=
      congrArg (fun text => joinLetters ':' (text :: rest.map KeyPart.print)) inner
    _ = redisKey base ++ ':' :: joinLetters ':' (rest.map KeyPart.print) :=
      joinLetters_append ':' (List.cons_ne_nil _ _) printed
    _ = joinLetters ':' (base.map KeyPart.print ++ rest.map KeyPart.print) :=
      (joinLetters_append ':' (fun empty => some (List.map_eq_nil_iff.mp empty)) printed).symm
    _ = redisKey (base ++ rest) := by
      rw [← List.map_append]
      rfl

/-- A number is one cell; a text has a cell more than it has colons. -/
def KeyPart.cells : KeyPart → List (List Char)
  | .text letters => splitLetters ':' letters.toList
  | .number value => [Decimal.digits value]

private theorem KeyPart.splitLetters_print (part : KeyPart) :
    splitLetters ':' part.print = part.cells := by
  cases part with
  | text letters => rfl
  | number value => exact splitLetters_digits value

private theorem splitLetters_redisKey {parts : List KeyPart} (some : parts ≠ []) :
    splitLetters ':' (redisKey parts) = parts.flatMap KeyPart.cells := by
  rw [redisKey, splitLetters_joinLetters (fun empty => some (List.map_eq_nil_iff.mp empty)),
    List.flatMap_map, funext KeyPart.splitLetters_print]

/-! ### The parts of an entry -/

namespace EntryKey

def parts : EntryKey → Int → List KeyPart
  | .product id, generation => [.text "product", .number id, .text "g", .number generation]
  | .products limit offset, generation =>
      [.text "product", .text "list", .number generation, .number limit, .number offset]
  | .productsByCategory categoryID limit offset, generation =>
      [.text "product", .text "category", .number categoryID, .number generation, .number limit,
        .number offset]
  | .category id, generation => [.text "category", .number id, .text "g", .number generation]
  | .categories parentID limit offset, generation =>
      [.text "category", .text "list", .number parentID, .text "limit", .number limit,
        .text "offset", .number offset, .text "g", .number generation]
  | .event id, generation => [.text "event", .number id, .text "g", .number generation]
  | .events none limit offset, generation =>
      [.text "event", .text "list", .number generation, .text "all", .number limit,
        .number offset]
  | .events (some status) limit offset, generation =>
      [.text "event", .text "list", .number generation, .text "status", .number status,
        .number limit, .number offset]
  | .user id, generation => [.text "user", .number id, .text "g", .number generation]
  | .shippingAddress userID addressID, generation =>
      [.text "shipping_addr", .text "user", .number userID, .number addressID, .text "g",
        .number generation]
  | .shippingAddresses userID limit offset, generation =>
      [.text "shipping_addr", .text "user", .number userID, .text "limit", .number limit,
        .text "offset", .number offset, .text "g", .number generation]
  | .ordersByUser userID limit offset, generation =>
      [.text "order", .text "user", .number userID, .number generation, .number limit,
        .number offset]
  | .ongoingOrdersByUser userID limit offset, generation =>
      [.text "order", .text "user", .text "ongoing", .number userID, .number generation,
        .number limit, .number offset]
  | .payment id, generation => [.text "payment", .number id, .text "g", .number generation]
  | .latestPaymentByOrder orderID, generation =>
      [.text "payment", .text "order", .number orderID, .text "g", .number generation]
  | .activePaymentByOrderMethod orderID method, generation =>
      [.text "payment", .text "order", .number orderID, .text "active", .text method, .text "g",
        .number generation]
  | .paymentByOutTradeNo outTradeNo, generation =>
      [.text "payment", .text "out_trade_no", .text outTradeNo, .text "g", .number generation]

private theorem parts_ne_nil (key : EntryKey) (generation : Int) : key.parts generation ≠ [] := by
  cases key with
  | events status limit offset => cases status <;> exact List.cons_ne_nil _ _
  | _ => exact List.cons_ne_nil _ _

variable {key other : EntryKey} {generation another : Int}

private theorem cacheKey_of_nonneg (read : 0 ≤ generation) :
    key.cacheKey generation = redisKey (key.parts generation) := by
  have set : ¬ generation < 0 := Int.not_lt.mpr read
  have entity : ∀ base : List KeyPart, base ≠ [] →
      generatedEntityCacheKey generation (redisKey base) =
        redisKey (base ++ [.text "g", .number generation]) := by
    intro base some
    rw [generatedEntityCacheKey, if_neg set, redisKey_nested some (List.cons_ne_nil _ _)]
  cases key with
  | category id => exact entity _ (List.cons_ne_nil _ _)
  | categories parentID limit offset => exact entity _ (List.cons_ne_nil _ _)
  | event id => exact entity _ (List.cons_ne_nil _ _)
  | user id => exact entity _ (List.cons_ne_nil _ _)
  | shippingAddress userID addressID => exact entity _ (List.cons_ne_nil _ _)
  | shippingAddresses userID limit offset => exact entity _ (List.cons_ne_nil _ _)
  | events status limit offset => cases status <;> exact if_neg set
  | _ => exact if_neg set

def cells (key : EntryKey) (generation : Int) : List (List Char) :=
  (key.parts generation).flatMap KeyPart.cells

/-- Which read a key belongs to, from its labels. -/
def kindOf : List (List Char) → Nat
  | first :: second :: third :: fourth :: _ =>
      if first = "product".toList then
        if second = "list".toList then 1 else if second = "category".toList then 2 else 0
      else if first = "category".toList then
        if second = "list".toList then 4 else 3
      else if first = "event".toList then
        if second = "list".toList then 6 else 5
      else if first = "user".toList then 7
      else if first = "shipping_addr".toList then
        if fourth = "limit".toList then 9 else 8
      else if first = "order".toList then
        if third = "ongoing".toList then 11 else 10
      else if second = "order".toList then
        if fourth = "active".toList then 14 else 13
      else if second = "out_trade_no".toList then 15 else 12
  | _ => 16

def kind : EntryKey → Nat
  | .product _ => 0
  | .products _ _ => 1
  | .productsByCategory _ _ _ => 2
  | .category _ => 3
  | .categories _ _ _ => 4
  | .event _ => 5
  | .events _ _ _ => 6
  | .user _ => 7
  | .shippingAddress _ _ => 8
  | .shippingAddresses _ _ _ => 9
  | .ordersByUser _ _ _ => 10
  | .ongoingOrdersByUser _ _ _ => 11
  | .payment _ => 12
  | .latestPaymentByOrder _ => 13
  | .activePaymentByOrderMethod _ _ => 14
  | .paymentByOutTradeNo _ => 15

private theorem kindOf_cells (key : EntryKey) (generation : Int) :
    kindOf (key.cells generation) = key.kind := by
  cases key with
  | product id =>
      exact (if_neg (digits_ne_label (by decide))).trans (if_neg (digits_ne_label (by decide)))
  | products limit offset => rfl
  | productsByCategory categoryID limit offset => rfl
  | category id => exact if_neg (digits_ne_label (by decide))
  | categories parentID limit offset => rfl
  | event id => exact if_neg (digits_ne_label (by decide))
  | events status limit offset => cases status <;> rfl
  | user id => rfl
  | shippingAddress userID addressID => exact if_neg (digits_ne_label (by decide))
  | shippingAddresses userID limit offset => rfl
  | ordersByUser userID limit offset => exact if_neg (digits_ne_label (by decide))
  | ongoingOrdersByUser userID limit offset => rfl
  | payment id =>
      exact (if_neg (digits_ne_label (by decide))).trans (if_neg (digits_ne_label (by decide)))
  | latestPaymentByOrder orderID => rfl
  | activePaymentByOrderMethod orderID method =>
      cases cells : splitLetters ':' method.toList with
      | nil => exact absurd cells (splitLetters_ne_nil _)
      | cons cell rest => rfl
  | paymentByOutTradeNo outTradeNo =>
      change kindOf ("payment".toList :: "out_trade_no".toList ::
        (splitLetters ':' outTradeNo.toList ++ ["g".toList, Decimal.digits generation])) = 15
      cases cells : splitLetters ':' outTradeNo.toList with
      | nil => exact absurd cells (splitLetters_ne_nil _)
      | cons cell rest => cases rest <;> rfl

private theorem text_generation_inj {left right : String}
    (same : splitLetters ':' left.toList ++ (splitLetters ':' "g".toList ++
        [Decimal.digits generation]) =
      splitLetters ':' right.toList ++ (splitLetters ':' "g".toList ++ [Decimal.digits another])) :
    left = right ∧ generation = another := by
  obtain ⟨texts, tails⟩ := List.append_inj' same rfl
  have last := (List.cons.inj (List.append_cancel_left tails)).1
  exact ⟨String.toList_inj.mp (splitLetters_injective texts), Decimal.digits_injective last⟩

private theorem events_injective {status asked : Option Int} {limit offset most start : Int}
    (same : ((events status limit offset).parts generation).flatMap KeyPart.cells =
      ((events asked most start).parts another).flatMap KeyPart.cells) :
    events status limit offset = events asked most start ∧ generation = another := by
  cases status <;> cases asked <;>
    simp only [parts, List.flatMap_cons, List.flatMap_nil, KeyPart.cells,
      List.append_cancel_left_eq, List.cons_append, List.nil_append,
      List.cons.injEq, and_true, Decimal.digits_inj] at same
  case none.none =>
    obtain ⟨rfl, rfl, rfl⟩ := same
    exact ⟨rfl, rfl⟩
  case none.some =>
    have labels : "all".toList = "status".toList := (List.cons.inj same.2).1
    exact absurd labels (by decide)
  case some.none =>
    have labels : "status".toList = "all".toList := (List.cons.inj same.2).1
    exact absurd labels (by decide)
  case some.some =>
    obtain ⟨rfl, rfl, rfl, rfl⟩ := same
    exact ⟨rfl, rfl⟩

private theorem cells_injective (same : key.cells generation = other.cells another) :
    key = other ∧ generation = another := by
  have kinds : key.kind = other.kind := by
    rw [← kindOf_cells key generation, same, kindOf_cells]
  -- The labels decide the read, so only keys of one read are left to compare.
  cases key <;> cases other <;> cases kinds <;>
    simp only [cells, parts, List.flatMap_cons, List.flatMap_nil, KeyPart.cells,
      List.append_cancel_left_eq, List.cons_append, List.nil_append, List.append_nil,
      List.cons.injEq, and_true, Decimal.digits_inj] at same
  case product.product =>
    obtain ⟨rfl, rfl⟩ := same
    exact ⟨rfl, rfl⟩
  case products.products =>
    obtain ⟨rfl, rfl, rfl⟩ := same
    exact ⟨rfl, rfl⟩
  case productsByCategory.productsByCategory =>
    obtain ⟨rfl, rfl, rfl, rfl⟩ := same
    exact ⟨rfl, rfl⟩
  case category.category =>
    obtain ⟨rfl, rfl⟩ := same
    exact ⟨rfl, rfl⟩
  case categories.categories =>
    obtain ⟨rfl, rfl, rfl, rfl⟩ := same
    exact ⟨rfl, rfl⟩
  case event.event =>
    obtain ⟨rfl, rfl⟩ := same
    exact ⟨rfl, rfl⟩
  case events.events status limit offset asked most start =>
    exact events_injective same
  case user.user =>
    obtain ⟨rfl, rfl⟩ := same
    exact ⟨rfl, rfl⟩
  case shippingAddress.shippingAddress =>
    obtain ⟨rfl, rfl, rfl⟩ := same
    exact ⟨rfl, rfl⟩
  case shippingAddresses.shippingAddresses =>
    obtain ⟨rfl, rfl, rfl, rfl⟩ := same
    exact ⟨rfl, rfl⟩
  case ordersByUser.ordersByUser =>
    obtain ⟨rfl, rfl, rfl, rfl⟩ := same
    exact ⟨rfl, rfl⟩
  case ongoingOrdersByUser.ongoingOrdersByUser =>
    obtain ⟨rfl, rfl, rfl, rfl⟩ := same
    exact ⟨rfl, rfl⟩
  case payment.payment =>
    obtain ⟨rfl, rfl⟩ := same
    exact ⟨rfl, rfl⟩
  case latestPaymentByOrder.latestPaymentByOrder =>
    obtain ⟨rfl, rfl⟩ := same
    exact ⟨rfl, rfl⟩
  case activePaymentByOrderMethod.activePaymentByOrderMethod =>
    obtain ⟨rfl, tail⟩ := same
    obtain ⟨rfl, rfl⟩ := text_generation_inj tail
    exact ⟨rfl, rfl⟩
  case paymentByOutTradeNo.paymentByOutTradeNo =>
    obtain ⟨rfl, rfl⟩ := text_generation_inj same
    exact ⟨rfl, rfl⟩

private theorem cacheKey_of_neg (failed : generation < 0) : key.cacheKey generation = [] := by
  cases key with
  | _ => exact if_pos failed

private theorem cacheKey_ne_nil (read : 0 ≤ generation) : key.cacheKey generation ≠ [] := by
  intro empty
  have cells := splitLetters_redisKey (key.parts_ne_nil generation)
  rw [← cacheKey_of_nonneg read, empty] at cells
  have kind := kindOf_cells key generation
  rw [EntryKey.cells, ← cells] at kind
  cases key <;> cases kind

private theorem cacheKey_injective (read : 0 ≤ generation)
    (same : key.cacheKey generation = other.cacheKey another) :
    key = other ∧ generation = another := by
  have alsoRead : 0 ≤ another := by
    by_contra failed
    have none : other.cacheKey another = [] := cacheKey_of_neg (Int.lt_of_not_ge failed)
    exact cacheKey_ne_nil read (same.trans none)
  rw [cacheKey_of_nonneg read, cacheKey_of_nonneg alsoRead] at same
  refine cells_injective ?_
  rw [cells, cells, ← splitLetters_redisKey (key.parts_ne_nil generation), same,
    splitLetters_redisKey (other.parts_ne_nil another)]

end EntryKey

/-- The reads whose freshness is proved elsewhere are among these. -/
theorem CacheKey.slot_eq_cacheKey (key : CacheKey) (generation : Nat) :
    key.slot generation = key.entry.cacheKey generation := by
  rw [EntryKey.cacheKey_of_nonneg (Int.natCast_nonneg generation)]
  cases key <;> rfl

/-! ### Generations -/

private theorem EntryKey.cells_eq_append (key : EntryKey) (generation : Int) :
    ∃ front number, key.cells generation = front ++ [Decimal.digits number] := by
  cases key with
  | product id => exact ⟨[_, _, _], generation, rfl⟩
  | products limit offset => exact ⟨[_, _, _, _], offset, rfl⟩
  | productsByCategory categoryID limit offset => exact ⟨[_, _, _, _, _], offset, rfl⟩
  | category id => exact ⟨[_, _, _], generation, rfl⟩
  | categories parentID limit offset => exact ⟨[_, _, _, _, _, _, _, _], generation, rfl⟩
  | event id => exact ⟨[_, _, _], generation, rfl⟩
  | events status limit offset =>
      cases status with
      | none => exact ⟨[_, _, _, _, _], offset, rfl⟩
      | some status => exact ⟨[_, _, _, _, _, _], offset, rfl⟩
  | user id => exact ⟨[_, _, _], generation, rfl⟩
  | shippingAddress userID addressID => exact ⟨[_, _, _, _, _], generation, rfl⟩
  | shippingAddresses userID limit offset => exact ⟨[_, _, _, _, _, _, _, _], generation, rfl⟩
  | ordersByUser userID limit offset => exact ⟨[_, _, _, _, _], offset, rfl⟩
  | ongoingOrdersByUser userID limit offset => exact ⟨[_, _, _, _, _, _], offset, rfl⟩
  | payment id => exact ⟨[_, _, _], generation, rfl⟩
  | latestPaymentByOrder orderID => exact ⟨[_, _, _, _], generation, rfl⟩
  | activePaymentByOrderMethod orderID method =>
      have tail := List.append_assoc (splitLetters ':' method.toList) ["g".toList]
        [Decimal.digits generation]
      exact ⟨"payment".toList :: "order".toList :: Decimal.digits orderID :: "active".toList :: _,
        generation, congrArg (fun rest => _ :: _ :: _ :: _ :: rest) tail.symm⟩
  | paymentByOutTradeNo outTradeNo =>
      have tail := List.append_assoc (splitLetters ':' outTradeNo.toList) ["g".toList]
        [Decimal.digits generation]
      exact ⟨"payment".toList :: "out_trade_no".toList :: _, generation,
        congrArg (fun rest => _ :: _ :: rest) tail.symm⟩

private theorem GenerationKey.splitLetters_print (key : GenerationKey) :
    ∃ front, splitLetters ':' key.print = front ++ ["gen".toList] := by
  cases key with
  | product id => exact ⟨[_, _], splitLetters_redisKey (List.cons_ne_nil _ _)⟩
  | products => exact ⟨[_, _], rfl⟩
  | productsByCategory categoryID =>
      exact ⟨[_, _, _], splitLetters_redisKey (List.cons_ne_nil _ _)⟩
  | category id => exact ⟨[_, _], splitLetters_redisKey (List.cons_ne_nil _ _)⟩
  | categories => exact ⟨[_, _], rfl⟩
  | event id => exact ⟨[_, _], splitLetters_redisKey (List.cons_ne_nil _ _)⟩
  | events => exact ⟨[_, _], rfl⟩
  | user id => exact ⟨[_, _], splitLetters_redisKey (List.cons_ne_nil _ _)⟩
  | shippingAddress userID addressID =>
      exact ⟨[_, _, _, _], splitLetters_redisKey (List.cons_ne_nil _ _)⟩
  | shippingAddresses userID =>
      exact ⟨[_, _, _, _], splitLetters_redisKey (List.cons_ne_nil _ _)⟩
  | ordersByUser userID => exact ⟨[_, _, _], splitLetters_redisKey (List.cons_ne_nil _ _)⟩
  | ongoingOrdersByUser userID =>
      exact ⟨[_, _, _, _], splitLetters_redisKey (List.cons_ne_nil _ _)⟩
  | payment id => exact ⟨[_, _], splitLetters_redisKey (List.cons_ne_nil _ _)⟩
  | paymentsByOrder orderID =>
      exact ⟨[_, _, _], splitLetters_redisKey (List.cons_ne_nil _ _)⟩
  | paymentByOutTradeNo outTradeNo =>
      exact ⟨_ :: _ :: splitLetters ':' outTradeNo.toList,
        splitLetters_redisKey (List.cons_ne_nil _ _)⟩

private theorem EntryKey.cacheKey_ne_generation (key : EntryKey) (generation : Int)
    (counter : GenerationKey) : key.cacheKey generation ≠ counter.print := by
  intro same
  obtain ⟨front, label⟩ := counter.splitLetters_print
  rw [← same] at label
  rcases lt_or_ge generation 0 with failed | read
  · rw [cacheKey_of_neg failed] at label
    have single : ([] : List (List Char)) ++ [[]] = front ++ ["gen".toList] := label
    obtain ⟨_, last⟩ := List.append_inj' single rfl
    exact absurd (List.cons.inj last).1 (by decide)
  · obtain ⟨start, number, cells⟩ := key.cells_eq_append generation
    rw [cacheKey_of_nonneg read, splitLetters_redisKey (key.parts_ne_nil generation)] at label
    obtain ⟨_, last⟩ := List.append_inj' (cells.symm.trans label) rfl
    exact digits_ne_label (by decide) (List.cons.inj last).1

/-- Two reads share a key only if they are one read under one generation, and no read has
the key of a generation. -/
theorem cacheKeys_never_clash :
    (∀ (key other : EntryKey) (generation another : Int), 0 ≤ generation →
        key.cacheKey generation = other.cacheKey another →
        key = other ∧ generation = another) ∧
      ∀ (key : EntryKey) (generation : Int) (counter : GenerationKey),
        key.cacheKey generation ≠ counter.print :=
  ⟨fun _ _ _ _ read same => EntryKey.cacheKey_injective read same,
    EntryKey.cacheKey_ne_generation⟩

/-- A number of the caller that looks like another key stays apart. -/
theorem cacheKeys_never_clash_disguised :
    (EntryKey.paymentByOutTradeNo "7:g:1").cacheKey 2 ≠
        (EntryKey.paymentByOutTradeNo "7").cacheKey 1 ∧
      (EntryKey.paymentByOutTradeNo "7").cacheKey 2 =
        (EntryKey.paymentByOutTradeNo "7").cacheKey 2 := by
  refine ⟨fun same => ?_, rfl⟩
  have alike := (cacheKeys_never_clash.1 _ _ 2 1 (by decide) same).2
  exact absurd alike (by decide)

end Mall
