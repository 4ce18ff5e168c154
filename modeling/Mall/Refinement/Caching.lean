/-
The caches of products, order lists and payments are a generation cache.

Keys are read back from their texts, so two reads share a slot only if they are the
same read.  The trigger names the generation of every read whose rows a change
touches, and the items of an order do not change between the two queries of a load.
-/

import Mall.Caching
import Mall.Foundation.GenerationCacheReads

namespace Mall

open Relational GenerationCache

/-! ### Texts -/

section Letters

variable {separator : Char}

theorem splitLetters_ne_nil (text : List Char) : splitLetters separator text ≠ [] := by
  cases text with
  | nil => exact List.cons_ne_nil _ _
  | cons letter rest =>
      unfold splitLetters
      split
      · exact List.cons_ne_nil _ _
      · split
        · exact List.cons_ne_nil _ _
        · exact List.cons_ne_nil _ _

private theorem splitLetters_append (left right : List Char) :
    splitLetters separator (left ++ separator :: right) =
      splitLetters separator left ++ splitLetters separator right := by
  induction left with
  | nil =>
      change splitLetters separator (separator :: right) = [] :: splitLetters separator right
      rw [splitLetters.eq_2, if_pos rfl]
  | cons letter rest ih =>
      rw [List.cons_append, splitLetters.eq_2, splitLetters.eq_2, ih]
      split
      · rfl
      · cases parts : splitLetters separator rest with
        | nil => exact absurd parts (splitLetters_ne_nil rest)
        | cons part others => rfl

private theorem splitLetters_free {text : List Char} (free : separator ∉ text) :
    splitLetters separator text = [text] := by
  induction text with
  | nil => rfl
  | cons letter rest ih =>
      obtain ⟨different, inside⟩ := not_or.mp (mt List.mem_cons.mpr free)
      rw [splitLetters, if_neg (Ne.symm different), ih inside]

private theorem joinLetters_splitLetters (text : List Char) :
    joinLetters separator (splitLetters separator text) = text := by
  induction text with
  | nil => rfl
  | cons letter rest ih =>
      rw [splitLetters]
      cases parts : splitLetters separator rest with
      | nil => exact absurd parts (splitLetters_ne_nil rest)
      | cons part others =>
          rw [parts] at ih
          split
          · next same =>
              change [] ++ separator :: joinLetters separator (part :: others) = _
              rw [ih, same, List.nil_append]
          · rw [← ih]
            cases others with
            | nil => rfl
            | cons next more => rfl

theorem splitLetters_injective {left right : List Char}
    (same : splitLetters separator left = splitLetters separator right) : left = right := by
  rw [← @joinLetters_splitLetters separator left, same, joinLetters_splitLetters]

theorem splitLetters_joinLetters {parts : List (List Char)} (nonempty : parts ≠ []) :
    splitLetters separator (joinLetters separator parts) =
      parts.flatMap (splitLetters separator) := by
  induction parts with
  | nil => exact absurd rfl nonempty
  | cons part rest ih =>
      cases rest with
      | nil => exact (List.append_nil _).symm
      | cons next more =>
          rw [joinLetters, splitLetters_append, ih (List.cons_ne_nil _ _)]
          · rfl
          · exact fun empty => List.cons_ne_nil _ _ empty

end Letters

/-! ### Slots -/

theorem splitLetters_digits (value : Int) :
    splitLetters ':' (Decimal.digits value) = [Decimal.digits value] := by
  refine splitLetters_free ?_
  intro member
  exact absurd (Decimal.numeral_of_mem_digits member) (by decide)

theorem digits_ne_label {value : Int} {label : List Char}
    (letter : label.any (fun letter => !Decimal.numeral letter) = true) :
    Decimal.digits value ≠ label := by
  rintro rfl
  obtain ⟨letter, member, strange⟩ := List.any_eq_true.mp letter
  rw [Decimal.numeral_of_mem_digits member] at strange
  cases strange

def CacheKey.cells : CacheKey → Nat → List (List Char)
  | .product id, generation =>
      ["product".toList, Decimal.digits id, "g".toList, Decimal.digits generation]
  | .products limit offset, generation =>
      ["product".toList, "list".toList, Decimal.digits generation, Decimal.digits limit,
        Decimal.digits offset]
  | .productsByCategory categoryID limit offset, generation =>
      ["product".toList, "category".toList, Decimal.digits categoryID, Decimal.digits generation,
        Decimal.digits limit, Decimal.digits offset]
  | .ordersByUser userID limit offset, generation =>
      ["order".toList, "user".toList, Decimal.digits userID, Decimal.digits generation,
        Decimal.digits limit, Decimal.digits offset]
  | .ongoingOrdersByUser userID limit offset, generation =>
      ["order".toList, "user".toList, "ongoing".toList, Decimal.digits userID,
        Decimal.digits generation, Decimal.digits limit, Decimal.digits offset]
  | .payment id, generation =>
      ["payment".toList, Decimal.digits id, "g".toList, Decimal.digits generation]
  | .latestPaymentByOrder orderID, generation =>
      ["payment".toList, "order".toList, Decimal.digits orderID, "g".toList,
        Decimal.digits generation]
  | .activePaymentByOrderMethod orderID method, generation =>
      "payment".toList :: "order".toList :: Decimal.digits orderID :: "active".toList ::
        (splitLetters ':' method.toList ++ ["g".toList, Decimal.digits generation])
  | .paymentByOutTradeNo outTradeNo, generation =>
      "payment".toList :: "out_trade_no".toList ::
        (splitLetters ':' outTradeNo.toList ++ ["g".toList, Decimal.digits generation])

theorem CacheKey.splitLetters_slot (key : CacheKey) (generation : Nat) :
    splitLetters ':' (key.slot generation) = key.cells generation := by
  have nonempty : (key.parts generation).map KeyPart.print ≠ [] := by
    cases key <;> exact List.cons_ne_nil _ _
  rw [CacheKey.slot, redisKey, splitLetters_joinLetters nonempty]
  cases key <;>
    simp only [CacheKey.parts, CacheKey.cells, List.map_cons, List.map_nil, List.flatMap_cons,
      List.flatMap_nil, KeyPart.print, splitLetters_digits] <;>
    rfl

def kindOfCells : List (List Char) → Nat
  | first :: second :: third :: fourth :: _ =>
      if first = "product".toList then
        if second = "list".toList then 1 else if second = "category".toList then 2 else 0
      else if first = "order".toList then
        if third = "ongoing".toList then 4 else 3
      else if second = "order".toList then
        if fourth = "active".toList then 7 else 6
      else if second = "out_trade_no".toList then 8 else 5
  | _ => 9

def CacheKey.kind : CacheKey → Nat
  | .product _ => 0
  | .products _ _ => 1
  | .productsByCategory _ _ _ => 2
  | .ordersByUser _ _ _ => 3
  | .ongoingOrdersByUser _ _ _ => 4
  | .payment _ => 5
  | .latestPaymentByOrder _ => 6
  | .activePaymentByOrderMethod _ _ => 7
  | .paymentByOutTradeNo _ => 8

theorem CacheKey.kindOfCells_cells (key : CacheKey) (generation : Nat) :
    kindOfCells (key.cells generation) = key.kind := by
  cases key with
  | product id =>
      rw [CacheKey.cells, kindOfCells, if_pos rfl, if_neg (digits_ne_label (by decide)),
        if_neg (digits_ne_label (by decide)), CacheKey.kind]
  | products limit offset => rfl
  | productsByCategory categoryID limit offset => rfl
  | ordersByUser userID limit offset =>
      rw [CacheKey.cells, kindOfCells, if_neg (by decide), if_pos rfl,
        if_neg (digits_ne_label (by decide)), CacheKey.kind]
  | ongoingOrdersByUser userID limit offset => rfl
  | payment id =>
      rw [CacheKey.cells, kindOfCells, if_neg (by decide), if_neg (by decide),
        if_neg (digits_ne_label (by decide)), if_neg (digits_ne_label (by decide)), CacheKey.kind]
  | latestPaymentByOrder orderID => rfl
  | activePaymentByOrderMethod orderID method =>
      cases parts : splitLetters ':' method.toList with
      | nil => exact absurd parts (splitLetters_ne_nil _)
      | cons part rest => rfl
  | paymentByOutTradeNo outTradeNo =>
      cases parts : splitLetters ':' outTradeNo.toList with
      | nil => exact absurd parts (splitLetters_ne_nil _)
      | cons part rest =>
          rw [CacheKey.cells, parts]
          cases rest <;> rfl

private theorem splitLetters_generation_inj {left right : String} {generation another : Nat}
    (same : splitLetters ':' left.toList ++ ["g".toList, Decimal.digits generation] =
      splitLetters ':' right.toList ++ ["g".toList, Decimal.digits another]) :
    left = right ∧ Decimal.digits generation = Decimal.digits another := by
  obtain ⟨texts, tails⟩ := List.append_inj' same rfl
  refine ⟨String.toList_inj.mp (splitLetters_injective texts), ?_⟩
  exact (List.cons.inj (List.cons.inj tails).2).1

private theorem digits_natCast_inj {left right : Nat}
    (same : Decimal.digits (left : Int) = Decimal.digits (right : Int)) : left = right :=
  Int.ofNat.inj (Decimal.digits_injective same)

theorem CacheKey.slot_injective {key other : CacheKey} {generation another : Nat}
    (same : key.slot generation = other.slot another) : key = other ∧ generation = another := by
  have cells : key.cells generation = other.cells another := by
    rw [← CacheKey.splitLetters_slot, ← CacheKey.splitLetters_slot, same]
  have kinds : key.kind = other.kind := by
    rw [← CacheKey.kindOfCells_cells key generation, cells, CacheKey.kindOfCells_cells]
  -- The labels decide the kind, so only the reads of one kind are left to compare.
  cases key <;> cases other <;> cases kinds <;>
    simp only [CacheKey.cells, List.cons.injEq, and_true, true_and] at cells
  case product.product =>
    exact ⟨by rw [Decimal.digits_injective cells.1], digits_natCast_inj cells.2⟩
  case products.products =>
    obtain ⟨generations, limits, offsets⟩ := cells
    rw [digits_natCast_inj limits, digits_natCast_inj offsets]
    exact ⟨rfl, digits_natCast_inj generations⟩
  case productsByCategory.productsByCategory =>
    obtain ⟨categories, generations, limits, offsets⟩ := cells
    rw [Decimal.digits_injective categories, digits_natCast_inj limits, digits_natCast_inj offsets]
    exact ⟨rfl, digits_natCast_inj generations⟩
  case ordersByUser.ordersByUser =>
    obtain ⟨users, generations, limits, offsets⟩ := cells
    rw [Decimal.digits_injective users, digits_natCast_inj limits, digits_natCast_inj offsets]
    exact ⟨rfl, digits_natCast_inj generations⟩
  case ongoingOrdersByUser.ongoingOrdersByUser =>
    obtain ⟨users, generations, limits, offsets⟩ := cells
    rw [Decimal.digits_injective users, digits_natCast_inj limits, digits_natCast_inj offsets]
    exact ⟨rfl, digits_natCast_inj generations⟩
  case payment.payment =>
    exact ⟨by rw [Decimal.digits_injective cells.1], digits_natCast_inj cells.2⟩
  case latestPaymentByOrder.latestPaymentByOrder =>
    exact ⟨by rw [Decimal.digits_injective cells.1], digits_natCast_inj cells.2⟩
  case activePaymentByOrderMethod.activePaymentByOrderMethod =>
    obtain ⟨orders, tails⟩ := cells
    obtain ⟨methods, generations⟩ := splitLetters_generation_inj tails
    rw [Decimal.digits_injective orders, methods]
    exact ⟨rfl, digits_natCast_inj generations⟩
  case paymentByOutTradeNo.paymentByOutTradeNo =>
    obtain ⟨numbers, generations⟩ := splitLetters_generation_inj cells
    rw [numbers]
    exact ⟨rfl, digits_natCast_inj generations⟩

/-! ### Rows that a query does not see -/

section Rows

variable {α : Type} [Identified α] {table : Table α} {select : α → Bool}

private theorem filter_insert {row : α} (unseen : select (table.inserted row) = false) :
    (table.insert row).rows.filter select = table.rows.filter select := by
  change (table.rows ++ [table.inserted row]).filter select = _
  rw [List.filter_append, List.filter_singleton, unseen]
  exact List.append_nil _

private theorem rows_update_of_none {id : Int} {change : α → α} (absent : table.find? id = none) :
    (table.update id change).rows = table.rows := by
  change table.rows.map _ = table.rows
  refine (List.map_congr_left ?_).trans (List.map_id _)
  intro row member
  have different : Identified.key row ≠ id := by
    rintro rfl
    rw [Table.find?_key member] at absent
    cases absent
  dsimp only
  rw [if_neg different, Identified.assign_key]
  rfl

private theorem filter_update {id : Int} {change : α → α} {old : α}
    (present : table.find? id = some old)
    (before : select old = false) (after : select (Identified.assign id (change old)) = false) :
    (table.update id change).rows.filter select = table.rows.filter select := by
  obtain ⟨stored, named⟩ := Table.find?_eq_some_iff.mp present
  -- The row that changes is invisible before and after; the others stay.
  have rest : ∀ row ∈ table.rows, select row = true → Identified.key row ≠ id := by
    intro row member seen same
    cases Table.eq_of_key_eq member stored (same.trans named.symm)
    rw [before] at seen
    cases seen
  change (table.rows.map _).filter select = table.rows.filter select
  rw [List.filter_map]
  have visible : table.rows.filter (select ∘ fun row => Identified.assign (Identified.key row)
      (if Identified.key row = id then change row else row)) = table.rows.filter select := by
    refine List.filter_congr ?_
    intro row member
    by_cases same : Identified.key row = id
    · cases Table.eq_of_key_eq member stored (same.trans named.symm)
      rw [Function.comp_apply, if_pos same, same, before, after]
    · rw [Function.comp_apply, if_neg same, Identified.assign_key]
  rw [visible]
  refine (List.map_congr_left ?_).trans (List.map_id _)
  intro row member
  obtain ⟨listed, seen⟩ := List.mem_filter.mp member
  dsimp only
  rw [if_neg (rest row listed seen), Identified.assign_key]
  rfl

/-- The event that a write to one row raises. -/
inductive Happens (table : Table α) : RowEvent α → Table α → Prop
  | insert (row : α) : Happens table (.insert (table.inserted row)) (table.insert row)
  | update (id : Int) (old : α) (change : α → α) (present : table.find? id = some old) :
      Happens table (.update old (Identified.assign id (change old))) (table.update id change)

def RowEvent.rows {α : Type} : RowEvent α → List α
  | .insert new => [new]
  | .update old new => [old, new]
  | .delete old => [old]

theorem Happens.filter {event : RowEvent α} {later : Table α} (happens : Happens table event later)
    (unseen : ∀ row ∈ event.rows, select row = false) :
    later.rows.filter select = table.rows.filter select := by
  cases happens with
  | insert row => exact filter_insert (unseen _ List.mem_cons_self)
  | update id old change present =>
      exact filter_update present (unseen _ List.mem_cons_self)
        (unseen _ (List.mem_cons_of_mem _ List.mem_cons_self))

theorem Happens.key_eq {event : RowEvent α} {later : Table α} (happens : Happens table event later) :
    ∀ row ∈ event.rows, Identified.key row = Identified.key event.currentRow := by
  cases happens with
  | insert row =>
      intro other member
      rw [List.mem_singleton.mp member]
      rfl
  | update id old change present =>
      intro other member
      rcases List.mem_cons.mp member with rfl | last
      · exact (Table.key_of_find? present).trans (Identified.key_assign _ _).symm
      · rw [List.mem_singleton.mp last]
        rfl

private theorem find?_eq_head?_filter (table : Table α) (id : Int) :
    table.find? id = (table.rows.filter (fun row => decide (Identified.key row = id))).head? :=
  List.head?_filter.symm

theorem Happens.find? {event : RowEvent α} {later : Table α} {id : Int}
    (happens : Happens table event later) (other : Identified.key event.currentRow ≠ id) :
    later.find? id = table.find? id := by
  rw [find?_eq_head?_filter, find?_eq_head?_filter, happens.filter]
  intro row member
  rw [happens.key_eq row member]
  exact decide_eq_false other

end Rows

/-! ### What the trigger names -/

theorem CacheKey.generationKey_product (id : Int) :
    (CacheKey.product id).generationKey =
      "product:".toList ++ Decimal.digits id ++ ":gen".toList :=
  (List.append_assoc "product:".toList _ _).symm

theorem CacheKey.generationKey_category (categoryID : Int) (limit offset : Nat) :
    (CacheKey.productsByCategory categoryID limit offset).generationKey =
      "product:category:".toList ++ Decimal.digits categoryID ++ ":gen".toList :=
  (List.append_assoc "product:category:".toList _ _).symm

theorem CacheKey.generationKey_orders (userID : Int) (limit offset : Nat) :
    (CacheKey.ordersByUser userID limit offset).generationKey =
      "order:user:".toList ++ Decimal.digits userID ++ ":gen".toList :=
  (List.append_assoc "order:user:".toList _ _).symm

theorem CacheKey.generationKey_ongoing (userID : Int) (limit offset : Nat) :
    (CacheKey.ongoingOrdersByUser userID limit offset).generationKey =
      "order:user:ongoing:".toList ++ Decimal.digits userID ++ ":gen".toList :=
  (List.append_assoc "order:user:ongoing:".toList _ _).symm

theorem CacheKey.generationKey_payment (id : Int) :
    (CacheKey.payment id).generationKey =
      "payment:".toList ++ Decimal.digits id ++ ":gen".toList :=
  (List.append_assoc "payment:".toList _ _).symm

theorem CacheKey.generationKey_latest (orderID : Int) :
    (CacheKey.latestPaymentByOrder orderID).generationKey =
      "payment:order:".toList ++ Decimal.digits orderID ++ ":gen".toList :=
  (List.append_assoc "payment:order:".toList _ _).symm

theorem CacheKey.generationKey_active (orderID : Int) (method : String) :
    (CacheKey.activePaymentByOrderMethod orderID method).generationKey =
      "payment:order:".toList ++ Decimal.digits orderID ++ ":gen".toList :=
  (List.append_assoc "payment:order:".toList _ _).symm

theorem CacheKey.generationKey_outTradeNo (outTradeNo : String) :
    (CacheKey.paymentByOutTradeNo outTradeNo).generationKey =
      "payment:out_trade_no:".toList ++ outTradeNo.toList ++ ":gen".toList :=
  (List.append_assoc "payment:out_trade_no:".toList _ _).symm

/-- What a read gives that nothing interrupts. -/
def CacheKey.current (key : CacheKey) (db : Database) : CachedValue :=
  (key.load db).finish db

private theorem productTargets_category {event : RowEvent Product} {row : Product}
    (member : row ∈ event.rows) :
    "product:category:".toList ++ Decimal.digits row.categoryId ++ ":gen".toList ∈
      productTargets event := by
  have current : ∀ other : Product, other.categoryId = event.currentRow.categoryId →
      "product:category:".toList ++ Decimal.digits other.categoryId ++ ":gen".toList ∈
        productTargets event := by
    intro other same
    rw [same]
    exact List.mem_append_left _ (List.mem_cons_of_mem _ (List.mem_cons_of_mem _ List.mem_cons_self))
  cases event with
  | insert new => exact current row (congrArg Product.categoryId (List.mem_singleton.mp member))
  | delete old => exact current row (congrArg Product.categoryId (List.mem_singleton.mp member))
  | update old new =>
      rcases List.mem_cons.mp member with rfl | last
      · by_cases same : row.categoryId = new.categoryId
        · exact current row same
        · refine List.mem_append_right _ ?_
          dsimp only
          rw [if_pos same]
          exact List.mem_cons_self
      · exact current row (congrArg Product.categoryId (List.mem_singleton.mp last))

theorem CacheKey.current_products {key : CacheKey} {db : Database} {products : Table Product}
    {event : RowEvent Product} (happens : Happens db.products event products)
    (unnamed : key.generationKey ∉ productTargets event) :
    key.current { db with products := products } = key.current db := by
  cases key with
  | product id =>
      have other : event.currentRow.id ≠ id := by
        rintro rfl
        rw [CacheKey.generationKey_product] at unnamed
        exact unnamed List.mem_cons_self
      have same := happens.find? other
      change CachedValue.product (((products.find? id).filter _).map _) = _
      rw [same]
      rfl
  | products limit offset => exact absurd (List.mem_cons_of_mem _ List.mem_cons_self) unnamed
  | productsByCategory categoryID limit offset =>
      have same : products.rows.filter (fun product => product.categoryId == categoryID &&
          product.status == .onShelf && product.deletedAt.isNone) =
            db.products.rows.filter (fun product => product.categoryId == categoryID &&
              product.status == .onShelf && product.deletedAt.isNone) := by
        refine happens.filter ?_
        intro row member
        have other : row.categoryId ≠ categoryID := by
          rintro rfl
          rw [CacheKey.generationKey_category] at unnamed
          exact unnamed (productTargets_category member)
        rw [beq_false_of_ne other, Bool.false_and, Bool.false_and]
      change CachedValue.products ((pageOf limit offset (List.insertionSort _
        (products.rows.filter _))).map _) = _
      rw [same]
      rfl
  | _ => rfl

def Database.ItemsKept (before now : Database) : Prop :=
  before.orders.next ≤ now.orders.next ∧
    ∀ id < before.orders.next, now.listOrderItems id = before.listOrderItems id

theorem HalfLoad.finish_orders {before now : Database} {rows : List Order}
    (kept : before.ItemsKept now) (listed : ∀ order ∈ rows, order ∈ before.orders) :
    (HalfLoad.orders rows).finish now = (HalfLoad.orders rows).finish before := by
  refine congrArg CachedValue.orders (List.map_congr_left ?_)
  intro order member
  rw [kept.2 order.id (before.orders.issued order (listed order member)).2]

private theorem mem_of_mem_pageOf {α : Type} {relation : α → α → Prop} [DecidableRel relation]
    {limit offset : Nat} {rows : List α} {select : α → Bool} {row : α}
    (member : row ∈ pageOf limit offset ((rows.filter select).insertionSort relation)) :
    row ∈ rows :=
  List.mem_of_mem_filter ((List.mem_insertionSort _).mp
    (List.mem_of_mem_drop (List.mem_of_mem_take member)))

theorem CacheKey.current_orders {key : CacheKey} {db : Database} {orders : Table Order}
    {items : Table OrderItem} {event : RowEvent Order} (happens : Happens db.orders event orders)
    (kept : db.ItemsKept { db with orders := orders, orderItems := items })
    (sameUser : ∀ row ∈ event.rows, row.userId = event.currentRow.userId)
    (unnamed : key.generationKey ∉ orderTargets event) :
    key.current { db with orders := orders, orderItems := items } = key.current db := by
  have hidden : ∀ {userID : Int} {select : Order → Bool}, event.currentRow.userId ≠ userID →
      (∀ row, row.userId ≠ userID → select row = false) →
        orders.rows.filter select = db.orders.rows.filter select := by
    intro userID select other unseen
    refine happens.filter ?_
    intro row member
    exact unseen row (by rw [sameUser row member]; exact other)
  cases key with
  | ordersByUser userID limit offset =>
      have other : event.currentRow.userId ≠ userID := by
        rintro rfl
        rw [CacheKey.generationKey_orders] at unnamed
        exact unnamed List.mem_cons_self
      change (HalfLoad.orders (pageOf limit offset (List.insertionSort _
        (orders.rows.filter _)))).finish _ = _
      rw [hidden other (fun row different => beq_false_of_ne different)]
      exact HalfLoad.finish_orders kept (fun order member => mem_of_mem_pageOf member)
  | ongoingOrdersByUser userID limit offset =>
      have other : event.currentRow.userId ≠ userID := by
        rintro rfl
        rw [CacheKey.generationKey_ongoing] at unnamed
        exact unnamed (List.mem_cons_of_mem _ List.mem_cons_self)
      change (HalfLoad.orders (pageOf limit offset (List.insertionSort _
        (orders.rows.filter _)))).finish _ = _
      rw [hidden other (fun row different => by rw [beq_false_of_ne different, Bool.false_and])]
      exact HalfLoad.finish_orders kept (fun order member => mem_of_mem_pageOf member)
  | _ => rfl

private theorem listPaymentsByOrder_eq {db : Database} {payments : Table Payment}
    {event : RowEvent Payment} {orderID : Int} (happens : Happens db.payments event payments)
    (sameOrder : ∀ row ∈ event.rows, row.orderId = event.currentRow.orderId)
    (other : event.currentRow.orderId ≠ orderID) :
    { db with payments := payments }.listPaymentsByOrderForUpdate orderID =
      db.listPaymentsByOrderForUpdate orderID := by
  unfold Database.listPaymentsByOrderForUpdate
  dsimp only
  rw [happens.filter]
  intro row member
  rw [sameOrder row member]
  exact beq_false_of_ne other

theorem CacheKey.current_payments {key : CacheKey} {db : Database} {payments : Table Payment}
    {event : RowEvent Payment} (happens : Happens db.payments event payments)
    (sameOrder : ∀ row ∈ event.rows, row.orderId = event.currentRow.orderId)
    (sameNumber : ∀ row ∈ event.rows, row.outTradeNo = event.currentRow.outTradeNo)
    (unnamed : key.generationKey ∉ paymentTargets event) :
    key.current { db with payments := payments } = key.current db := by
  have ofOrder : ∀ orderID : Int, "payment:order:".toList ++ Decimal.digits orderID ++
      ":gen".toList ∉ paymentTargets event → event.currentRow.orderId ≠ orderID := by
    rintro orderID missing rfl
    exact missing (List.mem_cons_of_mem _ List.mem_cons_self)
  cases key with
  | payment id =>
      have other : event.currentRow.id ≠ id := by
        rintro rfl
        rw [CacheKey.generationKey_payment] at unnamed
        exact unnamed List.mem_cons_self
      change CachedValue.payment (payments.find? id) = _
      rw [happens.find? other]
      rfl
  | latestPaymentByOrder orderID =>
      rw [CacheKey.generationKey_latest] at unnamed
      change CachedValue.payment (Database.listPaymentsByOrderForUpdate _ orderID).head? = _
      rw [listPaymentsByOrder_eq happens sameOrder (ofOrder orderID unnamed)]
      rfl
  | activePaymentByOrderMethod orderID method =>
      rw [CacheKey.generationKey_active] at unnamed
      change CachedValue.payment ((Database.listPaymentsByOrderForUpdate _ orderID).find? _) = _
      rw [listPaymentsByOrder_eq happens sameOrder (ofOrder orderID unnamed)]
      rfl
  | paymentByOutTradeNo outTradeNo =>
      have other : event.currentRow.outTradeNo ≠ outTradeNo := by
        rintro rfl
        rw [CacheKey.generationKey_outTradeNo] at unnamed
        exact unnamed (List.mem_cons_of_mem _ (List.mem_cons_of_mem _ List.mem_cons_self))
      change CachedValue.payment (payments.rows.find? _) =
        CachedValue.payment (db.payments.rows.find? _)
      rw [← List.head?_filter, ← List.head?_filter, happens.filter]
      intro row member
      rw [sameNumber row member]
      exact beq_false_of_ne other
  | _ => rfl

/-! ### Transactions -/

theorem Database.ItemsKept.refl (db : Database) : db.ItemsKept db :=
  ⟨le_refl _, fun _ _ => rfl⟩

theorem Database.ItemsKept.trans {before between now : Database} (first : before.ItemsKept between)
    (second : between.ItemsKept now) : before.ItemsKept now := by
  refine ⟨le_trans first.1 second.1, ?_⟩
  intro id old
  rw [second.2 id (lt_of_lt_of_le old first.1), first.2 id old]

private theorem filter_insertItems {table : Table OrderItem} {items : List OrderItem}
    {orderID id : Int} (other : orderID ≠ id) :
    (items.foldl (fun table item => table.insert { item with orderId := orderID })
      table).rows.filter (fun item => item.orderId == id) =
        table.rows.filter (fun item => item.orderId == id) := by
  induction items generalizing table with
  | nil => rfl
  | cons item rest ih =>
      rw [List.foldl_cons, ih]
      exact filter_insert (beq_false_of_ne other)

theorem RowChange.itemsKept (change : RowChange) (db : Database) :
    db.ItemsKept (change.apply db) := by
  cases change with
  | insertOrder order items =>
      refine ⟨Int.le_add_of_nonneg_right (by decide), ?_⟩
      intro id old
      change List.insertionSort _ (List.filter _ (items.foldl _ db.orderItems).rows) = _
      rw [filter_insertItems (ne_of_gt old)]
      rfl
  | _ => exact .refl _

private theorem applyChanges_itemsKept (changes : List RowChange) (db : Database) :
    db.ItemsKept (applyChanges changes db) := by
  induction changes generalizing db with
  | nil => exact .refl db
  | cons change rest ih => exact (change.itemsKept db).trans (ih _)

private theorem updateTargets_cases {α : Type} [Identified α]
    (targets : RowEvent α → List (List Char)) (table : Table α) (id : Int) (change : α → α) :
    table.update id change = table ∨
      ∃ old, table.find? id = some old ∧
        updateTargets targets table id change =
          [targets (.update old (Identified.assign id (change old)))] := by
  unfold updateTargets
  cases present : table.find? id with
  | none => exact Or.inl (Table.ext (rows_update_of_none present) rfl)
  | some old => exact Or.inr ⟨old, rfl, rfl⟩

/-- What the trigger of a row change does not name reads as before. -/
theorem RowChange.current_eq {change : RowChange} {db : Database} {key : CacheKey}
    (unnamed : ∀ keys ∈ change.targets db, key.generationKey ∉ keys) :
    key.current (change.apply db) = key.current db := by
  cases change with
  | insertProduct product =>
      exact CacheKey.current_products (.insert product) (unnamed _ List.mem_cons_self)
  | updateProduct id change =>
      rcases updateTargets_cases productTargets db.products id change with same | ⟨old, present, one⟩
      · exact congrArg key.current (congrArg (fun products => { db with products := products }) same)
      · change ∀ keys ∈ updateTargets _ _ _ _, _ at unnamed
        rw [one] at unnamed
        exact CacheKey.current_products (.update id old change present)
          (unnamed _ List.mem_cons_self)
  | insertOrder order items =>
      refine CacheKey.current_orders (.insert order)
        (RowChange.itemsKept (.insertOrder order items) db) ?_ (unnamed _ List.mem_cons_self)
      intro row member
      rw [List.mem_singleton.mp member]
      rfl
  | updateOrder id update =>
      rcases updateTargets_cases orderTargets db.orders id update.change with
        same | ⟨old, present, one⟩
      · exact congrArg key.current (congrArg (fun orders => { db with orders := orders }) same)
      · change ∀ keys ∈ updateTargets _ _ _ _, _ at unnamed
        rw [one] at unnamed
        refine CacheKey.current_orders (.update id old update.change present)
          (RowChange.itemsKept (.updateOrder id update) db) ?_ (unnamed _ List.mem_cons_self)
        intro row member
        rcases List.mem_cons.mp member with rfl | last
        · exact (update.user row).symm
        · rw [List.mem_singleton.mp last]
          rfl
  | insertPayment payment =>
      refine CacheKey.current_payments (.insert payment) ?_ ?_ (unnamed _ List.mem_cons_self)
      · intro row member
        rw [List.mem_singleton.mp member]
        rfl
      · intro row member
        rw [List.mem_singleton.mp member]
        rfl
  | updatePayment id update =>
      rcases updateTargets_cases paymentTargets db.payments id update.change with
        same | ⟨old, present, one⟩
      · exact congrArg key.current (congrArg (fun payments => { db with payments := payments }) same)
      · change ∀ keys ∈ updateTargets _ _ _ _, _ at unnamed
        rw [one] at unnamed
        refine CacheKey.current_payments (.update id old update.change present) ?_ ?_
          (unnamed _ List.mem_cons_self)
        · intro row member
          rcases List.mem_cons.mp member with rfl | last
          · exact (update.order row).symm
          · rw [List.mem_singleton.mp last]
            rfl
        · intro row member
          rcases List.mem_cons.mp member with rfl | last
          · exact (update.outTradeNo row).symm
          · rw [List.mem_singleton.mp last]
            rfl

private theorem applyChanges_current_eq {changes : List RowChange} {db : Database} {key : CacheKey}
    (unnamed : ∀ keys ∈ changeTargets changes db, key.generationKey ∉ keys) :
    key.current (applyChanges changes db) = key.current db := by
  induction changes generalizing db with
  | nil => rfl
  | cons change rest ih =>
      have first : key.current (change.apply db) = key.current db :=
        RowChange.current_eq (fun keys member => unnamed keys (List.mem_append_left _ member))
      have others : key.current (applyChanges rest (change.apply db)) =
          key.current (change.apply db) :=
        ih (fun keys member => unnamed keys (List.mem_append_right _ member))
      exact others.trans first

theorem HalfLoad.finish_load {before now : Database} (kept : before.ItemsKept now)
    (key : CacheKey) : (key.load before).finish now = key.current before := by
  cases key with
  | ordersByUser userID limit offset =>
      exact HalfLoad.finish_orders kept (fun order member => mem_of_mem_pageOf member)
  | ongoingOrdersByUser userID limit offset =>
      exact HalfLoad.finish_orders kept (fun order member => mem_of_mem_pageOf member)
  | _ => rfl

theorem cacheScheme_lawful : cacheScheme.Lawful Database.ItemsKept := by
  refine ⟨CacheKey.slot_injective, ?_, Database.ItemsKept.refl, ?_, ?_⟩
  · intro changes db key stale
    by_contra uncovered
    refine stale (applyChanges_current_eq ?_)
    intro keys member named
    exact uncovered ⟨keys, member, named⟩
  · intro before now changes kept
    exact kept.trans (applyChanges_itemsKept changes now)
  · intro before now key kept
    exact HalfLoad.finish_load kept key

end Mall
