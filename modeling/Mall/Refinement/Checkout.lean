/-
Catalogue, stock and checkout refine the ledger.
-/

import Mall.Checkout
import Mall.Refinement.Paths

namespace Mall

open Ledger Relational Transactional

variable {warrant : Warrant} {db result : Database} {order : Order} {product : Product}

/-! ### Catalogue -/

private theorem getProductForOrder_eq_some {id : Int} :
    db.getProductForOrder id = some product ↔
      db.products.find? id = some product ∧ product.deletedAt.isNone = true :=
  Option.filter_eq_some_iff

private theorem ledger_insertProduct (row : Product) :
    { db with products := db.products.insert row }.ledger =
      db.ledger.introduceStock db.products.next row.stock := by
  have lookup := db.products.find?_insert row
  refine Ledger.ext rfl rfl rfl rfl ?_ ?_ rfl rfl rfl
  · change Option.isSome ∘ (db.products.insert row).find? = _
    rw [lookup, Function.comp_update]
    rfl
  · funext other
    change (((db.products.insert row).find? other).map Product.stock).getD 0 =
      Function.update db.onHand db.products.next row.stock other
    rw [lookup]
    by_cases same : other = db.products.next
    · subst same
      rw [Function.update_self, Function.update_self]
      rfl
    · rw [Function.update_of_ne same, Function.update_of_ne same]
      rfl

private theorem createProductRow_refines {row stored : Product} (tidy : db.ItemsTidy)
    (done : db.createProductRow row = .ok (stored, result)) : Refines warrant db result := by
  unfold Database.createProductRow at done
  obtain ⟨_, upper, done⟩ := bind_eq_ok.mp done
  obtain ⟨_, lower, done⟩ := bind_eq_ok.mp done
  cases pure_eq_ok.mp done
  have unknown : db.ledger.listed db.products.next = false := by
    simp [Database.ledger, Table.find?_next]
  refine ⟨.introduced ?_, tidy.distinct, tidy.positive, tidy.owned⟩
  rw [ledger_insertProduct]
  exact .introduce _ row.stock unknown ⟨require_eq_ok.mp lower, require_eq_ok.mp upper⟩

theorem createProduct_refines {input : ProductInput} {stock : Int} {status : ProductStatus}
    (tidy : db.ItemsTidy) (done : createProduct input stock status db = .ok (product, result)) :
    Refines warrant db result := by
  unfold createProduct at done
  obtain ⟨_, _, done⟩ := bind_eq_ok.mp done
  obtain ⟨minor, _, done⟩ := bind_eq_ok.mp done
  exact createProductRow_refines tidy done

theorem updateProduct_refines {id : Int} {input : ProductInput} (tidy : db.ItemsTidy)
    (done : updateProduct id input db = .ok (product, result)) :
    Refines warrant db result := by
  unfold updateProduct at done
  obtain ⟨_, _, done⟩ := bind_eq_ok.mp done
  obtain ⟨minor, _, done⟩ := bind_eq_ok.mp done
  obtain ⟨_, _, done⟩ := bind_eq_ok.mp done
  obtain ⟨row, present, _, _, rfl⟩ := Database.updateProductRow_eq_some.mp (found_eq_ok.mp done)
  exact Steps.refines (.unseen (Database.ledger_editProduct _ present rfl) rfl) tidy

theorem updateProductStatus_refines {id : Int} {status : ProductStatus} (tidy : db.ItemsTidy)
    (done : updateProductStatus id status db = .ok (product, result)) :
    Refines warrant db result := by
  unfold updateProductStatus at done
  obtain ⟨_, _, done⟩ := bind_eq_ok.mp done
  obtain ⟨row, present, _, _, rfl⟩ := Database.updateProductRow_eq_some.mp (found_eq_ok.mp done)
  exact Steps.refines (.unseen (Database.ledger_editProduct _ present rfl) rfl) tidy

theorem softDeleteProduct_refines {now : Time} {id : Int} (tidy : db.ItemsTidy)
    (done : softDeleteProduct now id db = .ok result) : Refines warrant db result := by
  unfold softDeleteProduct at done
  obtain ⟨row, present, done⟩ := bind_eq_ok.mp done
  cases pure_eq_ok.mp done
  have known := (getProductForOrder_eq_some.mp (found_eq_ok.mp present)).1
  exact Steps.refines (.unseen (Database.ledger_editProduct _ known rfl) rfl) tidy

/-! ### Adjustments -/

private theorem createStockAdjustment_eq_ok {row stored : StockAdjustment}
    (done : db.createStockAdjustment row = .ok (stored, result)) :
    result = { db with stockAdjustments := db.stockAdjustments.insert row } := by
  unfold Database.createStockAdjustment at done
  obtain ⟨_, _, done⟩ := bind_eq_ok.mp done
  obtain ⟨_, _, done⟩ := bind_eq_ok.mp done
  cases pure_eq_ok.mp done
  rfl

private theorem adjustProductStock_eq_ok {id delta : Int} {updated : Product}
    (done : db.adjustProductStock id delta = .ok (updated, result)) :
    result =
      { db with
        products := db.products.update id (fun row => { row with stock := row.stock + delta }) } := by
  unfold Database.adjustProductStock at done
  obtain ⟨_, _, done⟩ := bind_eq_ok.mp done
  obtain ⟨_, _, done⟩ := bind_eq_ok.mp done
  obtain ⟨_, _, done⟩ := bind_eq_ok.mp done
  obtain ⟨_, _, _, _, same⟩ := Database.updateProductRow_eq_some.mp (found_eq_ok.mp done)
  exact same

private theorem ledger_adjustment {id delta : Int} {row : StockAdjustment}
    (present : db.products.find? id = some product) (same : row.productId = id)
    (moved : row.delta = delta) :
    { db with
      products := db.products.update id (fun row => { row with stock := row.stock + delta })
      stockAdjustments := db.stockAdjustments.insert row }.ledger =
      db.ledger.adjustStock id delta := by
  subst same moved
  have lookup := db.products.find?_update
    (fun product : Product => { product with stock := product.stock + row.delta }) present
  refine Ledger.ext rfl rfl rfl rfl ?_ ?_ rfl rfl ?_
  · change Option.isSome ∘ (db.products.update row.productId _).find? = Option.isSome ∘ db.products.find?
    rw [lookup, Function.comp_update]
    apply Function.update_eq_self_iff.mpr
    simp [present]
  · funext other
    change (((db.products.update row.productId _).find? other).map Product.stock).getD 0 =
      Function.update db.onHand row.productId (db.onHand row.productId + row.delta) other
    rw [lookup]
    by_cases here : other = row.productId
    · subst here
      rw [Function.update_self, Function.update_self, Database.onHand, present]
      rfl
    · rw [Function.update_of_ne here, Function.update_of_ne here]
      rfl
  · funext other
    change (db.stockAdjustments.insert row).total _ =
      Function.update db.adjusted row.productId (db.adjusted row.productId + row.delta) other
    rw [Table.total_insert]
    by_cases here : other = row.productId
    · subst here
      rw [Function.update_self, Database.adjusted]
      simp [Table.inserted, Identified.assign]
    · rw [Function.update_of_ne here]
      simp [Table.inserted, Identified.assign, Ne.symm here, Database.adjusted]

theorem adjustStock_refines {input : StockAdjustmentInput} {adjustment : StockAdjustment}
    (tidy : db.ItemsTidy) (done : adjustStock input db = .ok (adjustment, result)) :
    Refines warrant db result := by
  unfold adjustStock at done
  obtain ⟨_, _, done⟩ := bind_eq_ok.mp done
  obtain ⟨product, present, done⟩ := bind_eq_ok.mp done
  have known := (getProductForOrder_eq_some.mp (found_eq_ok.mp present)).1
  split at done
  · obtain ⟨_, _, done⟩ := bind_eq_ok.mp done
    cases pure_eq_ok.mp done
    exact Steps.refines (.refl db) tidy
  · obtain ⟨_, room, done⟩ := bind_eq_ok.mp done
    have bounds := require_eq_ok.mp room
    obtain ⟨⟨updated, adjusted⟩, moved, done⟩ := bind_eq_ok.mp done
    cases adjustProductStock_eq_ok moved
    cases createStockAdjustment_eq_ok done
    have stock : db.ledger.onHand input.productID = product.stock := by
      simp [Database.ledger, Database.onHand, known]
    have listed : db.ledger.listed input.productID = true := by
      simp [Database.ledger, known]
    have balanced : 0 ≤ db.ledger.onHand input.productID + input.delta := by
      rw [stock]
      omega
    have room : db.ledger.onHand input.productID + input.delta +
        db.ledger.returnable input.productID ≤ maxInt32 := by
      have returnable : db.ledger.returnable input.productID =
          db.getRestorableProductStock input.productID := rfl
      rw [stock, returnable]
      omega
    exact Steps.refines (.one (.adjust _ _ listed balanced room) (ledger_adjustment known rfl rfl) rfl)
      tidy

/-! ### Order requests -/

/-- An accepted list names each product once, in a positive quantity. -/
theorem validateItems_eq_ok {items : List OrderItemInput} {seen : List Int}
    (accepted : validateItems items seen = .ok ()) :
    (∀ item ∈ items, 0 < item.quantity ∧ item.productID ∉ seen) ∧
      (items.map OrderItemInput.productID).Nodup := by
  induction items generalizing seen with
  | nil => exact ⟨nofun, List.nodup_nil⟩
  | cons item rest ih =>
      rw [validateItems] at accepted
      obtain ⟨_, _, accepted⟩ := bind_eq_ok.mp accepted
      obtain ⟨_, quantity, accepted⟩ := bind_eq_ok.mp accepted
      obtain ⟨_, unseen, accepted⟩ := bind_eq_ok.mp accepted
      have positive := require_eq_ok.mp quantity
      obtain ⟨others, distinct⟩ := ih accepted
      constructor
      · intro other member
        rcases List.mem_cons.mp member with rfl | later
        · exact ⟨by omega, require_eq_ok.mp unseen⟩
        · obtain ⟨otherPositive, absent⟩ := others other later
          exact ⟨otherPositive, fun listed => absent (List.mem_cons_of_mem _ listed)⟩
      · refine List.nodup_cons.mpr ⟨?_, distinct⟩
        intro listed
        obtain ⟨other, later, same⟩ := List.mem_map.mp listed
        exact (others other later).2 (same ▸ List.mem_cons_self)

structure ItemsAccepted (items : List OrderItemInput) : Prop where
  positive : ∀ item ∈ items, 0 < item.quantity
  distinct : (items.map OrderItemInput.productID).Nodup

theorem ItemsAccepted.sort {items : List OrderItemInput} (accepted : ItemsAccepted items) :
    ItemsAccepted (sortItems items) := by
  have same : (sortItems items).Perm items := List.perm_insertionSort _ items
  refine ⟨fun item member => accepted.positive item (same.mem_iff.mp member), ?_⟩
  exact ((same.map OrderItemInput.productID).nodup_iff).mpr accepted.distinct

theorem CreateOrderReq.validate_eq {request : CreateOrderReq} {key : String}
    {items : List OrderItemInput} (valid : request.validate = .ok (key, items)) :
    key = trimSpace request.idempotencyKey ∧ items = sortItems request.items ∧
      ItemsAccepted request.items := by
  unfold CreateOrderReq.validate at valid
  obtain ⟨_, _, valid⟩ := bind_eq_ok.mp valid
  obtain ⟨_, _, valid⟩ := bind_eq_ok.mp valid
  obtain ⟨_, _, valid⟩ := bind_eq_ok.mp valid
  obtain ⟨_, _, valid⟩ := bind_eq_ok.mp valid
  obtain ⟨_, checked, valid⟩ := bind_eq_ok.mp valid
  cases pure_eq_ok.mp valid
  obtain ⟨each, distinct⟩ := validateItems_eq_ok checked
  exact ⟨rfl, rfl, fun item member => (each item member).1, distinct⟩

theorem CreateOrderReq.validate_eq_ok {request : CreateOrderReq} {key : String}
    {items : List OrderItemInput} (valid : request.validate = .ok (key, items)) :
    ItemsAccepted items := by
  obtain ⟨_, rfl, accepted⟩ := CreateOrderReq.validate_eq valid
  exact accepted.sort

theorem snapshotItems_eq_ok {items : List OrderItemInput} {total final : Int}
    {snapshots : List ItemSnapshot}
    (done : snapshotItems db items total = .ok (snapshots, final)) :
    snapshots.map ItemSnapshot.input = items := by
  induction items generalizing total final snapshots with
  | nil =>
      cases done
      rfl
  | cons item rest ih =>
      rw [snapshotItems] at done
      obtain ⟨_, _, done⟩ := bind_eq_ok.mp done
      obtain ⟨_, _, done⟩ := bind_eq_ok.mp done
      obtain ⟨_, _, done⟩ := bind_eq_ok.mp done
      obtain ⟨_, _, done⟩ := bind_eq_ok.mp done
      obtain ⟨⟨others, last⟩, later, done⟩ := bind_eq_ok.mp done
      cases pure_eq_ok.mp done
      rw [List.map_cons, ih later]

/-! ### Taking stock -/

def OrderItem.line (item : OrderItem) (product : Int) : Int :=
  if item.productId = product then item.quantity else 0

private theorem lines_createOrderItem (item : OrderItem) (orderId product : Int) :
    (db.createOrderItem item).lines orderId product =
      db.lines orderId product + if item.orderId = orderId then item.line product else 0 := by
  change (db.orderItems.insert item).total _ = _
  rw [Table.total_insert]
  by_cases here : item.orderId = orderId <;>
    simp [Database.lines, Table.inserted, Identified.assign, OrderItem.line, here]

private theorem quantityIn_createOrderItem (item : OrderItem)
    (present : db.orders.find? item.orderId = some order) (counted : OrderStatus → Bool)
    (counts : counted order.status = true) (product : Int) :
    (db.createOrderItem item).quantityIn counted product =
      db.quantityIn counted product + item.line product := by
  change (db.orderItems.insert item).total _ = _
  rw [Table.total_insert]
  simp [Database.quantityIn, Database.createOrderItem, Table.inserted, Identified.assign,
    OrderItem.line, present, counts]

private theorem orders_createOrderItem (item : OrderItem)
    (present : db.orders.find? item.orderId = some order) :
    (db.createOrderItem item).ledger.orders =
      Function.update db.ledger.orders item.orderId
        (some ((db.createOrderItem item).purchase order)) := by
  funext other
  by_cases here : other = item.orderId
  · subst here
    rw [Function.update_self]
    exact Database.ledger_order present
  · rw [Function.update_of_ne here]
    cases found : db.orders.find? other with
    | none => simp [Database.ledger, Database.createOrderItem, found]
    | some row =>
        have key : row.id = other := Table.key_of_find? found
        have kept : (db.createOrderItem item).lines row.id = db.lines row.id := by
          funext product
          rw [lines_createOrderItem, if_neg (fun same => here (key.symm.trans same.symm)), add_zero]
        have unchanged : (db.createOrderItem item).purchase row = db.purchase row := by
          rw [Database.purchase, Database.purchase, kept]
        have after : (db.createOrderItem item).orders.find? other = some row := found
        rw [Database.ledger_order after, Database.ledger_order found, unchanged]

def Database.reserveItem (db : Database) (item : OrderItem) : Database :=
  { db with
    products := db.products.update item.productId
      (fun product => { product with stock := product.stock - item.quantity }) }.createOrderItem item

private theorem ledger_reserveItem (item : OrderItem)
    (known : db.products.find? item.productId = some product)
    (present : db.orders.find? item.orderId = some order)
    (pending : order.status = .pendingPayment) :
    (db.reserveItem item).ledger =
      (db.ledger.setOrder item.orderId ((db.reserveItem item).purchase order)).takeStock
        item.line := by
  have lookup := db.products.find?_update
    (fun row : Product => { row with stock := row.stock - item.quantity }) known
  have held := quantityIn_createOrderItem item present OrderStatus.holdsStock (by rw [pending]; rfl)
  have returnable :=
    quantityIn_createOrderItem item present OrderStatus.isRestorable (by rw [pending]; rfl)
  refine Ledger.ext (orders_createOrderItem item present) rfl rfl rfl ?_ ?_ (funext held)
    (funext returnable) rfl
  · change Option.isSome ∘ (db.products.update _ _).find? = Option.isSome ∘ db.products.find?
    rw [lookup, Function.comp_update]
    apply Function.update_eq_self_iff.mpr
    simp [known]
  · funext other
    change (((db.products.update _ _).find? other).map Product.stock).getD 0 =
      db.onHand other - item.line other
    rw [lookup]
    by_cases here : other = item.productId
    · subst here
      rw [Function.update_self, Database.onHand, known, OrderItem.line, if_pos rfl]
      rfl
    · rw [Function.update_of_ne here, OrderItem.line, if_neg (Ne.symm here), sub_zero]
      rfl

/-- The state inside the writing loop: the order stands with the lines written so
far, and exactly these have left the stock. -/
structure Reserving (base : Ledger) (order : Order) (db : Database) : Prop where
  present : db.orders.find? order.id = some order
  tidy : db.ItemsTidy
  ledger : db.ledger = (base.setOrder order.id (db.purchase order)).takeStock (db.lines order.id)
  bounded : ∀ product, 0 ≤ db.lines order.id product ∧
    db.lines order.id product ≤ base.onHand product

private theorem takeStock_again {base : Ledger} {id : Int} {first second : Purchase}
    {lines more total : Int → Int} (sum : ∀ product, total product = lines product + more product) :
    ((((base.setOrder id first).takeStock lines).setOrder id second).takeStock more) =
      (base.setOrder id second).takeStock total := by
  refine Ledger.ext (Function.update_idem _ _ _) rfl rfl rfl rfl ?_ ?_ ?_ rfl
  all_goals
    funext product
    simp only [Ledger.takeStock, Ledger.setOrder, sum]
    omega

theorem Database.ItemsTidy.createOrderItem (tidy : db.ItemsTidy) {item : OrderItem}
    (present : db.orders.find? item.orderId = some order) (positive : 0 < item.quantity)
    (fresh : ∀ other ∈ db.orderItems, other.orderId = item.orderId →
      other.productId ≠ item.productId) :
    (db.createOrderItem item).ItemsTidy := by
  refine ⟨?_, ?_, ?_⟩
  · intro left right leftMember rightMember sameOrder sameProduct
    rcases Table.mem_insert.mp leftMember with leftOld | rfl <;>
      rcases Table.mem_insert.mp rightMember with rightOld | rfl
    · exact tidy.distinct left right leftOld rightOld sameOrder sameProduct
    · exact absurd sameProduct (fresh left leftOld sameOrder)
    · exact absurd sameProduct.symm (fresh right rightOld sameOrder.symm)
    · rfl
  · intro other member
    rcases Table.mem_insert.mp member with old | rfl
    · exact tidy.positive other old
    · exact positive
  · intro other member
    rcases Table.mem_insert.mp member with old | rfl
    · exact tidy.owned other old
    · exact Option.isSome_iff_exists.mpr ⟨order, present⟩

private theorem lines_eq_zero {orderId product : Int}
    (absent : ∀ item ∈ db.orderItems, item.orderId = orderId → item.productId ≠ product) :
    db.lines orderId product = 0 := by
  apply Table.total_eq_zero
  intro item member
  exact if_neg (fun both => absent item member both.1 both.2)

theorem Reserving.step {base : Ledger} (reserving : Reserving base order db)
    (pending : order.status = .pendingPayment) {item : OrderItem}
    (sameOrder : item.orderId = order.id)
    (known : db.products.find? item.productId = some product) (positive : 0 < item.quantity)
    (enough : item.quantity ≤ product.stock)
    (fresh : ∀ other ∈ db.orderItems, other.orderId = order.id → other.productId ≠ item.productId) :
    Reserving base order (db.reserveItem item) := by
  have present := reserving.present
  rw [← sameOrder] at present fresh
  have lines : ∀ other, (db.reserveItem item).lines order.id other =
      db.lines order.id other + item.line other := by
    intro other
    change (db.createOrderItem item).lines order.id other = _
    rw [lines_createOrderItem, if_pos sameOrder]
  refine ⟨reserving.present, ?_, ?_, ?_⟩
  · have tidy := reserving.tidy.createOrderItem present positive fresh
    exact ⟨tidy.distinct, tidy.positive, tidy.owned⟩
  · rw [ledger_reserveItem item known present pending, sameOrder, reserving.ledger]
    exact takeStock_again lines
  · intro other
    have bounds := reserving.bounded other
    have stock : db.onHand other = base.onHand other - db.lines order.id other :=
      congrFun (congrArg Ledger.onHand reserving.ledger) other
    rw [lines, OrderItem.line]
    split
    · next here =>
        rw [← here, Database.onHand, known] at stock
        rw [← here] at bounds ⊢
        have taken : product.stock = base.onHand item.productId -
          db.lines order.id item.productId := stock
        omega
    · omega

private theorem reserveItems_reserving {base : Ledger} {snapshots : List ItemSnapshot}
    (reserving : Reserving base order db) (pending : order.status = .pendingPayment)
    (accepted : ItemsAccepted (snapshots.map ItemSnapshot.input))
    (fresh : ∀ item ∈ db.orderItems, item.orderId = order.id →
      ∀ snapshot ∈ snapshots, item.productId ≠ snapshot.input.productID)
    (done : reserveItems order.id snapshots db = .ok result) : Reserving base order result := by
  induction snapshots generalizing db with
  | nil =>
      cases done
      exact reserving
  | cons snapshot rest ih =>
      rw [reserveItems] at done
      obtain ⟨⟨_, reduced⟩, taken, done⟩ := bind_eq_ok.mp done
      obtain ⟨product, known, allowed, _, rfl⟩ :=
        Database.updateProductRow_eq_some.mp (found_eq_ok.mp taken)
      have enough : snapshot.input.quantity ≤ product.stock := by
        simp only [Bool.and_eq_true, decide_eq_true_eq] at allowed
        exact allowed.1
      have distinct := List.nodup_cons.mp accepted.distinct
      have stepped : Reserving base order (db.reserveItem (snapshot.row order.id)) :=
        reserving.step pending rfl known (accepted.positive snapshot.input List.mem_cons_self) enough
          (fun other member same => fresh other member same snapshot List.mem_cons_self)
      refine ih stepped ⟨fun item member => accepted.positive item (List.mem_cons_of_mem _ member),
        distinct.2⟩ ?_ done
      intro other member same later laterMember
      rcases Table.mem_insert.mp member with old | rfl
      · exact fresh other old same later (List.mem_cons_of_mem _ laterMember)
      · intro equal
        apply distinct.1
        rw [List.map_map]
        exact List.mem_map.mpr ⟨later, laterMember, equal.symm⟩

/-! ### Placing an order -/

theorem createOrderRow_eq_ok {row order : Order}
    (done : db.createOrderRow row = .ok (order, result)) :
    order = db.orders.inserted row ∧ result = { db with orders := db.orders.insert row } := by
  unfold Database.createOrderRow at done
  obtain ⟨_, _, done⟩ := bind_eq_ok.mp done
  obtain ⟨_, _, done⟩ := bind_eq_ok.mp done
  obtain ⟨_, _, done⟩ := bind_eq_ok.mp done
  cases pure_eq_ok.mp done
  exact ⟨rfl, rfl⟩

theorem Database.ItemsTidy.not_next (tidy : db.ItemsTidy) {item : OrderItem} (member : item ∈ db.orderItems) :
    item.orderId ≠ db.orders.next := by
  intro same
  have owned := tidy.owned item member
  rw [same, Table.find?_next] at owned
  exact absurd owned (by decide)

private theorem createOrderRow_reserving (tidy : db.ItemsTidy) (sound : db.ledger.Sound)
    (row : Order) :
    Reserving db.ledger (db.orders.inserted row)
      { db with orders := db.orders.insert row } := by
  have lookup := db.orders.find?_insert row
  have kept : ∀ {item : OrderItem}, item ∈ db.orderItems →
      (db.orders.insert row).find? item.orderId = db.orders.find? item.orderId := by
    intro item member
    rw [lookup, Function.update_of_ne (tidy.not_next member)]
  have empty : ∀ product, db.lines db.orders.next product = 0 := fun product =>
    lines_eq_zero (fun item member same => absurd same (tidy.not_next member))
  have quantity : ∀ counted product, 
      { db with orders := db.orders.insert row }.quantityIn counted product =
        db.quantityIn counted product := by
    intro counted product
    apply Table.total_congr
    intro item member
    rw [kept member]
  have emptyHere : ∀ product, Database.lines { db with orders := db.orders.insert row }
      (db.orders.inserted row).id product = 0 := empty
  refine ⟨?_, ⟨tidy.distinct, tidy.positive, ?_⟩, ?_, ?_⟩
  · change (db.orders.insert row).find? db.orders.next = _
    rw [lookup, Function.update_self]
  · intro item member
    change ((db.orders.insert row).find? item.orderId).isSome = true
    rw [kept member]
    exact tidy.owned item member
  · refine Ledger.ext (Table.view_insert db.purchase db.orders row) rfl rfl rfl rfl ?_ ?_ ?_ rfl
    · funext product
      simp only [Ledger.takeStock, emptyHere, sub_zero]
      rfl
    · funext product
      simp only [Ledger.takeStock, emptyHere, add_zero]
      exact quantity _ product
    · funext product
      simp only [Ledger.takeStock, emptyHere, add_zero]
      exact quantity _ product
  · intro product
    rw [emptyHere]
    exact ⟨le_refl 0, sound.stocked.onHandNonnegative product⟩

theorem Reserving.opens {base : Database} (reserving : Reserving base.ledger order db)
    (fresh : base.orders.find? order.id = none) (pending : order.status = .pendingPayment)
    (unfunded : order.paidPaymentId = none) (positive : 0 < order.totalAmountMinor) :
    Steady warrant base.ledger db.ledger := by
  rw [reserving.ledger]
  refine Steady.openOrder order.id (db.purchase order) ?_ pending unfunded positive
    reserving.bounded
  simp [Database.ledger, fresh]

private theorem placeOrder_refines {args : CreateOrderArgs} {now : Time} (tidy : db.ItemsTidy)
    (sound : db.ledger.Sound) (accepted : ItemsAccepted args.items)
    (done : placeOrder args now db = .ok (order, result)) : Refines warrant db result := by
  unfold placeOrder at done
  split at done
  · obtain ⟨_, _, done⟩ := bind_eq_ok.mp done
    cases pure_eq_ok.mp done
    exact Steps.refines (.refl db) tidy
  · obtain ⟨_, _, done⟩ := bind_eq_ok.mp done
    obtain ⟨address, _, done⟩ := bind_eq_ok.mp done
    obtain ⟨⟨snapshots, total⟩, priced, done⟩ := bind_eq_ok.mp done
    obtain ⟨_, worth, done⟩ := bind_eq_ok.mp done
    obtain ⟨⟨created, stored⟩, opened, done⟩ := bind_eq_ok.mp done
    obtain ⟨reserved, written, done⟩ := bind_eq_ok.mp done
    cases pure_eq_ok.mp done
    obtain ⟨rfl, rfl⟩ := createOrderRow_eq_ok opened
    have same := snapshotItems_eq_ok priced
    have reserving := reserveItems_reserving
      (createOrderRow_reserving tidy sound (newOrder args address total now)) rfl
      (same ▸ accepted.sort) (fun item member same => absurd same (tidy.not_next member)) written
    have opens : Steady warrant db.ledger reserved.ledger :=
      reserving.opens db.orders.find?_next rfl rfl (not_le.mp (require_eq_ok.mp worth))
    obtain ⟨jobs, queued⟩ := reserved.enqueue_snd _ _
    rw [queued]
    exact ⟨.steady (.single opens), reserving.tidy.distinct, reserving.tidy.positive,
      reserving.tidy.owned⟩

theorem submitOrder_refines {digest : Int → Int → List OrderItemInput → String} {orderNo : String}
    {paymentTimeout : Int} {now : Time} {request : CreateOrderReq} (tidy : db.ItemsTidy)
    (sound : db.ledger.Sound)
    (done : submitOrder digest orderNo paymentTimeout now request db = .ok (order, result)) :
    Refines warrant db result := by
  unfold submitOrder at done
  obtain ⟨⟨key, items⟩, valid, done⟩ := bind_eq_ok.mp done
  have accepted := CreateOrderReq.validate_eq_ok valid
  dsimp only at done
  unfold createOrder at done
  split at done
  · next placed =>
      cases done
      exact placeOrder_refines tidy sound accepted placed
  · split at done
    · cases done
    · split at done
      · -- The unique key was taken meanwhile: the transaction was rolled back.
        obtain ⟨_, _, done⟩ := bind_eq_ok.mp done
        obtain ⟨_, _, done⟩ := bind_eq_ok.mp done
        cases pure_eq_ok.mp done
        exact Steps.refines (.refl db) tidy
      · cases done

end Mall
