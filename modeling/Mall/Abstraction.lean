/-
The ledger that a database holds.

Each table is read through its lookup function.  The lemmas say how the ledger
changes when one row of one table changes.
-/

import Mall.Database
import Mall.Ledger

namespace Mall

open Relational

variable {db : Database}

/-! ### The abstraction -/

def Order.terms (order : Order) : Terms :=
  { user := order.userId
    amount := order.totalAmountMinor
    currency := order.currency }

def Payment.charge (payment : Payment) : Charge :=
  { order := payment.orderId
    terms :=
      { user := payment.userId
        amount := payment.amountMinor
        currency := payment.currency }
    channel := payment.payChannel
    outTradeNo := payment.outTradeNo
    status := payment.status
    transaction := payment.thirdPartyTxId
    review := payment.needsReview }

def OrderRefund.reversal (refund : OrderRefund) : Reversal :=
  { payment := refund.paymentId
    order := refund.orderId
    terms :=
      { user := refund.userId
        amount := refund.totalAmountMinor
        currency := refund.currency }
    returned := refund.refundAmountMinor
    number := refund.outRefundNo
    purpose := refund.purpose
    status := refund.status }

def ReconciliationFailure.finding (failure : ReconciliationFailure) : Finding :=
  { payment := failure.paymentId
    providerRefund := failure.reason == .providerSideRefund
    unresolved := failure.resolvedAt.isNone }

def OrderStatus.holdsStock : OrderStatus → Bool
  | .cancelled | .refunded => false
  | _ => true

namespace Database

def lines (db : Database) (orderId product : Int) : Int :=
  db.orderItems.total (fun item =>
    if item.orderId = orderId ∧ item.productId = product then item.quantity else 0)

def purchase (db : Database) (order : Order) : Purchase :=
  { terms := order.terms
    status := order.status
    fundedBy := order.paidPaymentId
    lines := db.lines order.id }

def adjusted (db : Database) (product : Int) : Int :=
  db.stockAdjustments.total (fun row => if row.productId = product then row.delta else 0)

def onHand (db : Database) (product : Int) : Int :=
  ((db.products.find? product).map Product.stock).getD 0

def ledger (db : Database) : Ledger :=
  { orders := Option.map db.purchase ∘ db.orders.find?
    payments := Option.map Payment.charge ∘ db.payments.find?
    refunds := Option.map OrderRefund.reversal ∘ db.refunds.find?
    findings := Option.map ReconciliationFailure.finding ∘ db.failures.find?
    listed := Option.isSome ∘ db.products.find?
    onHand := db.onHand
    held := db.quantityIn OrderStatus.holdsStock
    returnable := db.quantityIn OrderStatus.isRestorable
    adjusted := db.adjusted }

/-! ### Lookups -/

theorem ledger_order {id : Int} {order : Order} (present : db.orders.find? id = some order) :
    db.ledger.orders id = some (db.purchase order) := by
  simp [ledger, present]

theorem ledger_payment {id : Int} {payment : Payment}
    (present : db.payments.find? id = some payment) :
    db.ledger.payments id = some payment.charge := by
  simp [ledger, present]

theorem ledger_refund {id : Int} {refund : OrderRefund}
    (present : db.refunds.find? id = some refund) :
    db.ledger.refunds id = some refund.reversal := by
  simp [ledger, present]

theorem ledger_finding {id : Int} {failure : ReconciliationFailure}
    (present : db.failures.find? id = some failure) :
    db.ledger.findings id = some failure.finding := by
  simp [ledger, present]

theorem of_ledger_order {id : Int} {purchase : Purchase}
    (present : db.ledger.orders id = some purchase) :
    ∃ order, db.orders.find? id = some order ∧ db.purchase order = purchase :=
  Option.map_eq_some_iff.mp present

theorem of_ledger_payment {id : Int} {charge : Charge}
    (present : db.ledger.payments id = some charge) :
    ∃ payment, db.payments.find? id = some payment ∧ payment.charge = charge :=
  Option.map_eq_some_iff.mp present

theorem of_ledger_refund {id : Int} {reversal : Reversal}
    (present : db.ledger.refunds id = some reversal) :
    ∃ refund, db.refunds.find? id = some refund ∧ refund.reversal = reversal :=
  Option.map_eq_some_iff.mp present

/-! ### Changes of one row -/

theorem ledger_updatePayment {id : Int} {row : Payment} (change : Payment → Payment)
    (present : db.payments.find? id = some row) :
    { db with payments := db.payments.update id change }.ledger =
      db.ledger.setPayment id (change row).charge := by
  have view := Table.view_update Payment.charge db.payments change present
  exact Ledger.ext rfl view rfl rfl rfl rfl rfl rfl rfl

theorem ledger_updatePayment_same {id : Int} {row : Payment} (change : Payment → Payment)
    (present : db.payments.find? id = some row) (same : (change row).charge = row.charge) :
    { db with payments := db.payments.update id change }.ledger = db.ledger := by
  rw [ledger_updatePayment change present, same, Ledger.setPayment_self _ (ledger_payment present)]

theorem ledger_insertPayment (db : Database) (row : Payment) :
    { db with payments := db.payments.insert row }.ledger =
      db.ledger.setPayment db.payments.next row.charge := by
  have view := Table.view_insert Payment.charge db.payments row
  exact Ledger.ext rfl view rfl rfl rfl rfl rfl rfl rfl

theorem ledger_updateRefund {id : Int} {row : OrderRefund} (change : OrderRefund → OrderRefund)
    (present : db.refunds.find? id = some row) :
    { db with refunds := db.refunds.update id change }.ledger =
      db.ledger.setRefund id (change row).reversal := by
  have view := Table.view_update OrderRefund.reversal db.refunds change present
  exact Ledger.ext rfl rfl view rfl rfl rfl rfl rfl rfl

theorem ledger_insertRefund (db : Database) (row : OrderRefund) :
    { db with refunds := db.refunds.insert row }.ledger =
      db.ledger.setRefund db.refunds.next row.reversal := by
  have view := Table.view_insert OrderRefund.reversal db.refunds row
  exact Ledger.ext rfl rfl view rfl rfl rfl rfl rfl rfl

theorem ledger_updateFailure {id : Int} {row : ReconciliationFailure}
    (change : ReconciliationFailure → ReconciliationFailure)
    (present : db.failures.find? id = some row) :
    { db with failures := db.failures.update id change }.ledger =
      db.ledger.setFinding id (change row).finding := by
  have view := Table.view_update ReconciliationFailure.finding db.failures change present
  exact Ledger.ext rfl rfl rfl view rfl rfl rfl rfl rfl

theorem ledger_insertFailure (db : Database) (row : ReconciliationFailure) :
    { db with failures := db.failures.insert row }.ledger =
      db.ledger.setFinding db.failures.next row.finding := by
  have view := Table.view_insert ReconciliationFailure.finding db.failures row
  exact Ledger.ext rfl rfl rfl view rfl rfl rfl rfl rfl

theorem ledger_editProduct {id : Int} {row : Product} (change : Product → Product)
    (present : db.products.find? id = some row) (sameStock : (change row).stock = row.stock) :
    { db with products := db.products.update id change }.ledger = db.ledger := by
  have lookup := db.products.find?_update change present
  have listed : Option.isSome ∘ (db.products.update id change).find? =
      Option.isSome ∘ db.products.find? := by
    rw [lookup, Function.comp_update]
    apply Function.update_eq_self_iff.mpr
    simp [present]
  have stock : ∀ product, (((db.products.update id change).find? product).map Product.stock).getD 0
      = db.onHand product := by
    intro product
    rw [lookup]
    by_cases same : product = id
    · subst same
      rw [Function.update_self, Database.onHand, present]
      exact sameStock
    · rw [Function.update_of_ne same]
      rfl
  exact Ledger.ext rfl rfl rfl rfl listed (funext stock) rfl rfl rfl

/-! ### Orders and their quantities -/

def counts (flag : Bool) : Int :=
  if flag then 1 else 0

private theorem quantityIn_updateOrder {id : Int} {row : Order} (change : Order → Order)
    (present : db.orders.find? id = some row) (counted : OrderStatus → Bool) (product : Int) :
    { db with orders := db.orders.update id change }.quantityIn counted product =
      db.quantityIn counted product +
        (counts (counted (change row).status) - counts (counted row.status)) *
          db.lines id product := by
  have lookup := db.orders.find?_update change present
  have scaled : ∀ factor : Int, factor * db.lines id product =
      db.orderItems.total (fun item =>
        if item.orderId = id ∧ item.productId = product then factor * item.quantity else 0) := by
    intro factor
    rw [Database.lines, Table.mul_total]
    apply Table.total_congr
    intro item _
    split <;> simp
  rw [scaled, quantityIn, quantityIn, ← Table.total_add]
  apply Table.total_congr
  intro item _
  rw [lookup]
  by_cases same : item.orderId = id
  · rw [same, Function.update_self, present]
    by_cases here : item.productId = product
    · cases before : counted row.status <;> cases after : counted (change row).status <;>
        simp [here, counts, before, after, Identified.assign]
    · simp [here]
  · rw [Function.update_of_ne same]
    simp [same]

private theorem ledger_updateOrder {id : Int} {row : Order} (change : Order → Order)
    (present : db.orders.find? id = some row) :
    { db with orders := db.orders.update id change }.ledger =
      { db.ledger.setOrder id (db.purchase { change row with id := id }) with
        held := fun product => db.quantityIn OrderStatus.holdsStock product +
          (counts (change row).status.holdsStock - counts row.status.holdsStock) *
            db.lines id product
        returnable := fun product => db.quantityIn OrderStatus.isRestorable product +
          (counts (change row).status.isRestorable - counts row.status.isRestorable) *
            db.lines id product } := by
  have view := Table.view_update db.purchase db.orders change present
  have held := funext (quantityIn_updateOrder change present OrderStatus.holdsStock)
  have returnable := funext (quantityIn_updateOrder change present OrderStatus.isRestorable)
  exact Ledger.ext view rfl rfl rfl rfl rfl held returnable rfl

theorem ledger_updateOrder_same {id : Int} {row : Order} (change : Order → Order)
    (present : db.orders.find? id = some row)
    (held : (change row).status.holdsStock = row.status.holdsStock)
    (returnable : (change row).status.isRestorable = row.status.isRestorable) :
    { db with orders := db.orders.update id change }.ledger =
      db.ledger.setOrder id (db.purchase { change row with id := id }) := by
  rw [ledger_updateOrder change present, held, returnable]
  simp only [sub_self, zero_mul, add_zero]
  rfl

theorem ledger_updateOrder_leave {id : Int} {row : Order} (change : Order → Order)
    (present : db.orders.find? id = some row) (before : row.status.isRestorable = true)
    (after : (change row).status.holdsStock = false) :
    { db with orders := db.orders.update id change }.ledger =
      { db.ledger.setOrder id (db.purchase { change row with id := id }) with
        held := fun product => db.ledger.held product - db.lines id product
        returnable := fun product => db.ledger.returnable product - db.lines id product } := by
  have held : row.status.holdsStock = true := by
    cases status : row.status <;> simp_all [OrderStatus.isRestorable, OrderStatus.holdsStock]
  have gone : (change row).status.isRestorable = false := by
    cases status : (change row).status <;> simp_all [OrderStatus.isRestorable, OrderStatus.holdsStock]
  rw [ledger_updateOrder change present, before, after, held, gone]
  refine Ledger.ext rfl rfl rfl rfl rfl rfl ?_ ?_ rfl
  all_goals
    funext product
    simp only [counts, ledger]
    simp only [Bool.false_eq_true, if_false, if_true]
    omega

/-- An order whose goods go out still holds them, but can no longer return them. -/
theorem ledger_updateOrder_dispatch {id : Int} {row : Order} (change : Order → Order)
    (present : db.orders.find? id = some row) (before : row.status.isRestorable = true)
    (held : (change row).status.holdsStock = true)
    (gone : (change row).status.isRestorable = false) :
    { db with orders := db.orders.update id change }.ledger =
      (db.ledger.setOrder id (db.purchase { change row with id := id })).dispatchStock
        (db.lines id) := by
  have holding : row.status.holdsStock = true := by
    cases status : row.status <;> simp_all [OrderStatus.isRestorable, OrderStatus.holdsStock]
  rw [ledger_updateOrder change present, before, held, holding, gone]
  refine Ledger.ext rfl rfl rfl rfl rfl rfl ?_ ?_ rfl
  all_goals
    funext product
    simp only [counts, ledger, Ledger.setOrder, Ledger.dispatchStock]
    simp only [Bool.false_eq_true, if_false, if_true]
    omega

/-! ### Items -/

/-- What checkout guarantees about order items: one per product and order, for a
positive quantity, of an order that exists. -/
structure ItemsTidy (db : Database) : Prop where
  distinct : ∀ left right, left ∈ db.orderItems → right ∈ db.orderItems →
    left.orderId = right.orderId → left.productId = right.productId → left = right
  positive : ∀ item ∈ db.orderItems, 0 < item.quantity
  owned : ∀ item ∈ db.orderItems, (db.orders.find? item.orderId).isSome = true

theorem ItemsTidy.updateOrder (tidy : db.ItemsTidy) {id : Int} {row : Order}
    (change : Order → Order) (present : db.orders.find? id = some row) :
    { db with orders := db.orders.update id change }.ItemsTidy := by
  refine ⟨tidy.distinct, tidy.positive, ?_⟩
  intro item member
  change ((db.orders.update id change).find? item.orderId).isSome = true
  rw [db.orders.find?_update change present]
  by_cases same : item.orderId = id
  · rw [same, Function.update_self]
    rfl
  · rw [Function.update_of_ne same]
    exact tidy.owned item member

/-- The joined item is the only one, so the restore statement returns the whole
quantity of the order. -/
theorem restoredQuantity_eq_lines (tidy : db.ItemsTidy) (orderId product : Int) :
    db.restoredQuantity orderId product = db.lines orderId product := by
  have unique : ∀ left right, left ∈ db.orderItems → right ∈ db.orderItems →
      (left.orderId == orderId && left.productId == product) = true →
      (right.orderId == orderId && right.productId == product) = true → left = right := by
    intro left right leftMember rightMember leftChosen rightChosen
    simp only [Bool.and_eq_true, beq_iff_eq] at leftChosen rightChosen
    exact tidy.distinct left right leftMember rightMember
      (leftChosen.1.trans rightChosen.1.symm) (leftChosen.2.trans rightChosen.2.symm)
  rw [restoredQuantity, joinedItem, ← Table.total_ite_of_unique unique, lines]
  apply Table.total_congr
  intro item _
  simp

private theorem lines_le_quantityIn (tidy : db.ItemsTidy) {orderId : Int} {order : Order}
    (present : db.orders.find? orderId = some order) {counted : OrderStatus → Bool}
    (counts : counted order.status = true) (product : Int) :
    db.lines orderId product ≤ db.quantityIn counted product := by
  apply Table.total_mono
  intro item member
  have positive := tidy.positive item member
  by_cases same : item.orderId = orderId
  · by_cases here : item.productId = product
    · simp [same, here, present, counts]
    · simp [here]
  · rw [if_neg (fun both => same both.1)]
    split
    · omega
    · exact le_refl 0

/-! ### Returning stock -/

theorem restoreOrderItemStock_eq_ok {db result : Database} {orderId : Int}
    (restored : db.restoreOrderItemStock orderId = .ok result) :
    result = { db with
      products := db.products.rewrite (fun product =>
        { product with stock := product.stock + db.restoredQuantity orderId product.id }) } := by
  unfold restoreOrderItemStock at restored
  obtain ⟨_, _, done⟩ := Transactional.bind_eq_ok.mp restored
  exact (Transactional.pure_eq_ok.mp done).symm

theorem ledger_restoreOrderItemStock {db result : Database} {orderId : Int} (tidy : db.ItemsTidy)
    (listed : ∀ product, db.ledger.listed product = false → db.lines orderId product = 0)
    (restored : db.restoreOrderItemStock orderId = .ok result) :
    result.ledger =
      { db.ledger with onHand := fun product => db.onHand product + db.lines orderId product } := by
  have result_eq := restoreOrderItemStock_eq_ok restored
  subst result_eq
  refine Ledger.ext rfl rfl rfl rfl ?_ ?_ rfl rfl rfl
  · funext product
    change ((db.products.rewrite _).find? product).isSome = (db.products.find? product).isSome
    rw [Table.find?_rewrite, Option.isSome_map]
  · funext product
    change (((db.products.rewrite _).find? product).map Product.stock).getD 0 =
      db.onHand product + db.lines orderId product
    rw [Table.find?_rewrite, onHand]
    cases present : db.products.find? product with
    | none =>
        have absent : db.ledger.listed product = false := by
          simp [ledger, present]
        simp [listed product absent]
    | some row =>
        have same : row.id = product := Table.key_of_find? present
        simp [Identified.assign, same, restoredQuantity_eq_lines tidy]

/-- While there is room for everything returnable, the restore cannot overflow. -/
theorem restoreOrderItemStock_succeeds {orderId : Int} {order : Order} (tidy : db.ItemsTidy)
    (present : db.orders.find? orderId = some order)
    (restorable : order.status.isRestorable = true)
    (room : ∀ product, db.onHand product + db.quantityIn OrderStatus.isRestorable product ≤
      maxInt32) :
    ∃ result, db.restoreOrderItemStock orderId = .ok result := by
  have fits : ∀ product ∈ db.products.rows,
      product.stock + db.restoredQuantity orderId product.id ≤ maxInt32 := by
    intro product member
    have found : db.products.find? product.id = some product := Table.find?_key member
    have stock : db.onHand product.id = product.stock := by
      simp [onHand, found]
    have bound := room product.id
    have part := lines_le_quantityIn tidy present restorable product.id
    rw [restoredQuantity_eq_lines tidy]
    omega
  unfold restoreOrderItemStock
  rw [Transactional.require_of fits]
  exact ⟨_, rfl⟩

theorem restoreOrderItemStock_orders {db result : Database} {orderId : Int} (orders : Table Order)
    (done : db.restoreOrderItemStock orderId = .ok result) :
    { db with orders := orders }.restoreOrderItemStock orderId =
      .ok { result with orders := orders } := by
  unfold restoreOrderItemStock at done
  obtain ⟨_, fits, done⟩ := Transactional.bind_eq_ok.mp done
  cases Transactional.pure_eq_ok.mp done
  exact Transactional.bind_eq_ok.mpr
    ⟨(), Transactional.require_of (Transactional.require_eq_ok.mp fits), rfl⟩

end Database

end Mall
