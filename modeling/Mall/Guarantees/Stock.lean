/-
Stock is conserved over every run.

A product's stock is what it started with, plus its manual adjustments, less
what stands in orders that were neither cancelled nor refunded.
-/

import Mall.Refinement.System

namespace Mall

open Ledger Relational Transactional

/-- The stock with which a product first stands in the catalogue. -/
def openingStock (product : Int) : Database → List Operation → Int
  | db, [] => db.onHand product
  | db, operation :: rest =>
      if (db.products.find? product).isSome then db.onHand product
      else openingStock product (next operation db) rest

/-! ### One step and a whole run -/

private theorem Database.Valid.opening_next {db : Database} (valid : db.Valid)
    (operation : Operation)
    {product : Int} (listed : (next operation db).ledger.listed product = true) :
    if db.ledger.listed product then
      (next operation db).ledger.opening product = db.ledger.opening product
    else (next operation db).ledger.opening product = (next operation db).onHand product :=
  (next_refines operation valid.tidy valid.sound).commits.opening valid.sound listed

private theorem Database.Valid.opening_run {db : Database} (valid : db.Valid) {product : Int}
    (listed : db.ledger.listed product = true) (history : List Operation) :
    (Transactional.run next db history).ledger.opening product = db.ledger.opening product := by
  induction history generalizing db with
  | nil => rfl
  | cons operation rest ih =>
      have still : (next operation db).ledger.listed product = true :=
        (next_refines operation valid.tidy valid.sound).commits.listed_kept listed
      have step := valid.opening_next operation still
      rw [if_pos listed] at step
      rw [run_cons, ih (valid.step operation) still, step]

/-- From a state whose listed products have their opening stock on hand, the
opening stock of a run is what its last state accounts for. -/
theorem openingStock_eq {db : Database} (valid : db.Valid) {product : Int}
    (fresh : db.ledger.listed product = true →
      db.ledger.opening product = db.onHand product)
    (history : List Operation) (listed : (run next db history).ledger.listed product = true) :
    openingStock product db history = (run next db history).ledger.opening product := by
  induction history generalizing db with
  | nil => exact (fresh listed).symm
  | cons operation rest ih =>
      rw [openingStock]
      by_cases known : db.ledger.listed product = true
      · have isSome : (db.products.find? product).isSome = true := known
        rw [if_pos isSome, valid.opening_run known (operation :: rest)]
        exact (fresh known).symm
      · have isNone : ¬ (db.products.find? product).isSome = true := known
        rw [if_neg isNone, run_cons]
        refine ih (valid.step operation) ?_ listed
        intro introduced
        have step := valid.opening_next operation introduced
        rw [if_neg known] at step
        exact step

private theorem Initial.opening {db : Database} (initial : Initial db) (product : Int) :
    db.ledger.opening product = db.onHand product := by
  have held : db.ledger.held product = 0 := Table.total_of_empty initial.noItems _
  have adjusted : db.ledger.adjusted product = 0 := Table.total_of_empty initial.noAdjustments _
  have same : db.ledger.onHand product = db.onHand product := rfl
  rw [Ledger.opening]
  omega

/-- After any run, the stock of every product of the catalogue. -/
theorem stock_conserved {start : Database} (initial : Initial start) (history : List Operation)
    {product : Int} {row : Product}
    (present : (run next start history).products.find? product = some row) :
    row.stock = openingStock product start history +
      (run next start history).stockAdjustments.total
        (fun adjustment => if adjustment.productId = product then adjustment.delta else 0) -
      (run next start history).orderItems.total (fun item =>
        if item.productId = product ∧
            ((run next start history).orders.find? item.orderId).map (fun order =>
              order.status != .cancelled && order.status != .refunded) = some true
        then item.quantity else 0) := by
  have listed : (run next start history).ledger.listed product = true := by
    simp [Database.ledger, present]
  have opening := openingStock_eq ⟨initial.tidy, initial.sound⟩ (fun _ => initial.opening product)
    history listed
  have stock : (run next start history).ledger.onHand product = row.stock := by
    simp [Database.ledger, Database.onHand, present]
  have counted : OrderStatus.holdsStock =
      fun status => status != .cancelled && status != .refunded := by
    funext status
    cases status <;> rfl
  have held : (run next start history).ledger.held product =
      (run next start history).orderItems.total _ := rfl
  have adjusted : (run next start history).ledger.adjusted product =
      (run next start history).stockAdjustments.total _ := rfl
  rw [Ledger.opening, stock, held, adjusted, counted] at opening
  beta_reduce at opening
  omega

def stockHistory : List Operation :=
  paidHistory ++
    [.adjustStock
      { productID := 1
        actorID := 2
        delta := 5
        reason := "recount"
        idempotencyKey := "adjust-key-1" },
      orderTea "ORD2" "order-key-2" 3, .cancelOrder 2 1]

theorem stock_conserved_stockHistory :
    ∃ row, (run next smallShop stockHistory).products.find? 1 = some row ∧ row.stock = 13 ∧
      row.stock = openingStock 1 smallShop stockHistory +
        (run next smallShop stockHistory).stockAdjustments.total
          (fun adjustment => if adjustment.productId = 1 then adjustment.delta else 0) -
        (run next smallShop stockHistory).orderItems.total (fun item =>
          if item.productId = 1 ∧
              ((run next smallShop stockHistory).orders.find? item.orderId).map (fun order =>
                order.status != .cancelled && order.status != .refunded) = some true
          then item.quantity else 0) := by
  have left : ((run next smallShop stockHistory).products.find? 1).map Product.stock = some 13 := by
    decide +kernel
  obtain ⟨row, present, stock⟩ := Option.map_eq_some_iff.mp left
  exact ⟨row, present, stock, stock_conserved smallShop_initial stockHistory present⟩

end Mall
