/-
Every operation refines the ledger, so every reached state is sound.
-/

import Mall.System
import Mall.Refinement.Administration
import Mall.Refinement.Checkout

namespace Mall

open Ledger Relational Transactional

variable {db result : Database}

def Operation.Confirms : Operation → Charge → String → Prop
  | .applyPayQuery _ _ (some answer), charge, transaction => answer.Confirms charge transaction
  | _, _, _ => False

/-- The orders that an operation may ship: only a fulfillment request names one. -/
def Operation.Ships : Operation → Int → Prop
  | .applyFulfillment _ input, order => input.action = .ship ∧ input.orderID = order
  | _, _ => False

def Operation.warrant (operation : Operation) : Warrant :=
  { reports := operation.Confirms
    ships := operation.Ships }

theorem Operation.confirms_answer {clock : Clock} {args : CheckPayArgs}
    {answer : Option PaymentQueryResult} (given : PaymentQueryResult) (charge : Charge)
    (transaction : String) (same : answer = some given)
    (confirms : given.Confirms charge transaction) :
    Operation.Confirms (.applyPayQuery clock args answer) charge transaction := by
  subst same
  exact confirms

/-- The faithful model refines the ledger, one operation at a time. -/
theorem execute_refines (operation : Operation) (tidy : db.ItemsTidy) (sound : db.ledger.Sound)
    (done : execute operation db = .ok result) : Refines operation.warrant db result := by
  cases operation with
  | accounts users addresses =>
      obtain ⟨_, _, done⟩ := bind_eq_ok.mp done
      cases pure_eq_ok.mp done
      refine Steps.refines (SameBooks.steps ?_) tidy
      exact ⟨rfl, rfl, rfl, rfl, rfl, rfl, rfl⟩
  | createProduct input stock status =>
      obtain ⟨⟨_, _⟩, body, rfl⟩ := map_eq_ok.mp done
      exact createProduct_refines tidy body
  | updateProduct id input =>
      obtain ⟨⟨_, _⟩, body, rfl⟩ := map_eq_ok.mp done
      exact updateProduct_refines tidy body
  | updateProductStatus id status =>
      obtain ⟨⟨_, _⟩, body, rfl⟩ := map_eq_ok.mp done
      exact updateProductStatus_refines tidy body
  | softDeleteProduct now id => exact softDeleteProduct_refines tidy done
  | adjustStock input =>
      obtain ⟨⟨_, _⟩, body, rfl⟩ := map_eq_ok.mp done
      exact adjustStock_refines tidy body
  | createOrder digest orderNo paymentTimeout now request =>
      obtain ⟨⟨_, _⟩, body, rfl⟩ := map_eq_ok.mp done
      exact submitOrder_refines tidy sound body
  | cancelOrder id userID => exact cancelOrder_refines tidy sound done
  | expireOrder now orderID =>
      obtain ⟨⟨_, _⟩, body, rfl⟩ := map_eq_ok.mp done
      exact expireOrder_refines tidy sound body
  | createPayment args now =>
      obtain ⟨⟨_, _⟩, body, rfl⟩ := map_eq_ok.mp done
      exact (createPayment_steps body).refines tidy
  | claimPaymentPrepay clock id token lease =>
      obtain ⟨⟨_, _⟩, body, rfl⟩ := map_eq_ok.mp done
      exact (claimPaymentPrepay_steps body).refines tidy
  | activatePayment id token actionType actionPayload poll =>
      obtain ⟨⟨_, _⟩, body, rfl⟩ := map_eq_ok.mp done
      exact (activatePayment_steps body).refines tidy
  | recordPaymentPrepayError id token lastError =>
      cases done
      exact (recordPaymentPrepayError_steps id token lastError db).refines tidy
  | markPayClosePending args => exact (markPayClosePending_steps done).refines tidy
  | markReconciliationRequired failure => exact (markReconciliationRequired_steps done).refines tidy
  | applyPayQuery clock args answer =>
      exact applyPayQuery_refines tidy sound Operation.confirms_answer done
  | preparePaymentRefund now paymentID outRefundNo =>
      obtain ⟨⟨_, _, _⟩, body, rfl⟩ := map_eq_ok.mp done
      exact (preparePaymentRefund_steps sound body).refines tidy
  | recordPaymentRefundError now refundID lastError definitive =>
      exact (recordPaymentRefundError_steps done).refines tidy
  | applyPaymentRefund now paymentID refundID =>
      obtain ⟨⟨_, _⟩, body, rfl⟩ := map_eq_ok.mp done
      exact (applyPaymentRefund_steps tidy sound body).refines tidy
  | applyReconciliation now actor input =>
      obtain ⟨⟨_, _⟩, body, rfl⟩ := map_eq_ok.mp done
      exact (applyReconciliation_steps body).refines tidy
  | applyFulfillment actor input =>
      obtain ⟨⟨_, _⟩, body, rfl⟩ := map_eq_ok.mp done
      refine Steps.refines (applyFulfillment_steps sound ?_ body) tidy
      intro ship
      exact ⟨ship, rfl⟩
  | handleError jobID attempt lastError job => exact (handleError_steps done).refines tidy
  | persistAndEnqueueNotification input args =>
      obtain ⟨⟨_, _⟩, body, rfl⟩ := map_eq_ok.mp done
      exact (persistAndEnqueueNotification_clerical body).steps.refines tidy
  | beginPaymentNotificationProcessing id provider outTradeNo =>
      obtain ⟨⟨_, _⟩, body, rfl⟩ := map_eq_ok.mp done
      exact (beginPaymentNotificationProcessing_clerical body).steps.refines tidy
  | recordPaymentNotificationError id lastError =>
      cases done
      exact (recordPaymentNotificationError_clerical id lastError db).steps.refines tidy
  | markPaymentNotificationFailed id lastError =>
      exact (markPaymentNotificationFailed_clerical done).steps.refines tidy
  | enqueueJob args scheduledAt =>
      cases done
      exact (enqueue_clerical db args scheduledAt).steps.refines tidy
  | finishJob id =>
      cases done
      exact (Clerical.intro db.notifications _).steps.refines tidy

theorem next_refines (operation : Operation) (tidy : db.ItemsTidy) (sound : db.ledger.Sound) :
    Refines operation.warrant db (next operation db) := by
  rcases commit_cases (execute operation) db with same | done
  · rw [next, same]
    exact Steps.refines (.refl db) tidy
  · exact execute_refines operation tidy sound done

/-! ### Reached states -/

theorem Initial.tidy (initial : Initial db) : db.ItemsTidy := by
  have none : ∀ item, item ∉ db.orderItems := by
    intro item member
    have listed : item ∈ db.orderItems.rows := member
    rw [initial.noItems] at listed
    exact absurd listed List.not_mem_nil
  exact ⟨fun left _ member _ _ _ => absurd member (none left),
    fun item member => absurd member (none item), fun item member => absurd member (none item)⟩

theorem Initial.sound (initial : Initial db) : db.ledger.Sound := by
  have orders : ∀ {id purchase}, db.ledger.orders id ≠ some purchase := by
    intro id purchase
    simp [Database.ledger, Table.find?_of_empty initial.noOrders]
  have payments : ∀ {id charge}, db.ledger.payments id ≠ some charge := by
    intro id charge
    simp [Database.ledger, Table.find?_of_empty initial.noPayments]
  have refunds : ∀ {id reversal}, db.ledger.refunds id ≠ some reversal := by
    intro id reversal
    simp [Database.ledger, Table.find?_of_empty initial.noRefunds]
  have findings : ∀ {id finding}, db.ledger.findings id ≠ some finding := by
    intro id finding
    simp [Database.ledger, Table.find?_of_empty initial.noFailures]
  have quantity : ∀ counted product, db.quantityIn counted product = 0 :=
    fun _ _ => Table.total_of_empty initial.noItems _
  have onHand : ∀ product, 0 ≤ db.onHand product ∧ db.onHand product ≤ maxInt32 := by
    intro product
    unfold Database.onHand
    cases found : db.products.find? product with
    | none => decide
    | some row => exact initial.stockBounded row (Table.mem_of_find? found)
  refine ⟨?_, ?_, ?_, ?_⟩
  · exact ⟨fun found => absurd found payments, fun found => absurd found orders,
      fun found => absurd found orders, fun found => absurd found payments,
      fun found => absurd found orders, fun found => absurd found payments,
      fun found => absurd found payments, fun found => absurd found payments,
      fun found => absurd found orders⟩
  · intro id finding present
    exact absurd present findings
  · exact ⟨fun found => absurd found refunds, fun found => absurd found refunds,
      fun found => absurd found refunds, fun found => absurd found payments,
      fun found => absurd found refunds, fun found => absurd found refunds,
      fun found => absurd found refunds⟩
  · refine ⟨fun present => absurd present orders, fun present => absurd present orders,
      fun product => (onHand product).1, ?_, ?_⟩
    · intro product
      have bound := (onHand product).2
      have none : db.ledger.returnable product = 0 := quantity _ product
      have same : db.ledger.onHand product = db.onHand product := rfl
      omega
    · intro product unknown
      have absent : db.products.find? product = none := by
        simpa [Database.ledger] using unknown
      refine ⟨?_, quantity _ product, quantity _ product, Table.total_of_empty initial.noAdjustments _⟩
      simp [Database.ledger, Database.onHand, absent]

/-- What holds in every reached state. -/
structure Database.Valid (db : Database) : Prop where
  tidy : db.ItemsTidy
  sound : db.ledger.Sound

theorem Database.Valid.step (valid : db.Valid) (operation : Operation) :
    (next operation db).Valid := by
  have refines := next_refines operation valid.tidy valid.sound
  exact ⟨refines.tidy, refines.commits.sound valid.sound⟩

theorem Reached.valid (reached : Reached db) : db.Valid :=
  Reachable.invariant (fun _ initial => ⟨initial.tidy, initial.sound⟩)
    (fun _ operation _ valid => valid.step operation) reached

end Mall
