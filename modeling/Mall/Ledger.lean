/-
What the shop's books must say, without the program.

A ledger forgets leases, jobs, notifications and audit rows.  It keeps who owes
what, which charge funds which purchase, which money went back, which charges
a person still has to look at, and where the goods are.  The steps are the only
ways in which these facts may change.
-/

import Mall.Records
import Mathlib.Logic.Relation

namespace Mall

structure Terms where
  user : Int
  amount : Int
  currency : String

structure Purchase where
  terms : Terms
  status : OrderStatus
  fundedBy : Option Int
  lines : Int → Int

structure Charge where
  order : Int
  terms : Terms
  channel : String
  outTradeNo : String
  status : PaymentStatus
  transaction : Option String
  review : Bool

structure Reversal where
  payment : Int
  order : Int
  terms : Terms
  returned : Int
  number : String
  purpose : RefundPurpose
  status : RefundStatus

structure Finding where
  payment : Int
  providerRefund : Bool
  unresolved : Bool

@[ext]
structure Ledger where
  orders : Int → Option Purchase
  payments : Int → Option Charge
  refunds : Int → Option Reversal
  findings : Int → Option Finding
  listed : Int → Bool
  onHand : Int → Int
  /-- Quantity sold in orders that were neither cancelled nor refunded. -/
  held : Int → Int
  /-- Quantity that a cancellation or a refund may still bring back. -/
  returnable : Int → Int
  adjusted : Int → Int

def OrderStatus.hasFunding : OrderStatus → Bool
  | .paid | .shipped | .completed | .refunded => true
  | _ => false

def OrderStatus.isDispatched : OrderStatus → Bool
  | .shipped | .completed => true
  | _ => false

/-- The moves of a charge that no money takes part in. -/
def PaymentStatus.Moves : PaymentStatus → PaymentStatus → Prop
  | .creating, .pending => True
  | source, .closePending => source = .creating ∨ source = .pending
  | source, .closed => source.isActive = true
  | source, .failed => source.isActive = true
  | _, _ => False

theorem PaymentStatus.moves_closePending {source : PaymentStatus} :
    source.Moves .closePending ↔ source = .creating ∨ source = .pending := by
  cases source <;> exact Iff.rfl

theorem PaymentStatus.moves_closed {source : PaymentStatus} :
    source.Moves .closed ↔ source.isActive = true := by
  cases source <;> exact Iff.rfl

theorem PaymentStatus.moves_failed {source : PaymentStatus} :
    source.Moves .failed ↔ source.isActive = true := by
  cases source <;> exact Iff.rfl

theorem PaymentStatus.Moves.trans {first second third : PaymentStatus} (left : first.Moves second)
    (right : second.Moves third) : first.Moves third := by
  cases first <;> cases second <;> cases third <;>
    simp_all [PaymentStatus.Moves, PaymentStatus.isActive]

theorem PaymentStatus.Moves.unsettled {source target : PaymentStatus}
    (moves : source.Moves target) : source.isSettled = false ∧ target.isSettled = false := by
  cases source <;> cases target <;>
    simp_all [PaymentStatus.Moves, PaymentStatus.isActive, PaymentStatus.isSettled]

/-- What a reversal is for must agree with how its purchase was funded. -/
def RefundPurpose.Fits (purpose : RefundPurpose) (purchase : Purchase) (payment : Int) : Prop :=
  match purpose with
  | .orderCancel => purchase.fundedBy = some payment
  | .duplicate => ∃ funding, purchase.fundedBy = some funding ∧ funding ≠ payment
  | .late => purchase.status = .cancelled

namespace Ledger

variable (ledger : Ledger)

def setOrder (id : Int) (purchase : Purchase) : Ledger :=
  { ledger with orders := Function.update ledger.orders id (some purchase) }

def setPayment (id : Int) (charge : Charge) : Ledger :=
  { ledger with payments := Function.update ledger.payments id (some charge) }

def setRefund (id : Int) (reversal : Reversal) : Ledger :=
  { ledger with refunds := Function.update ledger.refunds id (some reversal) }

def setFinding (id : Int) (finding : Finding) : Ledger :=
  { ledger with findings := Function.update ledger.findings id (some finding) }

theorem payments_setPayment (id : Int) (charge : Charge) :
    (ledger.setPayment id charge).payments id = some charge :=
  Function.update_self ..

theorem setPayment_setPayment (id : Int) (first second : Charge) :
    (ledger.setPayment id first).setPayment id second = ledger.setPayment id second :=
  Ledger.ext rfl (Function.update_idem _ _ _) rfl rfl rfl rfl rfl rfl rfl

theorem setPayment_self {id : Int} {charge : Charge} (present : ledger.payments id = some charge) :
    ledger.setPayment id charge = ledger :=
  Ledger.ext rfl (Function.update_eq_self_iff.mpr present.symm) rfl rfl rfl rfl rfl rfl rfl

theorem setRefund_self {id : Int} {reversal : Reversal}
    (present : ledger.refunds id = some reversal) : ledger.setRefund id reversal = ledger :=
  Ledger.ext rfl rfl (Function.update_eq_self_iff.mpr present.symm) rfl rfl rfl rfl rfl rfl

def takeStock (lines : Int → Int) : Ledger :=
  { ledger with
    onHand := fun product => ledger.onHand product - lines product
    held := fun product => ledger.held product + lines product
    returnable := fun product => ledger.returnable product + lines product }

def returnStock (lines : Int → Int) : Ledger :=
  { ledger with
    onHand := fun product => ledger.onHand product + lines product
    held := fun product => ledger.held product - lines product
    returnable := fun product => ledger.returnable product - lines product }

def dispatchStock (lines : Int → Int) : Ledger :=
  { ledger with
    returnable := fun product => ledger.returnable product - lines product }

def adjustStock (product delta : Int) : Ledger :=
  { ledger with
    onHand := Function.update ledger.onHand product (ledger.onHand product + delta)
    adjusted := Function.update ledger.adjusted product (ledger.adjusted product + delta) }

def introduceStock (product stock : Int) : Ledger :=
  { ledger with
    listed := Function.update ledger.listed product true
    onHand := Function.update ledger.onHand product stock }

def closeFindings (payment : Int) : Ledger :=
  { ledger with
    findings := fun id => (ledger.findings id).map (fun finding =>
      if finding.payment = payment then { finding with unresolved := false } else finding) }

end Ledger

/-! ### The steps -/

/-- What a transaction is given from outside: the charges that the provider reports
as paid, under which transactions, and the orders that are to be shipped. -/
structure Warrant where
  reports : Charge → String → Prop
  ships : Int → Prop

def Warrant.empty : Warrant :=
  { reports := fun _ _ => False
    ships := fun _ => False }

/-- The steps that leave no order cancelled.  Charges are settled and goods leave
the house only on the warrant. -/
inductive Steady (warrant : Warrant) (ledger : Ledger) : Ledger → Prop
  | openOrder (id : Int) (purchase : Purchase)
      (fresh : ledger.orders id = none)
      (status : purchase.status = .pendingPayment)
      (unfunded : purchase.fundedBy = none)
      (positive : 0 < purchase.terms.amount)
      (lines : ∀ product, 0 ≤ purchase.lines product ∧
        purchase.lines product ≤ ledger.onHand product) :
      Steady warrant ledger ((ledger.setOrder id purchase).takeStock purchase.lines)
  | openPayment (id : Int) (charge : Charge) (purchase : Purchase)
      (fresh : ledger.payments id = none)
      (order : ledger.orders charge.order = some purchase)
      (payable : purchase.status = .pendingPayment)
      (terms : charge.terms = purchase.terms)
      (status : charge.status = .creating)
      (unpaid : charge.transaction = none) :
      Steady warrant ledger (ledger.setPayment id charge)
  | movePayment (id : Int) (charge : Charge) (status : PaymentStatus)
      (present : ledger.payments id = some charge)
      (allowed : charge.status.Moves status) :
      Steady warrant ledger (ledger.setPayment id { charge with status := status })
  | flag (id : Int) (charge : Charge)
      (present : ledger.payments id = some charge) :
      Steady warrant ledger (ledger.setPayment id { charge with review := true })
  | recordFinding (id : Int) (finding : Finding) (charge : Charge)
      (fresh : ledger.findings id = none)
      (present : ledger.payments finding.payment = some charge)
      (review : charge.review = true) :
      Steady warrant ledger (ledger.setFinding id finding)
  | amendFinding (id : Int) (finding : Finding) (providerRefund : Bool)
      (present : ledger.findings id = some finding) :
      Steady warrant ledger
        (ledger.setFinding id { finding with providerRefund := providerRefund })
  | fund (id : Int) (charge : Charge) (purchase : Purchase) (transaction : String)
      (present : ledger.payments id = some charge)
      (unsettled : charge.status.isSettled = false)
      (order : ledger.orders charge.order = some purchase)
      (payable : purchase.status = .pendingPayment)
      (reported : warrant.reports charge transaction) :
      Steady warrant ledger
        ((ledger.setPayment id
            { charge with status := .success, transaction := some transaction }).setOrder
          charge.order { purchase with status := .paid, fundedBy := some id })
  | excess (id : Int) (charge : Charge) (purchase : Purchase) (transaction : String)
      (present : ledger.payments id = some charge)
      (unsettled : charge.status.isSettled = false)
      (order : ledger.orders charge.order = some purchase)
      (notPayable : purchase.status ≠ .pendingPayment)
      (reported : warrant.reports charge transaction) :
      Steady warrant ledger
        (ledger.setPayment id
          { charge with status := .success, transaction := some transaction, review := true })
  | openReversal (id : Int) (reversal : Reversal) (charge : Charge) (purchase : Purchase)
      (fresh : ledger.refunds id = none)
      (first : ∀ other row, ledger.refunds other = some row → row.payment ≠ reversal.payment)
      (number : ∀ other row, ledger.refunds other = some row → row.number ≠ reversal.number)
      (present : ledger.payments reversal.payment = some charge)
      (received : charge.status = .success)
      (order : ledger.orders charge.order = some purchase)
      (sameOrder : reversal.order = charge.order)
      (terms : reversal.terms = charge.terms)
      (whole : reversal.returned = charge.terms.amount)
      (status : reversal.status = .pending)
      (fits : reversal.purpose.Fits purchase reversal.payment)
      (undispatched : reversal.purpose = .orderCancel → purchase.status = .paid) :
      Steady warrant ledger (ledger.setRefund id reversal)
  | retryReversal (id : Int) (reversal : Reversal) (purchase : Purchase)
      (present : ledger.refunds id = some reversal)
      (failed : reversal.status = .failed)
      (order : ledger.orders reversal.order = some purchase)
      (undispatched : reversal.purpose = .orderCancel → purchase.status = .paid) :
      Steady warrant ledger (ledger.setRefund id { reversal with status := .pending })
  | rejectReversal (id : Int) (reversal : Reversal)
      (present : ledger.refunds id = some reversal)
      (pending : reversal.status = .pending) :
      Steady warrant ledger (ledger.setRefund id { reversal with status := .failed })
  | settleOrder (id : Int) (reversal : Reversal) (charge : Charge) (purchase : Purchase)
      (present : ledger.refunds id = some reversal)
      (purpose : reversal.purpose = .orderCancel)
      (received : ledger.payments reversal.payment = some charge)
      (success : charge.status = .success)
      (order : ledger.orders charge.order = some purchase)
      (paid : purchase.status = .paid) :
      Steady warrant ledger
        ((((ledger.setOrder charge.order { purchase with status := .refunded }).returnStock
            purchase.lines).setRefund id { reversal with status := .success }).setPayment
          reversal.payment { charge with status := .refunded })
  | settleExcess (id : Int) (reversal : Reversal) (charge : Charge)
      (present : ledger.refunds id = some reversal)
      (purpose : reversal.purpose ≠ .orderCancel)
      (received : ledger.payments reversal.payment = some charge)
      (success : charge.status = .success) :
      Steady warrant ledger
        ((ledger.setRefund id { reversal with status := .success }).setPayment
          reversal.payment { charge with status := .refunded })
  | ship (id payment : Int) (purchase : Purchase) (charge : Charge)
      (present : ledger.orders id = some purchase)
      (paid : purchase.status = .paid)
      (funded : purchase.fundedBy = some payment)
      (received : ledger.payments payment = some charge)
      (reviewed : charge.review = false)
      (kept : ∀ other row, ledger.refunds other = some row → row.payment = payment →
        row.status = .failed)
      (asked : warrant.ships id) :
      Steady warrant ledger
        ((ledger.setOrder id { purchase with status := .shipped }).dispatchStock purchase.lines)
  | complete (id payment : Int) (purchase : Purchase) (charge : Charge)
      (present : ledger.orders id = some purchase)
      (shipped : purchase.status = .shipped)
      (funded : purchase.fundedBy = some payment)
      (received : ledger.payments payment = some charge)
      (reviewed : charge.review = false) :
      Steady warrant ledger (ledger.setOrder id { purchase with status := .completed })
  | resolve (id : Int) (charge : Charge) (purchase : Purchase)
      (present : ledger.payments id = some charge)
      (order : ledger.orders charge.order = some purchase)
      (accounted : charge.status = .success → purchase.fundedBy = some id) :
      Steady warrant ledger
        ((ledger.setPayment id { charge with review := false }).closeFindings id)
  | adjust (product delta : Int)
      (known : ledger.listed product = true)
      (nonnegative : 0 ≤ ledger.onHand product + delta)
      (room : ledger.onHand product + delta + ledger.returnable product ≤ maxInt32) :
      Steady warrant ledger (ledger.adjustStock product delta)

/-- The one step that cancels an order, and what must be true for it. -/
inductive Cancels (ledger : Ledger) : Ledger → Prop
  | cancel (id : Int) (purchase : Purchase)
      (present : ledger.orders id = some purchase)
      (unpaid : purchase.status = .pendingPayment)
      (quiet : ∀ payment charge, ledger.payments payment = some charge → charge.order = id →
        (charge.status = .failed ∨ charge.status = .closed) ∧ charge.review = false) :
      Cancels ledger
        ((ledger.setOrder id { purchase with status := .cancelled }).returnStock purchase.lines)

inductive Introduces (ledger : Ledger) : Ledger → Prop
  | introduce (product stock : Int)
      (unknown : ledger.listed product = false)
      (bounds : 0 ≤ stock ∧ stock ≤ maxInt32) :
      Introduces ledger (ledger.introduceStock product stock)

/-! ### Soundness -/

section Soundness

variable (orders : Int → Option Purchase) (payments : Int → Option Charge)

structure Funding : Prop where
  chargeOrder : ∀ {payment charge}, payments payment = some charge →
    ∃ purchase, orders charge.order = some purchase ∧ charge.terms = purchase.terms
  fundedStatus : ∀ {order purchase}, orders order = some purchase →
    purchase.fundedBy.isSome = purchase.status.hasFunding
  funding : ∀ {order purchase payment}, orders order = some purchase →
    purchase.fundedBy = some payment →
    ∃ charge, payments payment = some charge ∧ charge.order = order ∧
      charge.status = if purchase.status = .refunded then .refunded else .success
  pendingUnpaid : ∀ {payment charge purchase}, payments payment = some charge →
    orders charge.order = some purchase → purchase.status = .pendingPayment →
    charge.status.isSettled = false
  neverCancelling : ∀ {order purchase}, orders order = some purchase →
    purchase.status ≠ .cancelling
  accounted : ∀ {payment charge purchase}, payments payment = some charge →
    orders charge.order = some purchase → charge.status = .success →
    purchase.fundedBy = some payment ∨ charge.review = true
  recorded : ∀ {payment charge}, payments payment = some charge →
    charge.transaction.isSome = charge.status.isSettled
  cancelledQuiet : ∀ {payment charge purchase}, payments payment = some charge →
    orders charge.order = some purchase → purchase.status = .cancelled →
    charge.status.isActive = false
  positive : ∀ {order purchase}, orders order = some purchase → 0 < purchase.terms.amount

/-- Unresolved findings belong to charges in review. -/
def Evidence (findings : Int → Option Finding) : Prop :=
  ∀ id finding, findings id = some finding → finding.unresolved = true →
    ∃ charge, payments finding.payment = some charge ∧ charge.review = true

/-- One reversal for each charge, for the whole amount and the right reason. -/
structure Returns (refunds : Int → Option Reversal) : Prop where
  reversalCharge : ∀ {id reversal}, refunds id = some reversal →
    ∃ charge, payments reversal.payment = some charge ∧ reversal.order = charge.order ∧
      reversal.terms = charge.terms ∧ reversal.returned = charge.terms.amount ∧
      charge.status = if reversal.status = .success then .refunded else .success
  reversalUnique : ∀ {left right leftRow rightRow}, refunds left = some leftRow →
    refunds right = some rightRow → leftRow.payment = rightRow.payment → left = right
  numberUnique : ∀ {left right leftRow rightRow}, refunds left = some leftRow →
    refunds right = some rightRow → leftRow.number = rightRow.number → left = right
  refundedReversal : ∀ {payment charge}, payments payment = some charge →
    charge.status = .refunded →
    ∃ id reversal, refunds id = some reversal ∧ reversal.payment = payment
  purposeFits : ∀ {id reversal purchase}, refunds id = some reversal →
    orders reversal.order = some purchase → reversal.purpose.Fits purchase reversal.payment
  pendingPaid : ∀ {id reversal purchase}, refunds id = some reversal →
    orders reversal.order = some purchase → reversal.status = .pending →
    reversal.purpose = .orderCancel → purchase.status = .paid
  dispatchedKept : ∀ {id reversal purchase}, refunds id = some reversal →
    orders reversal.order = some purchase → purchase.fundedBy = some reversal.payment →
    purchase.status.isDispatched = true → reversal.status = .failed

end Soundness

/-- Stock stays within its column, also after everything returnable came back. -/
structure Stocked (orders : Int → Option Purchase) (listed : Int → Bool)
    (onHand held returnable adjusted : Int → Int) : Prop where
  linesNonnegative : ∀ {order purchase}, orders order = some purchase →
    ∀ product, 0 ≤ purchase.lines product
  linesListed : ∀ {order purchase product}, orders order = some purchase →
    listed product = false → purchase.lines product = 0
  onHandNonnegative : ∀ product, 0 ≤ onHand product
  room : ∀ product, onHand product + returnable product ≤ maxInt32
  unlisted : ∀ {product}, listed product = false →
    onHand product = 0 ∧ held product = 0 ∧ returnable product = 0 ∧ adjusted product = 0

structure Ledger.Sound (ledger : Ledger) : Prop where
  funding : Funding ledger.orders ledger.payments
  evidence : Evidence ledger.payments ledger.findings
  returns : Returns ledger.orders ledger.payments ledger.refunds
  stocked : Stocked ledger.orders ledger.listed ledger.onHand ledger.held ledger.returnable
    ledger.adjusted

end Mall
