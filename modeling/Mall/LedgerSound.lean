/-
Every step of the ledger keeps it sound.

Each part of soundness has its own lemma for each kind of change; a step is
sound because its changes are.
-/

import Mall.Ledger

namespace Mall

open Ledger Relational

variable {purchase : Purchase} {charge : Charge} {reversal : Reversal}

theorem PaymentStatus.Moves.active {source target : PaymentStatus} (moves : source.Moves target) :
    source.isActive = true := by
  cases source <;> cases target <;> simp_all [PaymentStatus.Moves, PaymentStatus.isActive]

theorem RefundPurpose.Fits.setStatus {purpose : RefundPurpose} {payment : Int}
    (fits : purpose.Fits purchase payment) (standing : purchase.status ≠ .cancelled)
    (status : OrderStatus) :
    purpose.Fits { purchase with status := status } payment := by
  cases purpose with
  | orderCancel => exact fits
  | duplicate => exact fits
  | late => exact absurd fits standing

section Parts

variable {orders : Int → Option Purchase} {payments : Int → Option Charge}
  {refunds : Int → Option Reversal} {findings : Int → Option Finding}

/-! ### Funding -/

theorem Funding.openOrder (sound : Funding orders payments) {id : Int} (fresh : orders id = none)
    (status : purchase.status = .pendingPayment) (unfunded : purchase.fundedBy = none)
    (worth : 0 < purchase.terms.amount) :
    Funding (Function.update orders id (some purchase)) payments := by
  obtain ⟨chargeOrder, fundedStatus, funding, pendingUnpaid, neverCancelling, accounted, recorded,
    cancelledQuiet, positive⟩ := sound
  -- No charge refers to an order that did not exist.
  have absent : ∀ payment charge, payments payment = some charge → charge.order ≠ id := by
    intro payment charge present same
    obtain ⟨old, found, _⟩ := chargeOrder present
    rw [same, fresh] at found
    cases found
  constructor
  all_goals grind [Function.update_apply, OrderStatus.hasFunding]

theorem Funding.openPayment (sound : Funding orders payments) {id : Int}
    (fresh : payments id = none) (order : orders charge.order = some purchase)
    (payable : purchase.status = .pendingPayment) (terms : charge.terms = purchase.terms)
    (status : charge.status = .creating) (unpaid : charge.transaction = none) :
    Funding orders (Function.update payments id (some charge)) := by
  obtain ⟨chargeOrder, fundedStatus, funding, pendingUnpaid, neverCancelling, accounted, recorded,
    cancelledQuiet, positive⟩ := sound
  constructor
  all_goals grind [Function.update_apply, PaymentStatus.isSettled]

theorem Funding.setCharge (sound : Funding orders payments) {id : Int} {charge changed : Charge}
    (present : payments id = some charge) (order : orders charge.order = some purchase)
    (sameOrder : changed.order = charge.order) (sameTerms : changed.terms = charge.terms)
    (recorded : changed.transaction.isSome = changed.status.isSettled)
    (funds : purchase.fundedBy = some id → changed.status = charge.status)
    (unpaid : purchase.status = .pendingPayment → changed.status.isSettled = false)
    (accounted : changed.status = .success → purchase.fundedBy = some id ∨ changed.review = true)
    (quiet : purchase.status = .cancelled → changed.status.isActive = false) :
    Funding orders (Function.update payments id (some changed)) := by
  obtain ⟨chargeOrder, fundedStatus, funding, pendingUnpaid, neverCancelling, oldAccounted,
    oldRecorded, cancelledQuiet, positive⟩ := sound
  constructor
  all_goals grind [Function.update_apply]

theorem Funding.setPurchase (sound : Funding orders payments) {id : Int}
    {purchase changed : Purchase} (present : orders id = some purchase)
    (sameTerms : changed.terms = purchase.terms) (sameFunding : changed.fundedBy = purchase.fundedBy)
    (fundedStatus : changed.fundedBy.isSome = changed.status.hasFunding)
    (refunded : changed.status = .refunded ↔ purchase.status = .refunded)
    (notPending : changed.status ≠ .pendingPayment) (notCancelling : changed.status ≠ .cancelling)
    (quiet : changed.status = .cancelled → ∀ payment charge, payments payment = some charge →
      charge.order = id → charge.status.isActive = false) :
    Funding (Function.update orders id (some changed)) payments := by
  obtain ⟨chargeOrder, oldFundedStatus, funding, pendingUnpaid, neverCancelling, accounted,
    recorded, cancelledQuiet, positive⟩ := sound
  constructor
  all_goals grind [Function.update_apply]

theorem Funding.fund (sound : Funding orders payments) {id : Int} {transaction : String}
    (present : payments id = some charge) (order : orders charge.order = some purchase)
    (payable : purchase.status = .pendingPayment) :
    Funding
      (Function.update orders charge.order
        (some { purchase with status := .paid, fundedBy := some id }))
      (Function.update payments id
        (some { charge with status := .success, transaction := some transaction })) := by
  -- The order was pending, so no other charge of it has been settled.
  have unpaid : ∀ payment other, payments payment = some other → other.order = charge.order →
      other.status.isSettled = false := by
    intro payment other found same
    exact sound.pendingUnpaid found (same ▸ order) payable
  obtain ⟨chargeOrder, fundedStatus, funding, pendingUnpaid, neverCancelling, accounted, recorded,
    cancelledQuiet, positive⟩ := sound
  constructor
  all_goals grind [Function.update_apply, PaymentStatus.isSettled, OrderStatus.hasFunding]

theorem Funding.settleOrder (sound : Funding orders payments) {id : Int}
    (present : payments id = some charge) (success : charge.status = .success)
    (order : orders charge.order = some purchase) (paid : purchase.status = .paid)
    (funded : purchase.fundedBy = some id) :
    Funding
      (Function.update orders charge.order (some { purchase with status := .refunded }))
      (Function.update payments id (some { charge with status := .refunded })) := by
  obtain ⟨chargeOrder, fundedStatus, funding, pendingUnpaid, neverCancelling, accounted, recorded,
    cancelledQuiet, positive⟩ := sound
  constructor
  all_goals grind [Function.update_apply, PaymentStatus.isSettled, OrderStatus.hasFunding]

/-! ### Evidence -/

/-- A charge may change freely as long as an open review stays open. -/
theorem Evidence.setCharge (sound : Evidence payments findings) {id : Int}
    (kept : ∀ old, payments id = some old → old.review = true → charge.review = true) :
    Evidence (Function.update payments id (some charge)) findings := by
  intro finding row present unresolved
  obtain ⟨old, found, review⟩ := sound finding row present unresolved
  by_cases same : row.payment = id
  · subst same
    exact ⟨charge, Function.update_self .., kept old found review⟩
  · exact ⟨old, by rw [Function.update_of_ne same]; exact found, review⟩

theorem Evidence.setFinding (sound : Evidence payments findings) {id : Int} {finding : Finding}
    (supported : finding.unresolved = true →
      ∃ charge, payments finding.payment = some charge ∧ charge.review = true) :
    Evidence payments (Function.update findings id (some finding)) := by
  intro other row present unresolved
  rcases update_eq_some present with ⟨_, rfl⟩ | ⟨_, unchanged⟩
  · exact supported unresolved
  · exact sound other row unchanged unresolved

theorem Evidence.resolve (sound : Evidence payments findings) (id : Int) (charge : Charge) :
    Evidence (Function.update payments id (some charge))
      (fun key => (findings key).map (fun finding =>
        if finding.payment = id then { finding with unresolved := false } else finding)) := by
  intro key row present unresolved
  obtain ⟨old, found, rfl⟩ := Option.map_eq_some_iff.mp present
  by_cases same : old.payment = id
  · rw [if_pos same] at unresolved
    cases unresolved
  · rw [if_neg same] at unresolved ⊢
    obtain ⟨charge, held, review⟩ := sound key old found unresolved
    exact ⟨charge, by rw [Function.update_of_ne same]; exact held, review⟩

/-! ### Returns -/

private theorem reversal_kept {id payment : Int} {changed : Reversal}
    (kept : ∀ row, refunds id = some row → changed.payment = row.payment)
    (old : ∃ key row, refunds key = some row ∧ row.payment = payment) :
    ∃ key row, Function.update refunds id (some changed) key = some row ∧
      row.payment = payment := by
  obtain ⟨key, row, found, same⟩ := old
  by_cases here : key = id
  · subst here
    exact ⟨key, changed, Function.update_self .., (kept row found).trans same⟩
  · exact ⟨key, row, by rw [Function.update_of_ne here]; exact found, same⟩

private theorem reversal_settled {id : Int} {settled : Charge}
    (present : refunds id = some reversal)
    (old : ∀ {payment charge}, payments payment = some charge → charge.status = .refunded →
      ∃ key row, refunds key = some row ∧ row.payment = payment)
    {payment : Int}
    (found : Function.update payments reversal.payment (some settled) payment = some charge)
    (refunded : charge.status = .refunded) :
    ∃ key row, Function.update refunds id (some { reversal with status := .success }) key =
      some row ∧ row.payment = payment := by
  by_cases same : payment = reversal.payment
  · exact ⟨id, _, Function.update_self .., same.symm⟩
  · rw [Function.update_of_ne same] at found
    refine reversal_kept ?_ (old found refunded)
    intro row again
    cases present.symm.trans again
    rfl

theorem Returns.none_of_pending (sound : Returns orders payments refunds) {id : Int}
    (present : orders id = some purchase) (pending : purchase.status = .pendingPayment)
    (unfunded : purchase.fundedBy = none) :
    ∀ other reversal, refunds other = some reversal → reversal.order ≠ id := by
  intro other reversal found same
  have fits := sound.purposeFits found (same ▸ present)
  cases purpose : reversal.purpose <;> simp_all [RefundPurpose.Fits]

/-- Any change of a purchase that no reversal refers to. -/
theorem Returns.setFreeOrder (sound : Returns orders payments refunds) {id : Int}
    (free : ∀ other reversal, refunds other = some reversal → reversal.order ≠ id) :
    Returns (Function.update orders id (some purchase)) payments refunds := by
  obtain ⟨reversalCharge, reversalUnique, numberUnique, refundedReversal, purposeFits, pendingPaid,
    dispatchedKept⟩ := sound
  constructor
  all_goals grind [Function.update_apply]

theorem Returns.openPayment (sound : Returns orders payments refunds) {id : Int}
    (fresh : payments id = none) (status : charge.status = .creating) :
    Returns orders (Function.update payments id (some charge)) refunds := by
  obtain ⟨reversalCharge, reversalUnique, numberUnique, refundedReversal, purposeFits, pendingPaid,
    dispatchedKept⟩ := sound
  constructor
  all_goals grind [Function.update_apply]

theorem Returns.setCharge (sound : Returns orders payments refunds) {id : Int}
    {charge changed : Charge} (present : payments id = some charge)
    (sameOrder : changed.order = charge.order) (sameTerms : changed.terms = charge.terms)
    (settled : charge.status.isSettled = true → changed.status = charge.status)
    (refunded : changed.status = .refunded → charge.status = .refunded) :
    Returns orders (Function.update payments id (some changed)) refunds := by
  obtain ⟨reversalCharge, reversalUnique, numberUnique, refundedReversal, purposeFits, pendingPaid,
    dispatchedKept⟩ := sound
  constructor
  all_goals grind [Function.update_apply, PaymentStatus.isSettled]

theorem Returns.ship (sound : Returns orders payments refunds) {id payment : Int}
    (present : orders id = some purchase) (paid : purchase.status = .paid)
    (funded : purchase.fundedBy = some payment)
    (kept : ∀ other row, refunds other = some row → row.payment = payment → row.status = .failed) :
    Returns (Function.update orders id (some { purchase with status := .shipped })) payments
      refunds := by
  have fits : ∀ {purpose : RefundPurpose} {payment : Int}, purpose.Fits purchase payment →
      purpose.Fits { purchase with status := .shipped } payment := by
    intro purpose payment old
    exact old.setStatus (by rw [paid]; decide) .shipped
  -- Only a reversal of the funding charge cancels the purchase.
  have cancels : ∀ {payment : Int}, RefundPurpose.Fits .orderCancel purchase payment →
      purchase.fundedBy = some payment := fun old => old
  obtain ⟨reversalCharge, reversalUnique, numberUnique, refundedReversal, purposeFits, pendingPaid,
    dispatchedKept⟩ := sound
  constructor
  all_goals grind [Function.update_apply]

theorem Returns.complete (sound : Returns orders payments refunds) {id : Int}
    (present : orders id = some purchase) (shipped : purchase.status = .shipped) :
    Returns (Function.update orders id (some { purchase with status := .completed })) payments
      refunds := by
  have fits : ∀ {purpose : RefundPurpose} {payment : Int}, purpose.Fits purchase payment →
      purpose.Fits { purchase with status := .completed } payment := by
    intro purpose payment old
    exact old.setStatus (by rw [shipped]; decide) .completed
  obtain ⟨reversalCharge, reversalUnique, numberUnique, refundedReversal, purposeFits, pendingPaid,
    dispatchedKept⟩ := sound
  constructor
  all_goals grind [Function.update_apply, OrderStatus.isDispatched]

theorem Returns.openReversal (sound : Returns orders payments refunds) {id : Int}
    (first : ∀ other row, refunds other = some row → row.payment ≠ reversal.payment)
    (number : ∀ other row, refunds other = some row → row.number ≠ reversal.number)
    (fresh : refunds id = none) (present : payments reversal.payment = some charge)
    (received : charge.status = .success) (order : orders charge.order = some purchase)
    (sameOrder : reversal.order = charge.order) (terms : reversal.terms = charge.terms)
    (whole : reversal.returned = charge.terms.amount) (status : reversal.status = .pending)
    (fits : reversal.purpose.Fits purchase reversal.payment)
    (undispatched : reversal.purpose = .orderCancel → purchase.status = .paid) :
    Returns orders payments (Function.update refunds id (some reversal)) := by
  -- A dispatched purchase is funded by this charge only if the purpose is to cancel it.
  have kept : purchase.fundedBy = some reversal.payment →
      purchase.status.isDispatched = true → purchase.status = .paid ∨
        purchase.status = .cancelled := by
    intro funded _
    cases purpose : reversal.purpose <;> simp_all [RefundPurpose.Fits]
  obtain ⟨reversalCharge, reversalUnique, numberUnique, refundedReversal, purposeFits, pendingPaid,
    dispatchedKept⟩ := sound
  constructor
  case refundedReversal =>
    intro payment row found refunded
    refine reversal_kept ?_ (refundedReversal found refunded)
    intro old present
    rw [fresh] at present
    cases present
  all_goals grind [Function.update_apply, OrderStatus.isDispatched]

theorem Returns.setReversal (sound : Returns orders payments refunds) {id : Int}
    {status : RefundStatus} (present : refunds id = some reversal)
    (unsettled : reversal.status ≠ .success) (stays : status ≠ .success)
    (pending : status = .pending → ∀ purchase, orders reversal.order = some purchase →
      reversal.purpose = .orderCancel → purchase.status = .paid) :
    Returns orders payments
      (Function.update refunds id (some { reversal with status := status })) := by
  -- A reversal that is pending again cannot belong to a dispatched purchase.
  have kept : ∀ purchase, orders reversal.order = some purchase → status = .pending →
      purchase.fundedBy = some reversal.payment → purchase.status.isDispatched = true → False := by
    intro purchase order again funded dispatched
    have fits := sound.purposeFits present order
    have paid := pending again purchase order
    cases purpose : reversal.purpose <;>
      simp_all [RefundPurpose.Fits, OrderStatus.isDispatched]
  obtain ⟨reversalCharge, reversalUnique, numberUnique, refundedReversal, purposeFits, pendingPaid,
    dispatchedKept⟩ := sound
  constructor
  case refundedReversal =>
    intro payment row found refunded
    refine reversal_kept ?_ (refundedReversal found refunded)
    intro old again
    cases present.symm.trans again
    rfl
  case dispatchedKept =>
    intro key row purchase found order funded dispatched
    rcases update_eq_some found with ⟨_, rfl⟩ | ⟨_, unchanged⟩
    · cases status with
      | pending => exact (kept purchase order rfl funded dispatched).elim
      | success => exact absurd rfl stays
      | failed => rfl
    · exact dispatchedKept unchanged order funded dispatched
  all_goals grind [Function.update_apply]

theorem Returns.excess_not_funding (sound : Returns orders payments refunds) {id : Int}
    (present : refunds id = some reversal) (received : payments reversal.payment = some charge)
    (order : orders charge.order = some purchase) (purpose : reversal.purpose ≠ .orderCancel)
    (funded : purchase.fundedBy.isSome = purchase.status.hasFunding) :
    purchase.fundedBy ≠ some reversal.payment := by
  obtain ⟨_, found, sameOrder, _⟩ := sound.reversalCharge present
  cases received.symm.trans found
  have fits := sound.purposeFits present (sameOrder ▸ order)
  intro same
  cases kind : reversal.purpose with
  | orderCancel => exact purpose kind
  | duplicate =>
      rw [kind] at fits
      obtain ⟨funding, funds, different⟩ := fits
      exact different (Option.some.inj (funds.symm.trans same))
  | late =>
      rw [kind] at fits
      rw [same, show purchase.status = .cancelled from fits] at funded
      cases funded

theorem Returns.settleExcess (sound : Returns orders payments refunds) {id : Int}
    (present : refunds id = some reversal) (received : payments reversal.payment = some charge)
    (order : orders charge.order = some purchase) (purpose : reversal.purpose ≠ .orderCancel)
    (funded : purchase.fundedBy.isSome = purchase.status.hasFunding) :
    Returns orders (Function.update payments reversal.payment
        (some { charge with status := .refunded }))
      (Function.update refunds id (some { reversal with status := .success })) := by
  have other := sound.excess_not_funding present received order purpose funded
  obtain ⟨reversalCharge, reversalUnique, numberUnique, refundedReversal, purposeFits, pendingPaid,
    dispatchedKept⟩ := sound
  constructor
  case refundedReversal =>
    exact reversal_settled present refundedReversal
  all_goals grind [Function.update_apply]

theorem Returns.settleOrder (sound : Returns orders payments refunds) {id : Int}
    (present : refunds id = some reversal) (received : payments reversal.payment = some charge)
    (order : orders charge.order = some purchase)
    (funded : purchase.fundedBy = some reversal.payment) (paid : purchase.status = .paid) :
    Returns (Function.update orders charge.order (some { purchase with status := .refunded }))
      (Function.update payments reversal.payment (some { charge with status := .refunded }))
      (Function.update refunds id (some { reversal with status := .success })) := by
  -- Another reversal that cancels this purchase would return the same charge.
  have only : ∀ key row, refunds key = some row → row.order = charge.order →
      row.purpose = .orderCancel → key = id := by
    intro key row found same purpose
    have fits := sound.purposeFits found (same ▸ order)
    rw [purpose] at fits
    exact sound.reversalUnique found present (Option.some.inj (fits.symm.trans funded))
  have fits : ∀ {purpose : RefundPurpose} {payment : Int}, purpose.Fits purchase payment →
      purpose.Fits { purchase with status := .refunded } payment := by
    intro purpose payment old
    exact old.setStatus (by rw [paid]; decide) .refunded
  obtain ⟨reversalCharge, reversalUnique, numberUnique, refundedReversal, purposeFits, pendingPaid,
    dispatchedKept⟩ := sound
  constructor
  case refundedReversal =>
    exact reversal_settled present refundedReversal
  all_goals grind [Function.update_apply, OrderStatus.isDispatched]

end Parts

/-! ### Stock -/

section Stock

variable {orders : Int → Option Purchase} {listed : Int → Bool}
  {onHand held returnable adjusted : Int → Int}

private theorem purchase_update (property : Purchase → Prop) {id : Int} {changed : Purchase}
    (others : ∀ {order purchase}, orders order = some purchase → property purchase)
    (this : property changed) {order : Int}
    (present : Function.update orders id (some changed) order = some purchase) :
    property purchase := by
  rcases update_eq_some present with ⟨_, rfl⟩ | ⟨_, unchanged⟩
  · exact this
  · exact others unchanged

theorem Stocked.openOrder (sound : Stocked orders listed onHand held returnable adjusted)
    (id : Int)
    (lines : ∀ product, 0 ≤ purchase.lines product ∧ purchase.lines product ≤ onHand product) :
    Stocked (Function.update orders id (some purchase)) listed
      (fun product => onHand product - purchase.lines product)
      (fun product => held product + purchase.lines product)
      (fun product => returnable product + purchase.lines product) adjusted := by
  have absent : ∀ {product}, listed product = false → purchase.lines product = 0 := by
    intro product unknown
    have empty := (sound.unlisted unknown).1
    have bounds := lines product
    omega
  refine ⟨?_, ?_, ?_, ?_, ?_⟩
  · exact purchase_update (fun row => ∀ product, 0 ≤ row.lines product)
      sound.linesNonnegative (fun product => (lines product).1)
  · intro order row product present unknown
    exact purchase_update (fun row => row.lines product = 0)
      (fun old => sound.linesListed old unknown) (absent unknown) present
  · intro product
    have bounds := lines product
    omega
  · intro product
    have room := sound.room product
    omega
  · intro product unknown
    have old := sound.unlisted unknown
    have none := absent unknown
    omega

theorem Stocked.setOrder (sound : Stocked orders listed onHand held returnable adjusted)
    {id : Int} {purchase changed : Purchase} (present : orders id = some purchase)
    (lines : changed.lines = purchase.lines) :
    Stocked (Function.update orders id (some changed)) listed onHand held returnable adjusted := by
  refine ⟨?_, ?_, sound.onHandNonnegative, sound.room, sound.unlisted⟩
  · refine purchase_update (fun row => ∀ product, 0 ≤ row.lines product)
      sound.linesNonnegative ?_
    rw [lines]
    exact sound.linesNonnegative present
  · intro order row product found unknown
    refine purchase_update (fun row => row.lines product = 0)
      (fun old => sound.linesListed old unknown) ?_ found
    rw [lines]
    exact sound.linesListed present unknown

theorem Stocked.returnStock (sound : Stocked orders listed onHand held returnable adjusted)
    {id : Int} (present : orders id = some purchase) :
    Stocked orders listed (fun product => onHand product + purchase.lines product)
      (fun product => held product - purchase.lines product)
      (fun product => returnable product - purchase.lines product) adjusted := by
  refine ⟨sound.linesNonnegative, sound.linesListed, ?_, ?_, ?_⟩
  · intro product
    have lines := sound.linesNonnegative present product
    have old := sound.onHandNonnegative product
    omega
  · intro product
    have room := sound.room product
    omega
  · intro product unknown
    have lines := sound.linesListed present unknown
    have old := sound.unlisted unknown
    omega

theorem Stocked.dispatchStock (sound : Stocked orders listed onHand held returnable adjusted)
    {id : Int} (present : orders id = some purchase) :
    Stocked orders listed onHand held
      (fun product => returnable product - purchase.lines product) adjusted := by
  refine ⟨sound.linesNonnegative, sound.linesListed, sound.onHandNonnegative, ?_, ?_⟩
  · intro product
    have lines := sound.linesNonnegative present product
    have room := sound.room product
    omega
  · intro product unknown
    have lines := sound.linesListed present unknown
    have old := sound.unlisted unknown
    omega

theorem Stocked.adjustStock (sound : Stocked orders listed onHand held returnable adjusted)
    {product delta : Int} (known : listed product = true)
    (nonnegative : 0 ≤ onHand product + delta)
    (room : onHand product + delta + returnable product ≤ maxInt32) :
    Stocked orders listed (Function.update onHand product (onHand product + delta)) held returnable
      (Function.update adjusted product (adjusted product + delta)) := by
  refine ⟨sound.linesNonnegative, sound.linesListed, ?_, ?_, ?_⟩
  · intro other
    by_cases same : other = product
    · rw [same, Function.update_self]
      exact nonnegative
    · rw [Function.update_of_ne same]
      exact sound.onHandNonnegative other
  · intro other
    by_cases same : other = product
    · rw [same, Function.update_self]
      exact room
    · rw [Function.update_of_ne same]
      exact sound.room other
  · intro other unknown
    have different : other ≠ product := by
      intro same
      rw [same, known] at unknown
      cases unknown
    rw [Function.update_of_ne different, Function.update_of_ne different]
    exact sound.unlisted unknown

theorem Stocked.introduceStock (sound : Stocked orders listed onHand held returnable adjusted)
    {product stock : Int} (unknown : listed product = false)
    (bounds : 0 ≤ stock ∧ stock ≤ maxInt32) :
    Stocked orders (Function.update listed product true) (Function.update onHand product stock)
      held returnable adjusted := by
  have unlisted : ∀ other, Function.update listed product true other = false →
      other ≠ product ∧ listed other = false := by
    intro other absent
    by_cases same : other = product
    · rw [same, Function.update_self] at absent
      cases absent
    · rw [Function.update_of_ne same] at absent
      exact ⟨same, absent⟩
  refine ⟨sound.linesNonnegative, ?_, ?_, ?_, ?_⟩
  · intro order purchase other present absent
    exact sound.linesListed present (unlisted other absent).2
  · intro other
    by_cases same : other = product
    · rw [same, Function.update_self]
      exact bounds.1
    · rw [Function.update_of_ne same]
      exact sound.onHandNonnegative other
  · intro other
    by_cases same : other = product
    · have empty := (sound.unlisted unknown).2.2.1
      rw [same, Function.update_self, empty]
      omega
    · rw [Function.update_of_ne same]
      exact sound.room other
  · intro other absent
    obtain ⟨different, old⟩ := unlisted other absent
    rw [Function.update_of_ne different]
    exact sound.unlisted old

end Stock

/-! ### Steps -/

theorem Ledger.Sound.steady {warrant : Warrant} {ledger after : Ledger}
    (sound : ledger.Sound) (step : Steady warrant ledger after) : after.Sound := by
  obtain ⟨funding, evidence, returns, stocked⟩ := sound
  cases step with
  | openOrder id purchase fresh status unfunded positive lines =>
      refine ⟨funding.openOrder fresh status unfunded positive, evidence, ?_, stocked.openOrder id lines⟩
      apply returns.setFreeOrder
      intro other reversal present same
      obtain ⟨charge, found, sameOrder, _⟩ := returns.reversalCharge present
      obtain ⟨old, known, _⟩ := funding.chargeOrder found
      rw [← sameOrder, same, fresh] at known
      cases known
  | openPayment id charge purchase fresh order payable terms status unpaid =>
      refine ⟨funding.openPayment fresh order payable terms status unpaid, ?_,
        returns.openPayment fresh status, stocked⟩
      apply evidence.setCharge
      intro old present
      rw [fresh] at present
      cases present
  | movePayment id charge status present allowed =>
      obtain ⟨purchase, order, _⟩ := funding.chargeOrder present
      have unsettled := allowed.unsettled
      refine ⟨funding.setCharge present order rfl rfl ?_ ?_ ?_ ?_ ?_, ?_,
        returns.setCharge present rfl rfl ?_ ?_,
        stocked⟩
      · rw [funding.recorded present, unsettled.1, unsettled.2]
      · intro funded
        obtain ⟨other, found, _, settled⟩ := funding.funding order funded
        cases present.symm.trans found
        rw [settled] at unsettled
        split at unsettled <;> cases unsettled.1
      · intro _
        exact unsettled.2
      · intro success
        have impossible := unsettled.2
        rw [show status = .success from success] at impossible
        cases impossible
      · intro cancelled
        have inactive := funding.cancelledQuiet present order cancelled
        rw [allowed.active] at inactive
        cases inactive
      · apply evidence.setCharge
        intro old found review
        cases present.symm.trans found
        exact review
      · intro settled
        rw [unsettled.1] at settled
        cases settled
      · intro refunded
        have impossible := unsettled.2
        rw [show status = .refunded from refunded] at impossible
        cases impossible
  | flag id charge present =>
      obtain ⟨purchase, order, _⟩ := funding.chargeOrder present
      have unpaid := funding.pendingUnpaid present order
      have quiet := funding.cancelledQuiet present order
      have recorded := funding.recorded present
      exact ⟨funding.setCharge present order rfl rfl recorded (fun _ => rfl)
          unpaid (fun _ => Or.inr rfl) quiet,
        evidence.setCharge (fun _ _ _ => rfl),
        returns.setCharge present rfl rfl (fun _ => rfl) (fun refunded => refunded),
        stocked⟩
  | recordFinding id finding charge fresh present review =>
      exact ⟨funding, evidence.setFinding (fun _ => ⟨charge, present, review⟩), returns,
        stocked⟩
  | amendFinding id finding providerRefund present =>
      have supported := evidence id finding present
      exact ⟨funding, evidence.setFinding supported, returns, stocked⟩
  | fund id charge purchase transaction present unsettled order payable reported =>
      have unfunded : purchase.fundedBy = none := by
        have status := funding.fundedStatus order
        rw [payable] at status
        exact Option.not_isSome_iff_eq_none.mp (by rw [status]; decide)
      refine ⟨funding.fund present order payable, ?_, ?_, stocked.setOrder order rfl⟩
      · apply evidence.setCharge
        intro old found review
        cases present.symm.trans found
        exact review
      · have free := returns.none_of_pending order payable unfunded
        have paid : Returns ledger.orders (Function.update ledger.payments id
            (some { charge with status := .success, transaction := some transaction }))
            ledger.refunds := by
          refine returns.setCharge present rfl rfl ?_ ?_
          · intro settled
            rw [unsettled] at settled
            cases settled
          · intro refunded
            cases refunded
        exact paid.setFreeOrder free
  | excess id charge purchase transaction present unsettled order notPayable reported =>
      refine ⟨funding.setCharge present order rfl rfl rfl ?_ ?_ (fun _ => Or.inr rfl) ?_,
        evidence.setCharge (fun _ _ _ => rfl), returns.setCharge present rfl rfl ?_ ?_,
        stocked⟩
      · intro funded
        obtain ⟨other, found, _, settled⟩ := funding.funding order funded
        cases present.symm.trans found
        rw [settled] at unsettled
        split at unsettled <;> cases unsettled
      · intro payable
        exact absurd payable notPayable
      · intro _
        rfl
      · intro settled
        rw [unsettled] at settled
        cases settled
      · intro refunded
        cases refunded
  | openReversal id reversal charge purchase fresh first number present received order sameOrder
      terms whole status fits undispatched =>
      exact ⟨funding, evidence,
        returns.openReversal first number fresh present received order sameOrder terms whole status
          fits undispatched,
        stocked⟩
  | retryReversal id reversal purchase present failed order undispatched =>
      refine ⟨funding, evidence, returns.setReversal present ?_ ?_ ?_,
        stocked⟩
      · rw [failed]
        decide
      · decide
      · intro _ other found purpose
        cases order.symm.trans found
        exact undispatched purpose
  | rejectReversal id reversal present pending =>
      refine ⟨funding, evidence, returns.setReversal present ?_ ?_ ?_,
        stocked⟩
      · rw [pending]
        decide
      · decide
      · intro again
        cases again
  | settleOrder id reversal charge purchase present purpose received success order paid =>
      have funded : purchase.fundedBy = some reversal.payment := by
        obtain ⟨_, found, sameOrder, _⟩ := returns.reversalCharge present
        cases received.symm.trans found
        have fits := returns.purposeFits present (sameOrder ▸ order)
        rw [purpose] at fits
        exact fits
      refine ⟨funding.settleOrder received success order paid funded, ?_,
        returns.settleOrder present received order funded paid, ?_⟩
      · apply evidence.setCharge
        intro old found review
        cases received.symm.trans found
        exact review
      · exact (stocked.returnStock order).setOrder order rfl
  | settleExcess id reversal charge present purpose received success =>
      obtain ⟨purchase, order, _⟩ := funding.chargeOrder received
      have other : purchase.fundedBy ≠ some reversal.payment :=
        returns.excess_not_funding present received order purpose (funding.fundedStatus order)
      refine ⟨funding.setCharge received order rfl rfl ?_ ?_ ?_ ?_ ?_, ?_,
        returns.settleExcess present received order purpose (funding.fundedStatus order),
        stocked⟩
      · rw [funding.recorded received, success]
        rfl
      · intro same
        exact absurd same other
      · intro pending
        have unpaid := funding.pendingUnpaid received order pending
        rw [success] at unpaid
        cases unpaid
      · intro impossible
        cases impossible
      · intro _
        rfl
      · apply evidence.setCharge
        intro old found review
        cases received.symm.trans found
        exact review
  | ship id payment purchase charge present paid funded received reviewed kept =>
      refine ⟨funding.setPurchase present rfl rfl ?_ ?_ ?_ ?_ ?_, evidence,
        returns.ship present paid funded kept, ?_⟩
      · rw [funding.fundedStatus present, paid]
        rfl
      · simp [paid]
      · nofun
      · nofun
      · intro impossible
        cases impossible
      · exact (stocked.dispatchStock present).setOrder present rfl
  | complete id payment purchase charge present shipped funded received reviewed =>
      refine ⟨funding.setPurchase present rfl rfl ?_ ?_ ?_ ?_ ?_, evidence,
        returns.complete present shipped, stocked.setOrder present rfl⟩
      · rw [funding.fundedStatus present, shipped]
        rfl
      · simp [shipped]
      · nofun
      · nofun
      · intro impossible
        cases impossible
  | resolve id charge purchase present order accounted =>
      have unpaid := funding.pendingUnpaid present order
      have quiet := funding.cancelledQuiet present order
      have recorded := funding.recorded present
      exact ⟨funding.setCharge present order rfl rfl recorded (fun _ => rfl)
          unpaid (fun success => Or.inl (accounted success)) quiet,
        evidence.resolve id _,
        returns.setCharge present rfl rfl (fun _ => rfl) (fun refunded => refunded),
        stocked⟩
  | adjust product delta known nonnegative room =>
      exact ⟨funding, evidence, returns, stocked.adjustStock known nonnegative room⟩

theorem Ledger.Sound.introduces {ledger after : Ledger} (sound : ledger.Sound)
    (step : Introduces ledger after) : after.Sound := by
  cases step with
  | introduce product stock unknown bounds =>
      exact ⟨sound.funding, sound.evidence, sound.returns,
        sound.stocked.introduceStock unknown bounds⟩

theorem Ledger.Sound.cancels {ledger after : Ledger} (sound : ledger.Sound)
    (step : Cancels ledger after) : after.Sound := by
  obtain ⟨funding, evidence, returns, stocked⟩ := sound
  cases step with
  | cancel id purchase present unpaid quiet =>
      have unfunded : purchase.fundedBy = none := by
        have status := funding.fundedStatus present
        rw [unpaid] at status
        exact Option.not_isSome_iff_eq_none.mp (by rw [status]; decide)
      refine ⟨funding.setPurchase present rfl rfl ?_ ?_ ?_ ?_ ?_, evidence,
        returns.setFreeOrder (returns.none_of_pending present unpaid unfunded), ?_⟩
      · rw [unfunded]
        rfl
      · simp [unpaid]
      · nofun
      · nofun
      · intro _ payment charge found same
        rcases (quiet payment charge found same).1 with failed | closed
        · rw [failed]
          rfl
        · rw [closed]
          rfl
      · exact (stocked.returnStock present).setOrder present rfl

end Mall
