/-
What the steps of a ledger never change, and what can cause a change.

A charge keeps its identity, recorded money stays recorded, and a charge is
settled only by a transaction that the provider reported.  Goods are neither
made nor lost.
-/

import Mall.LedgerSound

namespace Mall

open Ledger Relational

structure ChargeIdentity where
  order : Int
  terms : Terms
  channel : String
  outTradeNo : String

def Charge.identity (charge : Charge) : ChargeIdentity :=
  { order := charge.order
    terms := charge.terms
    channel := charge.channel
    outTradeNo := charge.outTradeNo }

structure Charge.Continues (before after : Charge) : Prop where
  identity : after.identity = before.identity
  settled : before.status.isSettled = true →
    after.status.isSettled = true ∧ after.transaction = before.transaction

theorem Charge.Continues.refl (charge : Charge) : charge.Continues charge :=
  ⟨rfl, fun settled => ⟨settled, rfl⟩⟩

theorem Charge.Continues.trans {first second third : Charge} (left : first.Continues second)
    (right : second.Continues third) : first.Continues third := by
  refine ⟨right.identity.trans left.identity, ?_⟩
  intro settled
  obtain ⟨still, same⟩ := left.settled settled
  obtain ⟨later, again⟩ := right.settled still
  exact ⟨later, again.trans same⟩

def Purchase.Continues (before after : Purchase) : Prop :=
  after.terms = before.terms ∧ after.lines = before.lines

/-- A later version of a reversal: only its status may differ. -/
def Reversal.Continues (before after : Reversal) : Prop :=
  ∃ status, after = { before with status := status }

section Steps

variable {warrant : Warrant} {before after : Ledger}

private theorem charge_update {ledger : Ledger} {id payment : Int} {old changed charge : Charge}
    (present : ledger.payments id = some old) (continues : old.Continues changed)
    (found : ledger.payments payment = some charge) :
    ∃ later, Function.update ledger.payments id (some changed) payment = some later ∧
      charge.Continues later := by
  by_cases same : payment = id
  · subst same
    cases present.symm.trans found
    exact ⟨changed, Function.update_self .., continues⟩
  · exact ⟨charge, by rw [Function.update_of_ne same]; exact found, .refl charge⟩

theorem Steady.charge_continues (step : Steady warrant before after) {payment : Int}
    {charge : Charge} (found : before.payments payment = some charge) :
    ∃ later, after.payments payment = some later ∧ charge.Continues later := by
  cases step with
  | openPayment id opened purchase fresh order payable terms status unpaid =>
      have different : payment ≠ id := by
        intro same
        rw [same, fresh] at found
        cases found
      refine ⟨charge, ?_, .refl charge⟩
      change Function.update before.payments id (some opened) payment = some charge
      rw [Function.update_of_ne different]
      exact found
  | movePayment id old status present allowed =>
      refine charge_update present ⟨rfl, ?_⟩ found
      intro settled
      rw [allowed.unsettled.1] at settled
      cases settled
  | flag id old present =>
      exact charge_update present ⟨rfl, fun settled => ⟨settled, rfl⟩⟩ found
  | fund id old purchase transaction present unsettled order payable reported =>
      refine charge_update present ⟨rfl, ?_⟩ found
      intro settled
      rw [unsettled] at settled
      cases settled
  | excess id old purchase transaction present unsettled order notPayable reported =>
      refine charge_update present ⟨rfl, ?_⟩ found
      intro settled
      rw [unsettled] at settled
      cases settled
  | settleOrder id reversal old purchase present purpose received success order paid =>
      exact charge_update received ⟨rfl, fun _ => ⟨rfl, rfl⟩⟩ found
  | settleExcess id reversal old present purpose received success =>
      exact charge_update received ⟨rfl, fun _ => ⟨rfl, rfl⟩⟩ found
  | resolve id old purchase present order accounted =>
      exact charge_update present ⟨rfl, fun settled => ⟨settled, rfl⟩⟩ found
  | _ => exact ⟨charge, found, .refl charge⟩

private theorem purchase_continues_update {ledger : Ledger} {id order : Int}
    {old changed purchase : Purchase} (present : ledger.orders id = some old)
    (continues : old.Continues changed) (found : ledger.orders order = some purchase) :
    ∃ later, Function.update ledger.orders id (some changed) order = some later ∧
      purchase.Continues later := by
  by_cases same : order = id
  · subst same
    cases present.symm.trans found
    exact ⟨changed, Function.update_self .., continues⟩
  · exact ⟨purchase, by rw [Function.update_of_ne same]; exact found, rfl, rfl⟩

theorem Steady.purchase_continues (step : Steady warrant before after) {order : Int}
    {purchase : Purchase} (found : before.orders order = some purchase) :
    ∃ later, after.orders order = some later ∧ purchase.Continues later := by
  cases step with
  | openOrder id opened fresh status unfunded positive lines =>
      have different : order ≠ id := by
        intro same
        rw [same, fresh] at found
        cases found
      refine ⟨purchase, ?_, rfl, rfl⟩
      change Function.update before.orders id (some opened) order = some purchase
      rw [Function.update_of_ne different]
      exact found
  | fund id charge old transaction present unsettled known payable reported =>
      exact purchase_continues_update known ⟨rfl, rfl⟩ found
  | settleOrder id reversal charge old present purpose received success known paid =>
      exact purchase_continues_update known ⟨rfl, rfl⟩ found
  | ship id payment old charge present paid funded received reviewed kept =>
      exact purchase_continues_update present ⟨rfl, rfl⟩ found
  | complete id payment old charge present shipped funded received reviewed =>
      exact purchase_continues_update present ⟨rfl, rfl⟩ found
  | _ => exact ⟨purchase, found, rfl, rfl⟩

theorem Steady.not_cancelled (step : Steady warrant before after) {order : Int}
    (standing : ∀ purchase, before.orders order = some purchase → purchase.status ≠ .cancelled) :
    ∀ purchase, after.orders order = some purchase → purchase.status ≠ .cancelled := by
  intro later found
  cases step with
  | openOrder id opened fresh status unfunded positive lines =>
      rcases update_eq_some found with ⟨_, rfl⟩ | ⟨_, unchanged⟩
      · rw [status]
        nofun
      · exact standing later unchanged
  | fund id charge old transaction present unsettled known payable reported =>
      rcases update_eq_some found with ⟨_, rfl⟩ | ⟨_, unchanged⟩
      · nofun
      · exact standing later unchanged
  | settleOrder id reversal charge old present purpose received success known paid =>
      rcases update_eq_some found with ⟨_, rfl⟩ | ⟨_, unchanged⟩
      · nofun
      · exact standing later unchanged
  | ship id payment old charge present paid funded received reviewed kept =>
      rcases update_eq_some found with ⟨_, rfl⟩ | ⟨_, unchanged⟩
      · nofun
      · exact standing later unchanged
  | complete id payment old charge present shipped funded received reviewed =>
      rcases update_eq_some found with ⟨_, rfl⟩ | ⟨_, unchanged⟩
      · nofun
      · exact standing later unchanged
  | _ => exact standing later found

theorem Steady.cancelled_kept (step : Steady warrant before after) {order : Int}
    {purchase : Purchase} (found : before.orders order = some purchase)
    (cancelled : purchase.status = .cancelled) : after.orders order = some purchase := by
  -- Each step that writes an order needs that order absent or in another state.
  have elsewhere : ∀ {id : Int} {changed : Purchase},
      (∀ old, before.orders id = some old → old.status ≠ .cancelled) →
      Function.update before.orders id (some changed) order = some purchase := by
    intro id changed live
    rw [Function.update_of_ne]
    · exact found
    · rintro rfl
      exact live purchase found cancelled
  have other : ∀ {id : Int} {old : Purchase} {status : OrderStatus},
      before.orders id = some old → old.status = status → status ≠ .cancelled →
      ∀ row, before.orders id = some row → row.status ≠ .cancelled := by
    intro id old status present same live row again
    cases present.symm.trans again
    rwa [same]
  cases step with
  | openOrder id opened fresh status unfunded positive lines =>
      refine elsewhere ?_
      intro old present
      rw [fresh] at present
      cases present
  | fund id charge old transaction present unsettled known payable reported =>
      exact elsewhere (other known payable nofun)
  | settleOrder id reversal charge old present purpose received success known paid =>
      exact elsewhere (other known paid nofun)
  | ship id payment old charge present paid funded received reviewed kept =>
      exact elsewhere (other present paid nofun)
  | complete id payment old charge present shipped funded received reviewed =>
      exact elsewhere (other present shipped nofun)
  | _ => exact found

/-- Goods leave the house only on the warrant, and the payment that funded them
stays the same. -/
theorem Steady.dispatched_warranted (step : Steady warrant before after) {order : Int}
    {later : Purchase} (found : after.orders order = some later)
    (dispatched : later.status.isDispatched = true) :
    (∃ purchase, before.orders order = some purchase ∧ purchase.status.isDispatched = true ∧
      purchase.fundedBy = later.fundedBy) ∨ warrant.ships order := by
  cases step with
  | openOrder id opened fresh status unfunded positive lines =>
      rcases update_eq_some found with ⟨_, rfl⟩ | ⟨_, unchanged⟩
      · rw [status] at dispatched
        cases dispatched
      · exact Or.inl ⟨later, unchanged, dispatched, rfl⟩
  | fund id charge old transaction present unsettled known payable reported =>
      rcases update_eq_some found with ⟨_, rfl⟩ | ⟨_, unchanged⟩
      · cases dispatched
      · exact Or.inl ⟨later, unchanged, dispatched, rfl⟩
  | settleOrder id reversal charge old present purpose received success known paid =>
      rcases update_eq_some found with ⟨_, rfl⟩ | ⟨_, unchanged⟩
      · cases dispatched
      · exact Or.inl ⟨later, unchanged, dispatched, rfl⟩
  | ship id payment old charge present paid funded received reviewed kept asked =>
      rcases update_eq_some found with ⟨rfl, _⟩ | ⟨_, unchanged⟩
      · exact Or.inr asked
      · exact Or.inl ⟨later, unchanged, dispatched, rfl⟩
  | complete id payment old charge present shipped funded received reviewed =>
      rcases update_eq_some found with ⟨rfl, rfl⟩ | ⟨_, unchanged⟩
      · exact Or.inl ⟨old, present, by rw [shipped]; rfl, rfl⟩
      · exact Or.inl ⟨later, unchanged, dispatched, rfl⟩
  | _ => exact Or.inl ⟨later, found, dispatched, rfl⟩

/-- The charge was reported as paid, under the transaction it now carries. -/
def Ledger.Reported (reports : Charge → String → Prop) (charge : Charge) : Prop :=
  ∃ old transaction, reports old transaction ∧ old.identity = charge.identity ∧
    charge.transaction = some transaction

/-- Only the provider's word settles a charge. -/
theorem Steady.settled_reported (step : Steady warrant before after) {payment : Int}
    {later : Charge} (found : after.payments payment = some later)
    (settled : later.status.isSettled = true) :
    (∃ charge, before.payments payment = some charge ∧ charge.status.isSettled = true) ∨
      Reported warrant.reports later := by
  cases step with
  | openPayment id opened purchase fresh order payable terms status unpaid =>
      rcases update_eq_some found with ⟨rfl, rfl⟩ | ⟨_, unchanged⟩
      · rw [status] at settled
        cases settled
      · exact Or.inl ⟨later, unchanged, settled⟩
  | movePayment id old status present allowed =>
      rcases update_eq_some found with ⟨rfl, rfl⟩ | ⟨_, unchanged⟩
      · have unsettled := allowed.unsettled.2
        rw [show status.isSettled = true from settled] at unsettled
        cases unsettled
      · exact Or.inl ⟨later, unchanged, settled⟩
  | flag id old present =>
      rcases update_eq_some found with ⟨rfl, rfl⟩ | ⟨_, unchanged⟩
      · exact Or.inl ⟨old, present, settled⟩
      · exact Or.inl ⟨later, unchanged, settled⟩
  | fund id old purchase transaction present unsettled order payable reported =>
      rcases update_eq_some found with ⟨rfl, rfl⟩ | ⟨_, unchanged⟩
      · exact Or.inr ⟨old, transaction, reported, rfl, rfl⟩
      · exact Or.inl ⟨later, unchanged, settled⟩
  | excess id old purchase transaction present unsettled order notPayable reported =>
      rcases update_eq_some found with ⟨rfl, rfl⟩ | ⟨_, unchanged⟩
      · exact Or.inr ⟨old, transaction, reported, rfl, rfl⟩
      · exact Or.inl ⟨later, unchanged, settled⟩
  | settleOrder id reversal old purchase present purpose received success order paid =>
      rcases update_eq_some found with ⟨rfl, rfl⟩ | ⟨_, unchanged⟩
      · exact Or.inl ⟨old, received, by rw [success]; rfl⟩
      · exact Or.inl ⟨later, unchanged, settled⟩
  | settleExcess id reversal old present purpose received success =>
      rcases update_eq_some found with ⟨rfl, rfl⟩ | ⟨_, unchanged⟩
      · exact Or.inl ⟨old, received, by rw [success]; rfl⟩
      · exact Or.inl ⟨later, unchanged, settled⟩
  | resolve id old purchase present order accounted =>
      rcases update_eq_some found with ⟨rfl, rfl⟩ | ⟨_, unchanged⟩
      · exact Or.inl ⟨old, present, settled⟩
      · exact Or.inl ⟨later, unchanged, settled⟩
  | _ => exact Or.inl ⟨later, found, settled⟩

/-- Stock on hand and sold, less what was adjusted: what a product started with. -/
def Ledger.opening (ledger : Ledger) (product : Int) : Int :=
  ledger.onHand product + ledger.held product - ledger.adjusted product

/-- No step makes or loses goods, or lists a product. -/
theorem Steady.opening_kept (step : Steady warrant before after) (product : Int) :
    after.opening product = before.opening product ∧
      after.listed product = before.listed product := by
  cases step with
  | openOrder id purchase fresh status unfunded positive lines =>
      refine ⟨?_, rfl⟩
      change before.onHand product - purchase.lines product +
        (before.held product + purchase.lines product) - before.adjusted product = _
      rw [Ledger.opening]
      omega
  | settleOrder id reversal charge purchase present purpose received success order paid =>
      refine ⟨?_, rfl⟩
      change before.onHand product + purchase.lines product +
        (before.held product - purchase.lines product) - before.adjusted product = _
      rw [Ledger.opening]
      omega
  | adjust other delta listed nonnegative room =>
      refine ⟨?_, rfl⟩
      change Function.update before.onHand other _ product + before.held product -
        Function.update before.adjusted other _ product = _
      rw [Ledger.opening]
      by_cases same : product = other
      · rw [same, Function.update_self, Function.update_self]
        omega
      · rw [Function.update_of_ne same, Function.update_of_ne same]
  | _ => exact ⟨rfl, rfl⟩

theorem Cancels.opening_kept (step : Cancels before after) (product : Int) :
    after.opening product = before.opening product ∧
      after.listed product = before.listed product := by
  cases step with
  | cancel id purchase present unpaid quiet =>
      refine ⟨?_, rfl⟩
      change before.onHand product + purchase.lines product +
        (before.held product - purchase.lines product) - before.adjusted product = _
      rw [Ledger.opening]
      omega

theorem Introduces.opening {product : Int} (step : Introduces before after) (sound : before.Sound)
    (listed : after.listed product = true) :
    if before.listed product then after.opening product = before.opening product
    else after.opening product = after.onHand product := by
  cases step with
  | introduce introduced stock unknown bounds =>
      by_cases same : product = introduced
      · subst same
        rw [unknown]
        obtain ⟨_, held, _, adjusted⟩ := sound.stocked.unlisted unknown
        change Function.update before.onHand product stock product + before.held product -
          before.adjusted product = Function.update before.onHand product stock product
        omega
      · change Function.update before.listed introduced true product = true at listed
        rw [Function.update_of_ne same] at listed
        rw [listed]
        change Function.update before.onHand introduced stock product + before.held product -
          before.adjusted product = _
        rw [Function.update_of_ne same]
        rfl

/-! ### Reversals -/

private theorem reversal_update {ledger : Ledger} {id refund : Int} {old reversal : Reversal}
    {status : RefundStatus} (present : ledger.refunds id = some old)
    (found : ledger.refunds refund = some reversal) :
    ∃ later, Function.update ledger.refunds id (some { old with status := status }) refund =
      some later ∧ reversal.Continues later := by
  by_cases same : refund = id
  · subst same
    cases present.symm.trans found
    exact ⟨{ old with status := status }, Function.update_self .., status, rfl⟩
  · exact ⟨reversal, by rw [Function.update_of_ne same]; exact found, reversal.status, rfl⟩

theorem Steady.reversal_continues (step : Steady warrant before after) {refund : Int}
    {reversal : Reversal} (found : before.refunds refund = some reversal) :
    ∃ later, after.refunds refund = some later ∧ reversal.Continues later := by
  cases step with
  | openReversal id opened charge purchase fresh first number present received order sameOrder terms
      whole status fits undispatched =>
      have different : refund ≠ id := by
        intro same
        rw [same, fresh] at found
        cases found
      refine ⟨reversal, ?_, reversal.status, rfl⟩
      change Function.update before.refunds id (some opened) refund = some reversal
      rw [Function.update_of_ne different]
      exact found
  | retryReversal id old purchase present failed order undispatched =>
      exact reversal_update present found
  | rejectReversal id old present pending => exact reversal_update present found
  | settleOrder id old charge purchase present purpose received success order paid =>
      exact reversal_update present found
  | settleExcess id old charge present purpose received success =>
      exact reversal_update present found
  | _ => exact ⟨reversal, found, reversal.status, rfl⟩

end Steps

end Mall
