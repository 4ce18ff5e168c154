/-
Prices and totals as exact integers.

The decimal and the wrapping arithmetic of the source compute the plain formulas
whenever a result is accepted at all.
-/

import Mall.Catalogue
import Mall.Refinement.Journal

namespace Mall

open Relational Transactional

variable {db result : Database}

/-! ### 64-bit arithmetic -/

private theorem wrap64_of_range {value : Int} (nonnegative : 0 ≤ value) (fits : value ≤ maxInt64) :
    wrap64 value = value := by
  unfold maxInt64 at fits
  apply Int.bmod_eq_of_le <;> omega

/-- The guard accepts exactly the products that fit, and then nothing wraps. -/
theorem multiplyMoney_eq {amount quantity : Int}
    (accepted : (multiplyMoney amount quantity).2 = false) :
    0 ≤ amount * quantity ∧ amount * quantity ≤ maxInt64 ∧
      (multiplyMoney amount quantity).1 = amount * quantity := by
  unfold multiplyMoney at accepted ⊢
  split at accepted
  · cases accepted
  · next guard =>
    rw [if_neg guard]
    push Not at guard
    obtain ⟨amountSign, quantitySign, bounded⟩ := guard
    have sign : 0 ≤ amount * quantity := mul_nonneg amountSign quantitySign
    have fits : amount * quantity ≤ maxInt64 := by
      rcases eq_or_ne quantity 0 with rfl | some
      · rw [mul_zero]
        decide
      · have quotient := bounded some
        rw [Int.tdiv_eq_ediv_of_nonneg (by decide)] at quotient
        exact (Int.le_ediv_iff_mul_le (by omega)).mp quotient
    exact ⟨sign, fits, wrap64_of_range sign fits⟩

/-! ### Decimals -/

theorem Decimal.truncate_intCast (value : Int) : Decimal.truncate (value : ℚ) = value := by
  unfold Decimal.truncate
  split
  · have floor : (-(value : ℚ)).floor = -value := by
      have plain := Rat.floor_intCast (-value)
      push_cast at plain
      exact plain
    rw [floor]
    push_cast
    ring
  · rw [Rat.floor_intCast]

theorem Decimal.intPart_intCast {value : Int} (nonnegative : 0 ≤ value) (fits : value ≤ maxInt64) :
    Decimal.intPart (value : ℚ) = value := by
  rw [Decimal.intPart, Decimal.truncate_intCast]
  exact wrap64_of_range nonnegative fits

private theorem floor_hundredths (value : Int) :
    ((value : ℚ) / 100 + 1 / 2).floor = (value + 50) / 100 := by
  have exact : (value : ℚ) / 100 + 1 / 2 = ((value + 50 : Int) : ℚ) / (100 : Nat) := by
    push_cast
    ring
  rw [exact]
  exact Rat.floor_intCast_div_natCast (value + 50) 100

private theorem productDiscount_hundredths {rate : Int} (positive : 1 ≤ rate) (whole : rate ≤ 100) :
    productDiscount ((rate : ℚ) / 100) = .ok () := by
  have low : (1 : ℚ) ≤ rate := by exact_mod_cast positive
  have high : (rate : ℚ) ≤ 100 := by exact_mod_cast whole
  have rounded : Decimal.round ((rate : ℚ) / 100) 2 = (rate : ℚ) / 100 := by
    unfold Decimal.round
    have sign : ¬ (rate : ℚ) / 100 < 0 := by
      rw [not_lt]
      positivity
    rw [if_neg sign]
    have scaled : (rate : ℚ) / 100 * ((10 ^ 2 : Nat) : ℚ) + 1 / 2 = ((100 * rate : Int) : ℚ) / 100 + 1 / 2 := by
      push_cast
      ring
    rw [scaled, floor_hundredths]
    have back : (100 * rate + 50) / 100 = rate := by omega
    rw [back]
    norm_num
  rw [productDiscount, if_pos]
  refine ⟨?_, ?_, rounded.symm⟩
  · positivity
  · linarith

theorem effective_le {price rate : Int} (nonnegative : 0 ≤ price) (whole : rate ≤ 100) :
    (price * rate + 50) / 100 ≤ price := by
  have bounded : price * rate ≤ price * 100 := mul_le_mul_of_nonneg_left whole nonnegative
  omega

theorem effective_nonneg {price rate : Int} (nonnegative : 0 ≤ price) (positive : 1 ≤ rate) :
    0 ≤ (price * rate + 50) / 100 := by
  have sign : 0 ≤ price * rate := mul_nonneg nonnegative (by omega)
  omega

/-- The charged price, as a formula over the integers. -/
theorem effectivePriceMinor_eq {price rate : Int} (nonnegative : 0 ≤ price)
    (fits : price ≤ maxInt64) (positive : 1 ≤ rate) (whole : rate ≤ 100) :
    effectivePriceMinor price ((rate : ℚ) / 100) = .ok ((price * rate + 50) / 100) := by
  have value : (price : ℚ) * ((rate : ℚ) / 100) = ((price * rate : Int) : ℚ) / 100 := by
    push_cast
    ring
  have rounded : Decimal.round ((price : ℚ) * ((rate : ℚ) / 100)) 0 =
      (((price * rate + 50) / 100 : Int) : ℚ) := by
    have sign : ¬ ((price * rate : Int) : ℚ) / 100 < 0 := by
      have product : 0 ≤ price * rate := mul_nonneg nonnegative (by omega)
      rw [not_lt]
      positivity
    rw [value, Decimal.round, if_neg sign]
    have scaled : ((price * rate : Int) : ℚ) / 100 * ((10 ^ 0 : Nat) : ℚ) + 1 / 2 =
        ((price * rate : Int) : ℚ) / 100 + 1 / 2 := by
      norm_num
    rw [scaled, floor_hundredths]
    norm_num
  rw [effectivePriceMinor, if_neg (by omega), productDiscount_hundredths positive whole, rounded,
    Decimal.intPart_intCast (effective_nonneg nonnegative positive)
      (le_trans (effective_le nonnegative whole) fits)]
  rfl

theorem productPriceMinor_shift {price : Int} (nonnegative : 0 ≤ price) (fits : price ≤ maxInt64) :
    productPriceMinor (Decimal.shift price (-2)) = .ok price := by
  have back : Decimal.shift (Decimal.shift (price : ℚ) (-2)) 2 = price := by
    norm_num [Decimal.shift]
  have sign : ¬ ((price : ℚ) < 0) := by
    rw [not_lt]
    exact_mod_cast nonnegative
  have bound : ¬ ((price : ℚ) > (maxInt64 : ℚ)) := by
    rw [not_lt]
    exact_mod_cast fits
  rw [productPriceMinor, back, Decimal.truncate_intCast, if_neg (by tauto),
    Decimal.intPart_intCast nonnegative fits]

theorem shift_hundredths (value : Int) : Decimal.shift (value : ℚ) (-2) = (value : ℚ) / 100 := by
  have places : (-(-2 : Int)).toNat = 2 := rfl
  rw [Decimal.shift, if_neg (by decide), places]
  norm_num

theorem finite_hundredths (value : Int) : Decimal.Finite ((value : ℚ) / 100) := by
  rcases eq_or_ne ((value : ℚ) / 100).den 1 with whole | part
  · exact ⟨0, Nat.zero_le _, by rw [pow_zero, mul_one]; exact whole⟩
  · refine ⟨2, ?_, ?_⟩
    · have positive := ((value : ℚ) / 100).den_pos
      omega
    · have exact : (value : ℚ) / 100 * 10 ^ 2 = value := by
        norm_num
      rw [exact]
      exact Rat.den_intCast value

/-! ### The pricing loop -/

structure ItemSnapshot.Priced (db : Database) (snapshot : ItemSnapshot) : Prop where
  product : db.getProductForOrder snapshot.input.productID = some snapshot.product
  price : effectivePriceMinor snapshot.product.priceMinor snapshot.product.discount =
    .ok snapshot.unitPrice

def ItemSnapshot.charge (snapshot : ItemSnapshot) : Int :=
  snapshot.unitPrice * snapshot.input.quantity

private theorem addLine_eq {amount quantity total : Int} (nonnegative : 0 ≤ total)
    (accepted : ¬ ((multiplyMoney amount quantity).2 = true ∨
      total > wrap64 (maxInt64 - (multiplyMoney amount quantity).1))) :
    0 ≤ amount * quantity ∧ total + amount * quantity ≤ maxInt64 ∧
      wrap64 (total + (multiplyMoney amount quantity).1) = total + amount * quantity := by
  obtain ⟨valid, room⟩ := not_or.mp accepted
  obtain ⟨sign, fits, line⟩ := multiplyMoney_eq (Bool.eq_false_iff.mpr valid)
  rw [line] at room ⊢
  rw [wrap64_of_range (by omega) (by omega)] at room
  have sum : total + amount * quantity ≤ maxInt64 := by omega
  exact ⟨sign, sum, wrap64_of_range (by omega) sum⟩

private theorem snapshotItems_charged {items : List OrderItemInput} {total final : Int}
    {snapshots : List ItemSnapshot} (nonnegative : 0 ≤ total) (fits : total ≤ maxInt64)
    (done : snapshotItems db items total = .ok (snapshots, final)) :
    (∀ snapshot ∈ snapshots, snapshot.Priced db ∧ 0 ≤ snapshot.charge) ∧
      final = total + (snapshots.map ItemSnapshot.charge).sum ∧ final ≤ maxInt64 := by
  induction items generalizing total snapshots with
  | nil =>
      cases done
      exact ⟨nofun, (Int.add_zero _).symm, fits⟩
  | cons item rest ih =>
      rw [snapshotItems] at done
      obtain ⟨product, known, done⟩ := bind_eq_ok.mp done
      obtain ⟨_, _, done⟩ := bind_eq_ok.mp done
      obtain ⟨unitPrice, price, done⟩ := bind_eq_ok.mp done
      obtain ⟨_, accepted, done⟩ := bind_eq_ok.mp done
      obtain ⟨⟨others, last⟩, later, done⟩ := bind_eq_ok.mp done
      cases pure_eq_ok.mp done
      obtain ⟨line, sum, exact⟩ := addLine_eq nonnegative (require_eq_ok.mp accepted)
      rw [exact] at later
      obtain ⟨each, counted, bound⟩ := ih (by omega) sum later
      refine ⟨?_, ?_, bound⟩
      · intro snapshot member
        rcases List.mem_cons.mp member with rfl | listed
        · exact ⟨⟨found_eq_ok.mp known, price⟩, line⟩
        · exact each snapshot listed
      · rw [List.map_cons, List.sum_cons, counted, ← Int.add_assoc]
        rfl

/-- The lines that the catalogue gives for some items; an item without a price has
none. -/
def Database.charges (db : Database) (items : List OrderItemInput) : List Int :=
  items.filterMap (fun item =>
    (db.getProductForOrder item.productID).bind (fun product =>
      (effectivePriceMinor product.priceMinor product.discount).toOption.map
        (fun unitPrice => unitPrice * item.quantity)))

private theorem charges_of_priced {snapshots : List ItemSnapshot}
    (priced : ∀ snapshot ∈ snapshots, snapshot.Priced db) :
    db.charges (snapshots.map ItemSnapshot.input) = snapshots.map ItemSnapshot.charge := by
  induction snapshots with
  | nil => rfl
  | cons snapshot rest ih =>
      have here := priced snapshot List.mem_cons_self
      have tail := ih (fun other member => priced other (List.mem_cons_of_mem _ member))
      rw [List.map_cons, Database.charges, List.filterMap_cons, here.product, Option.bind_some,
        here.price]
      exact congrArg (List.cons snapshot.charge) tail

/-! ### Stored items -/

def Database.itemsCharge (db : Database) (orderID : Int) : Int :=
  db.orderItems.total (fun item =>
    if item.orderId = orderID then item.unitPriceMinor * item.quantity else 0)

private theorem reserveItems_charge {orderID : Int} {snapshots : List ItemSnapshot}
    (done : reserveItems orderID snapshots db = .ok result) :
    result.itemsCharge orderID =
      db.itemsCharge orderID + (snapshots.map ItemSnapshot.charge).sum := by
  induction snapshots generalizing db with
  | nil =>
      cases done
      exact (Int.add_zero _).symm
  | cons snapshot rest ih =>
      rw [reserveItems] at done
      obtain ⟨⟨_, reduced⟩, taken, done⟩ := bind_eq_ok.mp done
      obtain ⟨_, _, _, _, rfl⟩ := Database.updateProductRow_eq_some.mp (found_eq_ok.mp taken)
      have stored := Table.total_insert db.orderItems (snapshot.row orderID) (fun item =>
        if item.orderId = orderID then item.unitPriceMinor * item.quantity else 0)
      have own : (db.orderItems.inserted (snapshot.row orderID)).orderId = orderID := rfl
      rw [if_pos own] at stored
      rw [ih done, List.map_cons, List.sum_cons, ← Int.add_assoc]
      exact congrArg (· + _) stored

private theorem reserveItems_rows {orderID : Int} {snapshots : List ItemSnapshot}
    (done : reserveItems orderID snapshots db = .ok result) :
    ∀ item ∈ result.orderItems, item ∈ db.orderItems ∨ ∃ snapshot ∈ snapshots,
      item.productId = snapshot.input.productID ∧ item.unitPriceMinor = snapshot.unitPrice := by
  induction snapshots generalizing db with
  | nil =>
      cases done
      exact fun _ member => Or.inl member
  | cons snapshot rest ih =>
      rw [reserveItems] at done
      obtain ⟨⟨_, reduced⟩, taken, done⟩ := bind_eq_ok.mp done
      obtain ⟨_, _, _, _, rfl⟩ := Database.updateProductRow_eq_some.mp (found_eq_ok.mp taken)
      intro item member
      rcases ih done item member with old | ⟨other, listed, facts⟩
      · rcases Table.mem_insert.mp old with before | rfl
        · exact Or.inl before
        · exact Or.inr ⟨snapshot, List.mem_cons_self, rfl, rfl⟩
      · exact Or.inr ⟨other, List.mem_cons_of_mem _ listed, facts⟩

structure OrderPriced (db : Database) (args : CreateOrderArgs) (order : Order) (result : Database) :
    Prop where
  placed : result.orders = db.orders.insert order ∧ order = db.orders.inserted order
  charge : result.itemsCharge order.id = db.itemsCharge order.id + order.totalAmountMinor
  total : order.totalAmountMinor = (db.charges (sortItems args.items)).sum
  lines : ∀ line ∈ db.charges (sortItems args.items), 0 ≤ line
  positive : 0 < order.totalAmountMinor
  fits : order.totalAmountMinor ≤ maxInt64
  items : ∀ item ∈ result.orderItems, item ∈ db.orderItems ∨ ∃ product,
    db.getProductForOrder item.productId = some product ∧
      effectivePriceMinor product.priceMinor product.discount = .ok item.unitPriceMinor

theorem replayOrder_same {args : CreateOrderArgs} {existing order : Order}
    (replay : replayOrder args existing = .ok order) : order = existing := by
  unfold replayOrder at replay
  obtain ⟨_, _, replay⟩ := bind_eq_ok.mp replay
  obtain ⟨_, _, replay⟩ := bind_eq_ok.mp replay
  cases pure_eq_ok.mp replay
  rfl

/-- The transaction stores an order at the sum of its items, or finds the order that
its key names and writes nothing. -/
theorem placeOrder_priced {args : CreateOrderArgs} {now : Time} {order : Order}
    (done : placeOrder args now db = .ok (order, result)) :
    (result = db ∧ order ∈ db.orders ∧
      (db.getOrderByUserIdempotency args.userID args.idempotencyKey).isSome = true) ∨
    OrderPriced db args order result := by
  unfold placeOrder at done
  split at done
  · next existing known =>
      left
      obtain ⟨replayed, replay, done⟩ := bind_eq_ok.mp done
      cases pure_eq_ok.mp done
      cases replayOrder_same replay
      rw [known]
      exact ⟨rfl, List.mem_of_find?_eq_some known, rfl⟩
  · right
    obtain ⟨_, _, done⟩ := bind_eq_ok.mp done
    obtain ⟨address, _, done⟩ := bind_eq_ok.mp done
    obtain ⟨⟨snapshots, total⟩, priced, done⟩ := bind_eq_ok.mp done
    obtain ⟨_, worth, done⟩ := bind_eq_ok.mp done
    obtain ⟨⟨created, stored⟩, opened, done⟩ := bind_eq_ok.mp done
    obtain ⟨reserved, written, done⟩ := bind_eq_ok.mp done
    cases pure_eq_ok.mp done
    obtain ⟨rfl, rfl⟩ := createOrderRow_eq_ok opened
    obtain ⟨each, counted, fits⟩ := snapshotItems_charged (le_refl 0) (by decide) priced
    have inputs := snapshotItems_eq_ok priced
    have lines := charges_of_priced (fun snapshot member => (each snapshot member).1)
    rw [inputs] at lines
    obtain ⟨journal, sameOrders, _, _⟩ := reserveItems_journal written
    obtain ⟨jobs, queued⟩ := reserved.enqueue_snd
      (.expireOrder (db.orders.inserted (newOrder args address total now)).id)
      (some (db.orders.inserted (newOrder args address total now)).expiresAt)
    rw [Int.zero_add] at counted
    rw [queued]
    refine
      { placed := ⟨congrArg Journal.orders sameOrders, rfl⟩
        charge := ?_
        total := ?_
        lines := ?_
        positive := not_le.mp (require_eq_ok.mp worth)
        fits := fits
        items := ?_ }
    · have charged := reserveItems_charge written
      rw [← counted] at charged
      exact charged
    · rw [lines]
      exact counted
    · rw [lines]
      intro line member
      obtain ⟨snapshot, listed, rfl⟩ := List.mem_map.mp member
      exact (each snapshot listed).2
    · intro item member
      rcases reserveItems_rows written item member with old | ⟨snapshot, listed, product, unit⟩
      · exact Or.inl old
      · have facts := (each snapshot listed).1
        rw [product, unit]
        exact Or.inr ⟨snapshot.product, facts.product, facts.price⟩

end Mall
