/-
What is shown is charged, and order totals are exact or refused.
-/

import Mall.Refinement.Footprints
import Mall.Refinement.Pricing

namespace Mall

open Relational Transactional

variable {db result : Database}

/-! ### Shown and charged prices -/

private theorem toProtoProduct_effective {product : Product} (nonnegative : 0 ≤ product.priceMinor)
    (fits : product.priceMinor ≤ maxInt64) :
    (toProtoProduct (toBizProduct product)).map ProtoProduct.effectivePriceMinor =
      effectivePriceMinor product.priceMinor product.discount := by
  rw [toProtoProduct, toBizProduct, productPriceMinor_shift nonnegative fits, ok_bind]
  cases effectivePriceMinor product.priceMinor product.discount <;> rfl

private theorem decodeProduct_encodeProduct {product : BizProduct}
    (price : Decimal.Finite product.price) (discount : Decimal.Finite product.discount) :
    decodeProduct (encodeProduct product) = some product := by
  rw [decodeProduct, encodeProduct]
  dsimp only
  rw [Decimal.read_text price, Decimal.read_text discount]
  rfl

private theorem browsingHistoryItem_effective {row : ListBrowsingHistoryRow}
    {item : BrowsingHistoryItem} (done : browsingHistoryItem row = .ok item) :
    item.productID = row.view.productID ∧ item.available = row.available ∧
      (item.available = true →
        effectivePriceMinor row.priceMinor row.discount = .ok item.effectivePriceMinor) := by
  unfold browsingHistoryItem at done
  obtain ⟨effective, price, done⟩ := bind_eq_ok.mp done
  cases pure_eq_ok.mp done
  refine ⟨rfl, rfl, ?_⟩
  intro available
  dsimp only at available ⊢
  rw [if_pos available]
  exact price

private theorem browsingHistoryItems_rows {rows : List ListBrowsingHistoryRow}
    {items : List BrowsingHistoryItem} (done : browsingHistoryItems rows = .ok items) :
    ∀ item ∈ items, ∃ row ∈ rows, browsingHistoryItem row = .ok item := by
  induction rows generalizing items with
  | nil =>
      cases done
      nofun
  | cons row rest ih =>
      rw [browsingHistoryItems] at done
      obtain ⟨first, here, done⟩ := bind_eq_ok.mp done
      obtain ⟨others, later, done⟩ := bind_eq_ok.mp done
      cases pure_eq_ok.mp done
      intro item member
      rcases List.mem_cons.mp member with rfl | listed
      · exact ⟨row, List.mem_cons_self, here⟩
      · obtain ⟨source, known, made⟩ := ih later item listed
        exact ⟨source, List.mem_cons_of_mem _ known, made⟩

private theorem listHistory_effective {views : List ProductBrowsingHistory} {userID : Int}
    {retention now : Time} {page : Page} {filter : HistoryFilter}
    {items : List BrowsingHistoryItem} {following : Option (Time × Int)}
    (done : listHistory views userID retention now page filter db = .ok (items, following)) :
    ∀ item ∈ items, item.available = true → ∃ product,
      db.products.find? item.productID = some product ∧
        effectivePriceMinor product.priceMinor product.discount =
          .ok item.effectivePriceMinor := by
  unfold listHistory at done
  obtain ⟨shown, listed, done⟩ := bind_eq_ok.mp done
  cases pure_eq_ok.mp done
  intro item member available
  obtain ⟨row, inside, made⟩ := browsingHistoryItems_rows listed item member
  obtain ⟨about, _, price⟩ := browsingHistoryItem_effective made
  have joined := List.mem_of_mem_take (List.mem_of_mem_take inside)
  obtain ⟨view, _, join⟩ := List.mem_filterMap.mp joined
  obtain ⟨product, present, rfl⟩ := Option.map_eq_some_iff.mp join
  refine ⟨product, ?_, price available⟩
  rw [about]
  exact present

private theorem getProductForOrder_find {id : Int} {product : Product}
    (known : db.getProductForOrder id = some product) : db.products.find? id = some product :=
  (Option.filter_eq_some_iff.mp known).1

/-- The effective price is the rounded fraction of the price, and every path of the
source arrives at it. -/
theorem shown_price_charged {price rate : Int} (nonnegative : 0 ≤ price) (fits : price < 2 ^ 63)
    (positive : 1 ≤ rate) (whole : rate ≤ 100) :
    effectivePriceMinor price ((rate : ℚ) / 100) = .ok ((price * rate + 50) / 100) ∧
    0 ≤ (price * rate + 50) / 100 ∧ (price * rate + 50) / 100 ≤ price ∧
    (∀ higher, price ≤ higher → higher < 2 ^ 63 → ∃ effective,
      effectivePriceMinor higher ((rate : ℚ) / 100) = .ok effective ∧
        (price * rate + 50) / 100 ≤ effective) ∧
    (∀ greater : Int, rate ≤ greater → greater ≤ 100 → ∃ effective,
      effectivePriceMinor price ((greater : ℚ) / 100) = .ok effective ∧
        (price * rate + 50) / 100 ≤ effective) ∧
    ∀ db id product, db.products.find? id = some product → product.priceMinor = price →
      product.discount = (rate : ℚ) / 100 →
      ((toProtoProduct (toBizProduct product)).map ProtoProduct.effectivePriceMinor =
        .ok ((price * rate + 50) / 100)) ∧
      ((decodeProduct (encodeProduct (toBizProduct product))).map toProtoProduct =
        some (toProtoProduct (toBizProduct product))) ∧
      (∀ views userID retention now page filter items following,
        listHistory views userID retention now page filter db = .ok (items, following) →
        ∀ item ∈ items, item.productID = id → item.available = true →
          item.effectivePriceMinor = (price * rate + 50) / 100) ∧
      ∀ args now order result, placeOrder args now db = .ok (order, result) →
        ∀ item ∈ result.orderItems, item ∉ db.orderItems → item.productId = id →
          item.unitPriceMinor = (price * rate + 50) / 100 := by
  have bounded : price ≤ maxInt64 := by
    unfold maxInt64
    omega
  have exact := effectivePriceMinor_eq nonnegative bounded positive whole
  refine ⟨exact, effective_nonneg nonnegative positive, effective_le nonnegative whole, ?_, ?_, ?_⟩
  · intro higher above limit
    have within : higher ≤ maxInt64 := by
      unfold maxInt64
      omega
    refine ⟨_, effectivePriceMinor_eq (by omega) within positive whole, ?_⟩
    have product : price * rate ≤ higher * rate := mul_le_mul_of_nonneg_right above (by omega)
    omega
  · intro greater above limit
    refine ⟨_, effectivePriceMinor_eq nonnegative bounded (by omega) limit, ?_⟩
    have product : price * rate ≤ price * greater := mul_le_mul_of_nonneg_left above nonnegative
    omega
  · rintro db id product present rfl discount
    rw [← discount] at exact
    refine ⟨?_, ?_, ?_, ?_⟩
    · rw [toProtoProduct_effective nonnegative bounded, exact]
    · have major : Decimal.Finite (toBizProduct product).price := by
        rw [toBizProduct, shift_hundredths]
        exact finite_hundredths product.priceMinor
      have rated : Decimal.Finite (toBizProduct product).discount := by
        rw [toBizProduct, discount]
        exact finite_hundredths rate
      rw [decodeProduct_encodeProduct major rated]
      rfl
    · intro views userID retention now page filter items following done item member about available
      obtain ⟨row, known, shown⟩ := listHistory_effective done item member available
      rw [about, present] at known
      cases known
      exact Except.ok.inj (shown.symm.trans exact)
    · intro args now order result done item member news about
      rcases placeOrder_priced done with ⟨rfl, _, _⟩ | priced
      · exact absurd member news
      · rcases priced.items item member with old | ⟨row, known, charged⟩
        · exact absurd old news
        · have same := getProductForOrder_find known
          rw [about, present] at same
          cases same
          exact Except.ok.inj (charged.symm.trans exact)

def saleShop : Database :=
  next (.createProduct
    { categoryID := 1
      name := "gold"
      price := 9223372036854775807 / 100
      discount := 99 / 100
      coverImage := "" } 10 .onShelf) smallShop

def goldViews : List ProductBrowsingHistory :=
  [{ userID := 1, productID := 2, lastViewedAt := 5 }]

def oneGold : CreateOrderArgs :=
  { userID := 1
    addressID := 1
    outTradeNo := "ORD1"
    currency := "CNY"
    items := [{ productID := 2, quantity := 1 }]
    idempotencyKey := "order-key-1"
    requestHash := "digest"
    paymentTimeout := 0 }

/-- Ninety-nine hundredths of the greatest price, a product beyond 64 bits, is what the
history shows and what an order is charged. -/
theorem shown_price_charged_greatest :
    effectivePriceMinor 9223372036854775807 (((99 : Int) : ℚ) / 100) = .ok 9131138316486228049 ∧
    (∃ items following item,
      listHistory goldViews 1 100 10 ⟨20, none⟩ ⟨none, none⟩ saleShop = .ok (items, following) ∧
        item ∈ items ∧ item.productID = 2 ∧ item.effectivePriceMinor = 9131138316486228049) ∧
    ∃ order result item, placeOrder oneGold 0 saleShop = .ok (order, result) ∧
      item ∈ result.orderItems ∧ item.productId = 2 ∧
        item.unitPriceMinor = 9131138316486228049 := by
  obtain ⟨price, _, _, _, _, charged⟩ := @shown_price_charged 9223372036854775807 99 (by decide)
    (by decide) (by decide) (by decide)
  have gold : (saleShop.products.find? 2).map (fun product =>
      (product.priceMinor, product.discount)) = some (9223372036854775807, 99 / 100) := by
    decide +kernel
  obtain ⟨product, present, facts⟩ := Option.map_eq_some_iff.mp gold
  obtain ⟨priced, discounted⟩ := Prod.ext_iff.mp facts
  obtain ⟨_, _, history, placed⟩ := charged saleShop 2 product present priced
    (discounted.trans (by norm_num))
  refine ⟨price, ?_, ?_⟩
  · have page : (listHistory goldViews 1 100 10 ⟨20, none⟩ ⟨none, none⟩ saleShop).toOption.map
        (fun page => page.1.map (fun item => (item.productID, item.available))) =
          some [(2, true)] := by
      decide +kernel
    cases done : listHistory goldViews 1 100 10 ⟨20, none⟩ ⟨none, none⟩ saleShop with
    | error fault =>
        rw [done] at page
        cases page
    | ok listed =>
        rw [done] at page
        obtain ⟨item, items, same⟩ := List.map_eq_singleton_iff.mp (Option.some.inj page)
        obtain ⟨about, available⟩ := Prod.ext_iff.mp same
        have member : item ∈ listed.1 := items ▸ List.mem_singleton_self item
        exact ⟨listed.1, listed.2, item, rfl, member, about,
          history _ _ _ _ _ _ _ _ done item member about available⟩
  · have order : (placeOrder oneGold 0 saleShop).toOption.map
        (fun placed => placed.2.orderItems.rows.map OrderItem.productId) = some [2] := by
      decide +kernel
    cases done : placeOrder oneGold 0 saleShop with
    | error fault =>
        rw [done] at order
        cases order
    | ok ordered =>
        rw [done] at order
        obtain ⟨item, items, about⟩ := List.map_eq_singleton_iff.mp (Option.some.inj order)
        have member : item ∈ ordered.2.orderItems := by
          change item ∈ ordered.2.orderItems.rows
          exact items ▸ List.mem_singleton_self item
        have news : item ∉ saleShop.orderItems := by
          have none : saleShop.orderItems.rows.length = 0 := by decide +kernel
          intro old
          rw [List.length_eq_zero_iff] at none
          change item ∈ saleShop.orderItems.rows at old
          rw [none] at old
          exact List.not_mem_nil old
        exact ⟨ordered.1, ordered.2, item, rfl, member, about,
          placed _ _ _ _ done item member news about⟩

/-! ### Order totals -/

/-- Every order costs what its stored items are worth, and that is a positive amount
of 64 bits. -/
def Database.Totalled (db : Database) : Prop :=
  ∀ id order, db.orders.find? id = some order → order.totalAmountMinor = db.itemsCharge id ∧
    0 < order.totalAmountMinor ∧ order.totalAmountMinor ≤ maxInt64

private theorem submitOrder_priced {digest : Int → Int → List OrderItemInput → String}
    {orderNo : String}
    {paymentTimeout : Int} {now : Time} {request : CreateOrderReq} {order : Order}
    (done : submitOrder digest orderNo paymentTimeout now request db = .ok (order, result)) :
    (result = db ∧ order ∈ db.orders ∧ (db.getOrderByUserIdempotency request.userID
      (trimSpace request.idempotencyKey)).isSome = true) ∨
    ∃ args, args.items = sortItems request.items ∧ OrderPriced db args order result := by
  unfold submitOrder at done
  obtain ⟨⟨key, items⟩, valid, done⟩ := bind_eq_ok.mp done
  obtain ⟨rfl, rfl, _⟩ := CreateOrderReq.validate_eq valid
  dsimp only at done
  unfold createOrder at done
  split at done
  · next placed =>
      cases done
      rcases placeOrder_priced placed with replayed | priced
      · exact Or.inl replayed
      · exact Or.inr ⟨_, rfl, priced⟩
  · split at done
    · cases done
    · split at done
      · left
        obtain ⟨existing, known, done⟩ := bind_eq_ok.mp done
        obtain ⟨replayed, replay, done⟩ := bind_eq_ok.mp done
        cases pure_eq_ok.mp done
        cases replayOrder_same replay
        have named := found_eq_ok.mp known
        refine ⟨rfl, List.mem_of_find?_eq_some named, ?_⟩
        rw [named]
        rfl
      · cases done

private theorem itemsCharge_kept {operation : Operation} (reached : Reached db) {id : Int}
    {order : Order} (present : db.orders.find? id = some order) :
    (next operation db).itemsCharge id = db.itemsCharge id := by
  have booked := next_booked operation reached.valid.sound
  refine Table.total_eq_of_mem ?_
  intro item heavy
  have own : item.orderId = id := by
    by_contra other
    exact heavy (if_neg other)
  exact booked.orderItems present own

private theorem Database.Totalled.kept {operation : Operation} (totalled : db.Totalled)
    (reached : Reached db) {id : Int} {order later : Order}
    (present : db.orders.find? id = some order)
    (after : (next operation db).orders.find? id = some later) :
    later.totalAmountMinor = (next operation db).itemsCharge id ∧
      0 < later.totalAmountMinor ∧ later.totalAmountMinor ≤ maxInt64 := by
  obtain ⟨last, found, same⟩ := (next_carried operation reached.valid.sound).orders present
  rw [after] at found
  cases found
  rw [itemsCharge_kept reached present, same.total]
  exact totalled id order present

private theorem itemsCharge_next (tidy : db.ItemsTidy) : db.itemsCharge db.orders.next = 0 :=
  Table.total_eq_zero (fun _ member => if_neg (tidy.not_next member))

private theorem OrderPriced.totalled {args : CreateOrderArgs} {order : Order}
    (priced : OrderPriced db args order result) (tidy : db.ItemsTidy) :
    result.orders.find? order.id = some order ∧
      order.totalAmountMinor = result.itemsCharge order.id := by
  have key : order.id = db.orders.next := by
    rw [priced.placed.2]
    rfl
  refine ⟨?_, ?_⟩
  · rw [priced.placed.1, Table.find?_insert, key, Function.update_self, ← priced.placed.2]
  · have charge := priced.charge
    rw [key, itemsCharge_next tidy, Int.zero_add] at charge
    rw [key, charge]

private theorem Database.Totalled.step (totalled : db.Totalled) (reached : Reached db)
    (operation : Operation) : (next operation db).Totalled := by
  intro id later after
  cases present : db.orders.find? id with
  | some order => exact totalled.kept reached present after
  | none =>
      -- Only a placement adds an order.
      cases creates : operation.createsOrder with
      | false =>
          obtain ⟨order, before, _⟩ := (next_booked operation reached.valid.sound).orders_origin
            (next_sameOrders creates) after
          rw [show db.orders.find? id = some order from before] at present
          cases present
      | true =>
          cases operation with
          | createOrder digest orderNo paymentTimeout now request =>
              rcases commit_cases (execute (.createOrder digest orderNo paymentTimeout now request))
                db with same | done
              · rw [next, same, present] at after
                cases after
              · obtain ⟨⟨order, result⟩, body, stored⟩ := map_eq_ok.mp done
                rw [next, ← stored] at after ⊢
                rcases submitOrder_priced body with ⟨rfl, _, _⟩ | ⟨args, _, priced⟩
                · rw [present] at after
                  cases after
                · obtain ⟨added, total⟩ := priced.totalled reached.valid.tidy
                  have here : id = order.id := by
                    by_contra other
                    rw [priced.placed.1, Table.find?_insert, Function.update_of_ne] at after
                    · rw [present] at after
                      cases after
                    · intro same
                      apply other
                      rw [same, priced.placed.2]
                      rfl
                  subst here
                  rw [added] at after
                  cases after
                  exact ⟨total, priced.positive, priced.fits⟩
          | _ => cases creates

private theorem Reached.totalled (reached : Reached db) : db.Totalled := by
  refine Reachable.invariant (motive := Database.Totalled) ?_ ?_ reached
  · intro start initial id order present
    rw [Table.find?_of_empty initial.noOrders] at present
    cases present
  · intro state operation earlier totalled
    exact totalled.step earlier operation

private theorem charges_sortItems (db : Database) (items : List OrderItemInput) :
    (db.charges (sortItems items)).Perm (db.charges items) :=
  (List.perm_insertionSort _ items).filterMap _

/-- An accepted total is the sum of the catalogue's lines, so none of their parts is
beyond 64 bits. -/
theorem OrderPriced.part_le {args : CreateOrderArgs} {order : Order} {part : List Int}
    {items : List OrderItemInput} (priced : OrderPriced db args order result)
    (same : args.items = sortItems items) (inside : part.Subperm (db.charges items)) :
    part.sum ≤ maxInt64 := by
  have sorted : (db.charges (sortItems args.items)).Perm (db.charges items) := by
    rw [same]
    exact (charges_sortItems db _).trans (charges_sortItems db items)
  obtain ⟨chosen, reordered, sublist⟩ := inside
  have lines : ∀ line ∈ db.charges items, 0 ≤ line := fun line member =>
    priced.lines line (sorted.mem_iff.mpr member)
  calc part.sum = chosen.sum := reordered.sum_eq.symm
    _ ≤ (db.charges items).sum := sublist.sum_le_sum lines
    _ = order.totalAmountMinor := by rw [priced.total, sorted.sum_eq]
    _ ≤ maxInt64 := priced.fits

/-- An order that is answered costs exactly what its stored items are worth; when any
part of the lines is beyond 64 bits, in any order, nothing is placed. -/
theorem order_total_exact (reached : Reached db)
    (digest : Int → Int → List OrderItemInput → String) (orderNo : String) (paymentTimeout : Int)
    (now : Time) (request : CreateOrderReq) :
    (∀ order result,
      submitOrder digest orderNo paymentTimeout now request db = .ok (order, result) →
        result.orders.find? order.id = some order ∧
        order.totalAmountMinor = result.orderItems.total (fun item =>
          if item.orderId = order.id then item.unitPriceMinor * item.quantity else 0) ∧
        0 < order.totalAmountMinor ∧ order.totalAmountMinor < 2 ^ 63) ∧
    ∀ part : List Int, part.Subperm (db.charges request.items) → 2 ^ 63 ≤ part.sum →
      db.getOrderByUserIdempotency request.userID (trimSpace request.idempotencyKey) = none →
      (∃ fault, submitOrder digest orderNo paymentTimeout now request db = .error fault) ∧
        next (.createOrder digest orderNo paymentTimeout now request) db = db := by
  have bound : maxInt64 < 2 ^ 63 := by decide
  constructor
  · intro order result done
    rcases submitOrder_priced done with ⟨rfl, member, _⟩ | ⟨args, _, priced⟩
    · have present : result.orders.find? order.id = some order := Table.find?_key member
      obtain ⟨total, positive, fits⟩ := reached.totalled order.id order present
      exact ⟨present, total, positive, lt_of_le_of_lt fits bound⟩
    · obtain ⟨present, total⟩ := priced.totalled reached.valid.tidy
      exact ⟨present, total, priced.positive, lt_of_le_of_lt priced.fits bound⟩
  · intro part inside large unused
    cases done : submitOrder digest orderNo paymentTimeout now request db with
    | error fault =>
        refine ⟨⟨fault, rfl⟩, ?_⟩
        have failed : execute (.createOrder digest orderNo paymentTimeout now request) db =
            .error fault := by
          rw [execute, done]
          rfl
        exact commit_of_error failed
    | ok placed =>
        exfalso
        rcases submitOrder_priced done with ⟨_, _, known⟩ | ⟨args, same, priced⟩
        · rw [unused] at known
          cases known
        · have within := priced.part_le same inside
          omega

def goldShop : Database :=
  next (.createProduct
    { categoryID := 1
      name := "gold"
      price := 9223372036854775807 / 100
      discount := 1
      coverImage := "" } 10 .onShelf) smallShop

def orderGoldAndTea : CreateOrderReq :=
  { userID := 1
    addressID := 1
    items := [{ productID := 2, quantity := 1 }, { productID := 1, quantity := 1 }]
    idempotencyKey := "order-key-1" }

/-- Each line fits, but their sum does not. -/
theorem order_total_exact_goldShop :
    goldShop.charges orderGoldAndTea.items = [9223372036854775807, 100] ∧
      next (.createOrder (fun _ _ _ => "digest") "ORD1" 0 0 orderGoldAndTea) goldShop =
        goldShop := by
  have reached : Reached goldShop := ⟨smallShop, [_], smallShop_initial, rfl⟩
  have lines : goldShop.charges orderGoldAndTea.items = [9223372036854775807, 100] := by
    decide +kernel
  refine ⟨lines, ?_⟩
  exact ((order_total_exact reached (fun _ _ _ => "digest") "ORD1" 0 0 orderGoldAndTea).2
    (goldShop.charges orderGoldAndTea.items) (List.Subperm.refl _) (by rw [lines]; decide)
    (Option.isNone_iff_eq_none.mp (by decide +kernel))).2

end Mall
