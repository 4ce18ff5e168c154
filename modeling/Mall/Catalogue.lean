/-
How products are shown: the product reply, the cached product and the browsing
history.

All three start from the stored row.  A cached product keeps its two decimals as
text, and the reply reads them back.
-/

import Mall.Checkout
import Mall.Foundation.Decimal

namespace Mall

open Relational Transactional

/-! ### Products -/

/-- `biz.Product`, with the price in major units. -/
structure BizProduct where
  id : Int
  categoryID : Int
  name : String
  price : ℚ
  discount : ℚ
  stock : Int
  status : ProductStatus
  coverImage : String
  deletedAt : Option Time
deriving DecidableEq

def toBizProduct (product : Product) : BizProduct :=
  { id := product.id
    categoryID := product.categoryId
    name := product.name
    price := Decimal.shift product.priceMinor (-2)
    discount := product.discount
    stock := product.stock
    status := product.status
    coverImage := product.coverImage
    deletedAt := product.deletedAt }

/-- The JSON object that `writeJSONCache` stores; decimals are quoted texts. -/
structure CachedProduct where
  id : Int
  categoryID : Int
  name : String
  price : List Char
  discount : List Char
  stock : Int
  status : ProductStatus
  coverImage : String
  deletedAt : Option Time

def encodeProduct (product : BizProduct) : CachedProduct :=
  { id := product.id
    categoryID := product.categoryID
    name := product.name
    price := Decimal.text product.price
    discount := Decimal.text product.discount
    stock := product.stock
    status := product.status
    coverImage := product.coverImage
    deletedAt := product.deletedAt }

def decodeProduct (cached : CachedProduct) : Option BizProduct := do
  let price ← Decimal.read cached.price
  let discount ← Decimal.read cached.discount
  pure
    { id := cached.id
      categoryID := cached.categoryID
      name := cached.name
      price := price
      discount := discount
      stock := cached.stock
      status := cached.status
      coverImage := cached.coverImage
      deletedAt := cached.deletedAt }

structure ProtoProduct where
  id : Int
  categoryId : Int
  name : String
  price : List Char
  discount : List Char
  effectivePriceMinor : Int
  stock : Int
  status : ProductStatus

def toProtoProduct (product : BizProduct) : Except Fault ProtoProduct := do
  let priceMinor ← productPriceMinor product.price
  let effectiveMinor ← effectivePriceMinor priceMinor product.discount
  pure
    { id := product.id
      categoryId := product.categoryID
      name := product.name
      price := Decimal.text product.price
      discount := Decimal.text product.discount
      effectivePriceMinor := effectiveMinor
      stock := product.stock
      status := product.status }

/-! ### Browsing history -/

structure ProductBrowsingHistory where
  userID : Int
  productID : Int
  lastViewedAt : Time

structure HistoryFilter where
  start : Option Time
  stop : Option Time

/-- The cursor names the last item of the page before. -/
structure Page where
  limit : Nat
  cursor : Option (Time × Int)

structure ListBrowsingHistoryRow where
  view : ProductBrowsingHistory
  name : String
  priceMinor : Int
  discount : ℚ
  coverImage : String
  available : Bool

def historyRow (view : ProductBrowsingHistory) (product : Product) : ListBrowsingHistoryRow :=
  { view := view
    name := product.name
    priceMinor := product.priceMinor
    discount := product.discount
    coverImage := product.coverImage
    available := product.status == .onShelf && product.deletedAt.isNone }

/-- Later views first, and among those of one instant the greater product. -/
def viewedAfter (left right : Time × Int) : Bool :=
  decide (right.1 < left.1) || (decide (left.1 = right.1) && decide (right.2 ≤ left.2))

def historyShown (userID : Int) (retention now : Time) (page : Page) (filter : HistoryFilter)
    (view : ProductBrowsingHistory) : Bool :=
  view.userID == userID && decide (now - retention < view.lastViewedAt) &&
    filter.start.all (fun start => decide (start ≤ view.lastViewedAt)) &&
    filter.stop.all (fun stop => decide (view.lastViewedAt < stop)) &&
    page.cursor.all (fun cursor => !viewedAfter (view.lastViewedAt, view.productID) cursor)

def Database.listBrowsingHistory (db : Database) (views : List ProductBrowsingHistory)
    (userID : Int) (retention now : Time) (page : Page) (filter : HistoryFilter) :
    List ListBrowsingHistoryRow :=
  (((views.filter (historyShown userID retention now page filter)).insertionSort
    (fun left right => viewedAfter (left.lastViewedAt, left.productID)
      (right.lastViewedAt, right.productID))).filterMap
        (fun view => (db.products.find? view.productID).map (historyRow view))).take (page.limit + 1)

structure BrowsingHistoryItem where
  productID : Int
  name : String
  priceMinor : Int
  effectivePriceMinor : Int
  coverImageJSON : String
  available : Bool
  lastViewedAt : Time

def browsingHistoryItem (row : ListBrowsingHistoryRow) : Except Fault BrowsingHistoryItem := do
  let effective ← effectivePriceMinor row.priceMinor row.discount
  pure
    { productID := row.view.productID
      name := row.name
      priceMinor := if row.available then row.priceMinor else 0
      effectivePriceMinor := if row.available then effective else 0
      coverImageJSON := row.coverImage
      available := row.available
      lastViewedAt := row.view.lastViewedAt }

def browsingHistoryItems : List ListBrowsingHistoryRow → Except Fault (List BrowsingHistoryItem)
  | [] => .ok []
  | row :: rest => do
      let item ← browsingHistoryItem row
      let items ← browsingHistoryItems rest
      pure (item :: items)

/-- `BrowsingHistoryRepo.List`: the page and the cursor of the next one. -/
def listHistory (views : List ProductBrowsingHistory) (userID : Int) (retention now : Time)
    (page : Page) (filter : HistoryFilter) (db : Database) :
    Except Fault (List BrowsingHistoryItem × Option (Time × Int)) := do
  let rows := db.listBrowsingHistory views userID retention now page filter
  let shown := rows.take page.limit
  let following := if rows.length > page.limit then
      shown.getLast?.map (fun last => (last.view.lastViewedAt, last.view.productID))
    else none
  let items ← browsingHistoryItems shown
  pure (items, following)

end Mall
