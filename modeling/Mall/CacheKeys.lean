/-
The keys of every cached read, and of the generations that they carry.

A read that finds no generation has no key: it goes to the database.  The parts of a key
are joined with colons and not escaped, also where a part is a text of the caller.
-/

import Mall.Caching

namespace Mall

/-- The cached reads.  The top of the category tree is listed under parent zero, and a
list of events is that of one status or of all. -/
inductive EntryKey where
  | product (id : Int)
  | products (limit offset : Int)
  | productsByCategory (categoryID limit offset : Int)
  | category (id : Int)
  | categories (parentID limit offset : Int)
  | event (id : Int)
  | events (status : Option Int) (limit offset : Int)
  | user (id : Int)
  | shippingAddress (userID addressID : Int)
  | shippingAddresses (userID limit offset : Int)
  | ordersByUser (userID limit offset : Int)
  | ongoingOrdersByUser (userID limit offset : Int)
  | payment (id : Int)
  | latestPaymentByOrder (orderID : Int)
  | activePaymentByOrderMethod (orderID : Int) (method : String)
  | paymentByOutTradeNo (outTradeNo : String)
deriving DecidableEq

inductive GenerationKey where
  | product (id : Int)
  | products
  | productsByCategory (categoryID : Int)
  | category (id : Int)
  | categories
  | event (id : Int)
  | events
  | user (id : Int)
  | shippingAddress (userID addressID : Int)
  | shippingAddresses (userID : Int)
  | ordersByUser (userID : Int)
  | ongoingOrdersByUser (userID : Int)
  | payment (id : Int)
  | paymentsByOrder (orderID : Int)
  | paymentByOutTradeNo (outTradeNo : String)

/-- A negative generation stands for a read of it that failed. -/
def generationCacheKey (generation : Int) (key : List Char) : List Char :=
  if generation < 0 then [] else key

def generatedEntityCacheKey (generation : Int) (baseKey : List Char) : List Char :=
  if generation < 0 then []
  else redisKey [.text (String.ofList baseKey), .text "g", .number generation]

def categoryListCacheKey (parentID limit offset : Int) : List Char :=
  redisKey [.text "category", .text "list", .number parentID, .text "limit", .number limit,
    .text "offset", .number offset]

def eventListPresenceCacheKey (generation : Int) (status : Option Int) (limit offset : Int) :
    List Char :=
  match status with
  | none =>
      redisKey [.text "event", .text "list", .number generation, .text "all", .number limit,
        .number offset]
  | some status =>
      redisKey [.text "event", .text "list", .number generation, .text "status", .number status,
        .number limit, .number offset]

def EntryKey.cacheKey : EntryKey → Int → List Char
  | .product id, generation =>
      generationCacheKey generation
        (redisKey [.text "product", .number id, .text "g", .number generation])
  | .products limit offset, generation =>
      generationCacheKey generation
        (redisKey [.text "product", .text "list", .number generation, .number limit,
          .number offset])
  | .productsByCategory categoryID limit offset, generation =>
      generationCacheKey generation
        (redisKey [.text "product", .text "category", .number categoryID, .number generation,
          .number limit, .number offset])
  | .category id, generation =>
      generatedEntityCacheKey generation (redisKey [.text "category", .number id])
  | .categories parentID limit offset, generation =>
      generatedEntityCacheKey generation (categoryListCacheKey parentID limit offset)
  | .event id, generation =>
      generatedEntityCacheKey generation (redisKey [.text "event", .number id])
  | .events status limit offset, generation =>
      generationCacheKey generation (eventListPresenceCacheKey generation status limit offset)
  | .user id, generation =>
      generatedEntityCacheKey generation (redisKey [.text "user", .number id])
  | .shippingAddress userID addressID, generation =>
      generatedEntityCacheKey generation
        (redisKey [.text "shipping_addr", .text "user", .number userID, .number addressID])
  | .shippingAddresses userID limit offset, generation =>
      generatedEntityCacheKey generation
        (redisKey [.text "shipping_addr", .text "user", .number userID, .text "limit",
          .number limit, .text "offset", .number offset])
  | .ordersByUser userID limit offset, generation =>
      generationCacheKey generation
        (redisKey [.text "order", .text "user", .number userID, .number generation,
          .number limit, .number offset])
  | .ongoingOrdersByUser userID limit offset, generation =>
      generationCacheKey generation
        (redisKey [.text "order", .text "user", .text "ongoing", .number userID,
          .number generation, .number limit, .number offset])
  | .payment id, generation =>
      generationCacheKey generation
        (redisKey [.text "payment", .number id, .text "g", .number generation])
  | .latestPaymentByOrder orderID, generation =>
      generationCacheKey generation
        (redisKey [.text "payment", .text "order", .number orderID, .text "g",
          .number generation])
  | .activePaymentByOrderMethod orderID method, generation =>
      generationCacheKey generation
        (redisKey [.text "payment", .text "order", .number orderID, .text "active",
          .text method, .text "g", .number generation])
  | .paymentByOutTradeNo outTradeNo, generation =>
      generationCacheKey generation
        (redisKey [.text "payment", .text "out_trade_no", .text outTradeNo, .text "g",
          .number generation])

def GenerationKey.print : GenerationKey → List Char
  | .product id => redisKey [.text "product", .number id, .text "gen"]
  | .products => "product:list:gen".toList
  | .productsByCategory categoryID =>
      redisKey [.text "product", .text "category", .number categoryID, .text "gen"]
  | .category id => redisKey [.text "category", .number id, .text "gen"]
  | .categories => "category:list:gen".toList
  | .event id => redisKey [.text "event", .number id, .text "gen"]
  | .events => "event:list:gen".toList
  | .user id => redisKey [.text "user", .number id, .text "gen"]
  | .shippingAddress userID addressID =>
      redisKey [.text "shipping_addr", .text "user", .number userID, .number addressID,
        .text "gen"]
  | .shippingAddresses userID =>
      redisKey [.text "shipping_addr", .text "user", .number userID, .text "list:gen"]
  | .ordersByUser userID => redisKey [.text "order", .text "user", .number userID, .text "gen"]
  | .ongoingOrdersByUser userID =>
      redisKey [.text "order", .text "user", .text "ongoing", .number userID, .text "gen"]
  | .payment id => redisKey [.text "payment", .number id, .text "gen"]
  | .paymentsByOrder orderID =>
      redisKey [.text "payment", .text "order", .number orderID, .text "gen"]
  | .paymentByOutTradeNo outTradeNo =>
      redisKey [.text "payment", .text "out_trade_no", .text outTradeNo, .text "gen"]

def CacheKey.entry : CacheKey → EntryKey
  | .product id => .product id
  | .products limit offset => .products limit offset
  | .productsByCategory categoryID limit offset => .productsByCategory categoryID limit offset
  | .ordersByUser userID limit offset => .ordersByUser userID limit offset
  | .ongoingOrdersByUser userID limit offset => .ongoingOrdersByUser userID limit offset
  | .payment id => .payment id
  | .latestPaymentByOrder orderID => .latestPaymentByOrder orderID
  | .activePaymentByOrderMethod orderID method => .activePaymentByOrderMethod orderID method
  | .paymentByOutTradeNo outTradeNo => .paymentByOutTradeNo outTradeNo

end Mall
