/-
The Alipay adapter's query.

The client library and its decimal parser are outside the program.  They are
parameters here: the client is the function that answers a query.
-/

import Mall.Checkout
import Mall.Decisions
import Mall.Foundation.Decimal

namespace Mall

open Transactional

structure PaymentQueryRequest where
  expectedProviderAccount : String
  method : PaymentMethod
  outTradeNo : String
  transactionID : String

/-- The fields that a query sets.  A field is set only when its text is not empty. -/
structure TradeQueryBody where
  outTradeNo : Option String
  tradeNo : Option String

structure TradeQueryRsp where
  statusCode : Nat
  errorCode : String
  errorMessage : String
  outTradeNo : String
  tradeNo : String
  tradeStatus : String
  totalAmount : String

structure AlipayClient where
  /-- Application, environment and token, as one text. -/
  providerAccount : String
  tradeQuery : TradeQueryBody → Except Fault TradeQueryRsp

structure AlipayPaymentAdapter where
  client : Option AlipayClient
  newFromString : String → Option ℚ

def alipayCodeTradeNotExist : String := "ACQ.TRADE_NOT_EXIST"

/-- `StringFixed`: rounded, with exactly the given number of digits behind the point. -/
def Decimal.stringFixed (value : ℚ) (places : Nat) : String :=
  let units := (Decimal.round value places * (10 ^ places : Nat)).num
  String.ofList ((if units < 0 then ['-'] else []) ++
    Nat.toDigits 10 (units.natAbs / 10 ^ places) ++
    if places = 0 then [] else '.' :: Decimal.fraction places (units.natAbs % 10 ^ places))

def fenToYuan (amount : Int) : String :=
  Decimal.stringFixed (Decimal.shift amount (-2)) 2

def yuanToFen (newFromString : String → Option ℚ) (value : String) : Except Fault Int := do
  let amount ← found (newFromString value) (Fault.plain ("can't convert " ++ value ++ " to decimal"))
  let minor := Decimal.shift amount 2
  require (minor = Decimal.truncate minor) (Fault.plain "amount has sub-minor precision")
  pure (Decimal.intPart minor)

def mapAlipayTradeState (state : String) : TradeState × String :=
  match toUpper state with
  | "TRADE_SUCCESS" | "TRADE_FINISHED" => (.success, state)
  | "WAIT_BUYER_PAY" => (.notPay, state)
  | "TRADE_CLOSED" => (.closed, state)
  | _ => (.unspecified, state)

def readTradeQuery (newFromString : String → Option ℚ) (req : PaymentQueryRequest)
    (response : TradeQueryRsp) : Except Fault PaymentQueryResult :=
  if response.statusCode ≠ 200 then
    if response.errorCode = alipayCodeTradeNotExist then .error errProviderOrderNotExist
    else .error (Fault.plain
      ("alipay trade query failed: " ++ response.errorCode ++ " " ++ response.errorMessage))
  else do
    let amount ← yuanToFen newFromString response.totalAmount
    let (state, description) := mapAlipayTradeState response.tradeStatus
    pure
      { method := req.method
        outTradeNo := response.outTradeNo
        transactionID := response.tradeNo
        tradeState := state
        tradeStateDesc := description
        rawTradeState := response.tradeStatus
        amount := amount
        currency := defaultCurrency }

def AlipayPaymentAdapter.query (adapter : AlipayPaymentAdapter) (req : PaymentQueryRequest) :
    Except Fault PaymentQueryResult := do
  let client ← found adapter.client (paymentProviderNotConfigured "alipay")
  require (req.expectedProviderAccount = "" ∨
      req.expectedProviderAccount = client.providerAccount)
    (Fault.plain "alipay query account or environment differs from signed payment parameters")
  let response ← client.tradeQuery
    { outTradeNo := nullable req.outTradeNo
      tradeNo := nullable req.transactionID }
  readTradeQuery adapter.newFromString req response

theorem AlipayPaymentAdapter.query_eq_ok {adapter : AlipayPaymentAdapter}
    {req : PaymentQueryRequest} {result : PaymentQueryResult}
    (queried : adapter.query req = .ok result) :
    result.method = req.method ∧ result.currency = defaultCurrency ∧
      result.tradeState = (mapAlipayTradeState result.rawTradeState).1 := by
  unfold AlipayPaymentAdapter.query at queried
  obtain ⟨client, _, queried⟩ := bind_eq_ok.mp queried
  obtain ⟨_, _, queried⟩ := bind_eq_ok.mp queried
  obtain ⟨response, _, queried⟩ := bind_eq_ok.mp queried
  unfold readTradeQuery at queried
  split at queried
  · split at queried <;> cases queried
  · obtain ⟨amount, _, queried⟩ := bind_eq_ok.mp queried
    cases pure_eq_ok.mp queried
    exact ⟨rfl, rfl, rfl⟩

end Mall
