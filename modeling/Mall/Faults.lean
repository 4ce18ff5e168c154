/-
The errors a request can end with.

Domain errors carry their status code, reason and message; the rest are what
the database driver reports.
-/

import Mathlib.Logic.Basic

namespace Mall

inductive Fault where
  | domain (code : Nat) (reason message : String)
  | noRows
  | uniqueViolation (index : String)
  | foreignKeyViolation
  | checkViolation (constraint : String)
  | outOfRange
  | plain (message : String)
deriving DecidableEq, Repr

namespace Fault

def badRequest (reason message : String) : Fault := .domain 400 reason message

def unauthorized (reason message : String) : Fault := .domain 401 reason message

def forbidden (reason message : String) : Fault := .domain 403 reason message

def notFound (reason message : String) : Fault := .domain 404 reason message

def conflict (reason message : String) : Fault := .domain 409 reason message

def internalServer (reason message : String) : Fault := .domain 500 reason message

def serviceUnavailable (reason message : String) : Fault := .domain 503 reason message

end Fault

def errOrderNotFound := Fault.notFound "ORDER_NOT_FOUND" "order not found"

def errAddressNotFound := Fault.notFound "ADDRESS_NOT_FOUND" "shipping address not found"

def errProductNotFound := Fault.notFound "PRODUCT_NOT_FOUND" "product not found"

def errInsufficientStock := Fault.conflict "INSUFFICIENT_STOCK" "insufficient product stock"

def errOrderCannotCancel :=
  Fault.conflict "ORDER_CANNOT_CANCEL" "order cannot be cancelled in its current state"

def errOrderHasActivePayment :=
  Fault.conflict "ORDER_HAS_ACTIVE_PAYMENT" "close the active payment before cancelling the order"

def errOrderAlreadyPaid :=
  Fault.conflict "ORDER_ALREADY_PAID" "paid order must use the refund flow"

def errOrderNoCollision := Fault.internalServer "ORDER_NO_COLLISION" "order number already exists"

def errOrderInputInvalid := Fault.badRequest "ORDER_INPUT_INVALID" "order items are invalid"

def errOrderTooManyItems :=
  Fault.badRequest "ORDER_TOO_MANY_ITEMS" "order items exceed the per-order limit"

def errOrderQuantityInvalid :=
  Fault.badRequest "ORDER_ITEM_QUANTITY_INVALID" "order item quantity is out of range"

def errDuplicateOrderItem :=
  Fault.badRequest "DUPLICATE_ORDER_ITEM" "duplicate product in order items"

def errOrderAmountInvalid :=
  Fault.conflict "ORDER_AMOUNT_INVALID" "order total must be greater than zero"

def errOrderNotExpired :=
  Fault.conflict "ORDER_NOT_EXPIRED" "order payment window has not expired"

def errIdempotencyKeyRequired :=
  Fault.badRequest "IDEMPOTENCY_KEY_REQUIRED" "idempotency_key is required"

def errIdempotencyKeyInvalid :=
  Fault.badRequest "IDEMPOTENCY_KEY_INVALID" "idempotency_key must be 8 to 64 characters"

def errIdempotencyKeyConflict :=
  Fault.conflict "IDEMPOTENCY_KEY_CONFLICT"
    "idempotency_key was already used for a different order request"

def errIdempotencyKeyReused :=
  Fault.conflict "IDEMPOTENCY_KEY_REUSED"
    "idempotency_key was already used for a cancelled order; submit again with a new key"

def errProductPriceInvalid :=
  Fault.badRequest "PRODUCT_PRICE_INVALID"
    "price must be non-negative, use at most two decimal places and fit int64 minor units"

def errEffectivePriceInvalid :=
  Fault.badRequest "PRODUCT_PRICE_INVALID" "price must be non-negative"

def errProductDiscountInvalid :=
  Fault.badRequest "PRODUCT_DISCOUNT_INVALID"
    "discount must be in (0,1] with at most two decimal places"

def errStockAdjustmentInvalid :=
  Fault.badRequest "STOCK_ADJUSTMENT_INVALID"
    "positive product/actor IDs, nonzero delta, reason and 8-64 byte idempotency key are required"

def errStockAdjustmentConflict :=
  Fault.conflict "STOCK_ADJUSTMENT_CONFLICT"
    "adjustment would put stock below zero or exceed 2147483647 including restorable order stock"

def errPaymentConflict :=
  Fault.conflict "PAYMENT_CONFLICT" "an active payment already exists"

def errPaymentNotFound := Fault.notFound "PAYMENT_NOT_FOUND" "payment not found"

def errPaymentStateConflict :=
  Fault.conflict "PAYMENT_STATE_CONFLICT"
    "payment state transition conflicts with the current state"

def errPaymentNotificationBinding :=
  Fault.conflict "PAYMENT_NOTIFICATION_BINDING_MISMATCH"
    "payment notification does not match reconciliation job"

def errPaymentNotificationState :=
  Fault.conflict "PAYMENT_NOTIFICATION_STATE_CONFLICT"
    "payment notification state transition conflicted"

def errPaymentNotificationIdentity :=
  Fault.conflict "PAYMENT_NOTIFICATION_IDENTITY_CONFLICT"
    "payment notification identity conflicts with an existing notification"

def errPaymentPrepayInProgress :=
  Fault.conflict "PAYMENT_PREPAY_IN_PROGRESS" "payment prepay is already in progress"

def errPaymentReconciliationRequired :=
  Fault.conflict "PAYMENT_RECONCILIATION_REQUIRED" "payment requires reconciliation"

def errOrderExpired := Fault.conflict "ORDER_EXPIRED" "order payment window has expired"

def errPaymentMethodInvalid :=
  Fault.badRequest "PAYMENT_METHOD_INVALID" "payment method must be provider:product"

def errPaymentTransactionIdRequired :=
  Fault.badRequest "PAYMENT_TRANSACTION_ID_REQUIRED" "successful payment requires transaction id"

def errOutRefundNoRequired :=
  Fault.badRequest "OUT_REFUND_NO_REQUIRED" "out_refund_no is required"

def errPaymentRefundFailed :=
  Fault.domain 502 "PAYMENT_REFUND_FAILED" "payment provider did not confirm refund"

def errPaymentRefundNotSupported :=
  Fault.domain 501 "PAYMENT_REFUND_NOT_SUPPORTED" "provider does not support refund"

def errProviderOrderNotExist :=
  Fault.notFound "PAYMENT_PROVIDER_ORDER_NOT_EXIST" "provider has no record of this trade"

def paymentProviderNotConfigured (provider : String) : Fault :=
  Fault.serviceUnavailable "PAYMENT_PROVIDER_NOT_AVAILABLE"
    (provider ++ " payment provider is not configured")

def errReconciliationConflict :=
  Fault.conflict "RECONCILIATION_CONFLICT"
    "reconciliation changed or unresolved financial facts remain; reload the case"

def errReconciliationInvalid :=
  Fault.badRequest "RECONCILIATION_INVALID"
    "positive payment/version, action, idempotency key, reason and resolution evidence are required"

def errReconciliationForbidden :=
  Fault.forbidden "FORBIDDEN" "reconciliation requires an administrator"

def errUnauthorized := Fault.unauthorized "UNAUTHORIZED" "authentication is required"

def errOrderFulfillmentConflict :=
  Fault.conflict "ORDER_FULFILLMENT_CONFLICT" "order cannot perform this fulfillment transition"

def errShipForbidden :=
  Fault.forbidden "FORBIDDEN" "administrator role is required to ship an order"

def errOrderFulfillmentInvalid :=
  Fault.badRequest "ORDER_FULFILLMENT_INVALID"
    "positive order ID, action, reason and 8-64 byte idempotency key are required"

def errOrderShipmentInvalid :=
  Fault.badRequest "ORDER_SHIPMENT_INVALID" "carrier and tracking number are required"

def errCompletionShipment :=
  Fault.badRequest "ORDER_FULFILLMENT_INVALID" "completion cannot change shipment information"

end Mall
