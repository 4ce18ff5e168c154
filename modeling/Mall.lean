/-
Model and verification of the mall: checkout, payments, refunds and shipping.
-/

import Mall.Foundation.Table
import Mall.Foundation.Execution
import Mall.Text
import Mall.Faults
import Mall.Money
import Mall.Records
import Mall.Database
import Mall.Decisions
import Mall.Checkout
import Mall.Payments
import Mall.Settlement
import Mall.Fulfillment
import Mall.System
import Mall.Alipay
import Mall.RefundRuns
import Mall.Journal
import Mall.JournalHistory
import Mall.Ledger
import Mall.LedgerSound
import Mall.LedgerHistory
import Mall.Abstraction
import Mall.Refinement.Paths
import Mall.Refinement.Checkout
import Mall.Refinement.Payments
import Mall.Refinement.Cancellation
import Mall.Refinement.Refunds
import Mall.Refinement.Answers
import Mall.Refinement.Administration
import Mall.Refinement.System
import Mall.Refinement.Entries
import Mall.Refinement.Journal
import Mall.Refinement.RefundRuns
import Mall.Guarantees.Stock
import Mall.Guarantees.Funding
import Mall.Guarantees.Cancellation
import Mall.Guarantees.Evidence
import Mall.Guarantees.Settlement
import Mall.Guarantees.ProviderRefunds
import Mall.Guarantees.RefundRuns
import Mall.Guarantees.Histories
import Mall.Guarantees.Shipping
import Mall.Guarantees.Review
import Mall.Guarantees.OpenCases
import Mall.Guarantees.Redelivery
import Mall.Workers
import Mall.Guarantees.StaleRetries
import Mall.Foundation.Decimal
import Mall.Refinement.Orders
import Mall.OrderRequests
import Mall.Guarantees.OrderCreation
import Mall.PaymentRuns
import Mall.Refinement.PaymentRows
import Mall.Refinement.PaymentWorld
import Mall.Guarantees.Prepay
import Mall.Catalogue
import Mall.Refinement.Pricing
import Mall.Guarantees.Pricing
import Mall.ClientIP
import Mall.Guarantees.ClientIP
import Mall.Sessions
import Mall.Guarantees.Sessions
import Mall.Foundation.GenerationCache
import Mall.Foundation.GenerationCacheDebts
import Mall.Foundation.GenerationCacheReads
import Mall.Caching
import Mall.Refinement.Caching
import Mall.Guarantees.Caching
import Mall.Callbacks
import Mall.Refinement.Queueing
import Mall.Refinement.Footprints
import Mall.Refinement.Callbacks
import Mall.Guarantees.Callbacks
import Mall.Foundation.BitFields
import Mall.Identifiers
import Mall.Guarantees.Identifiers
import Mall.Guarantees.Amounts
import Mall.Foundation.CellRate
import Mall.LoginLimit
import Mall.Guarantees.LoginLimit
import Mall.Foundation.Keyset
import Mall.Overdue
import Mall.Guarantees.Overdue
import Mall.Community
import Mall.Paging
import Mall.Guarantees.Paging
import Mall.CallbackLimiter
import Mall.Guarantees.CallbackLimiter
import Mall.Foundation.Utf8
import Mall.OpenApi.Summaries
import Mall.Foundation.Entries
import Mall.OpenApi.Document
import Mall.OpenApi.Keywords
import Mall.Guarantees.SchemaKeywords
import Mall.CacheKeys
import Mall.Guarantees.CacheKeys
import Mall.RefundQueue
import Mall.Refinement.RefundRows
import Mall.Refinement.RefundQueue
import Mall.Guarantees.RefundQueue
import Mall.Foundation.FixedWindow
import Mall.WriteLimit
import Mall.Guarantees.WriteLimit
import Mall.BrowsingHistory
import Mall.Guarantees.DocumentEdits
