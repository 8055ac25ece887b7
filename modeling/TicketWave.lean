import TicketWave.Library.Runs
import TicketWave.Library.Table
import TicketWave.Library.Sums
import TicketWave.Library.Registry
import TicketWave.Library.Attempt
import TicketWave.Library.Queue
import TicketWave.Library.Heap
import TicketWave.Library.Topic
import TicketWave.Library.Mailbox
import TicketWave.Library.Windows
import TicketWave.Library.Numbers
import TicketWave.Library.Text
import TicketWave.Library.Sorting
import TicketWave.Library.Asking
import TicketWave.Uuid
import TicketWave.Status
import TicketWave.Outbox.Table
import TicketWave.Outbox.Relay
import TicketWave.Outbox.Drain
import TicketWave.Kafka.Message
import TicketWave.Kafka.Producer
import TicketWave.Kafka.Consumer
import TicketWave.Kafka.Delivery
import TicketWave.Kafka.Retries
import TicketWave.Kafka.DeadLetters
import TicketWave.Inventory.Model
import TicketWave.Inventory.Transactions
import TicketWave.Inventory.Queries
import TicketWave.Inventory.Service
import TicketWave.Inventory.SeatSales
import TicketWave.Inventory.Holds
import TicketWave.Inventory.Trace
import TicketWave.Inventory.AllOrNothing
import TicketWave.Inventory.Spelling
import TicketWave.Inventory.SeatEvents
import TicketWave.Inventory.SeatRows
import TicketWave.Inventory.SeatFeed
import TicketWave.Inventory.Census
import TicketWave.Inventory.Sweep
import TicketWave.Payment.Model
import TicketWave.Payment.Receipts
import TicketWave.Payment.Verdicts
import TicketWave.Order.Model
import TicketWave.Order.Service
import TicketWave.Order.Lifecycle
import TicketWave.Order.Ledger
import TicketWave.Order.Idempotency
import TicketWave.Order.Replay
import TicketWave.Order.Comparison
import TicketWave.Order.Trail
import TicketWave.Order.Validation
import TicketWave.Order.Cancellation
import TicketWave.Order.Relayed
import TicketWave.Order.Grounds
import TicketWave.Order.Verdicts
import TicketWave.Saga.System
import TicketWave.Saga.Safety
import TicketWave.Saga.Notices
import TicketWave.Analytics.Projection
import TicketWave.Analytics.Totals
import TicketWave.Analytics.ReadModel
import TicketWave.Analytics.Queries
import TicketWave.Notification.Email
import TicketWave.Notification.Handler
import TicketWave.Notification.Duplicates
import TicketWave.Notification.Delivery
import TicketWave.Auth.Model
import TicketWave.Auth.Service
import TicketWave.Auth.Rotation
import TicketWave.Auth.Theft
import TicketWave.Auth.Owners
import TicketWave.RateLimit.Limiter
import TicketWave.RateLimit.Bound
import TicketWave.Gateway.Respond
import TicketWave.Gateway.Orders
import TicketWave.Gateway.Allow
import TicketWave.Gateway.Metrics
import TicketWave.Gateway.Analytics
import TicketWave.SeatMap.Page
import TicketWave.Gateway.Api
import TicketWave.Gateway.Guards
import TicketWave.Gateway.Secrets
import TicketWave.Gateway.Limits
import TicketWave.Gateway.AccessTokens
import TicketWave.Realtime.Hub
import TicketWave.Realtime.Subscribers
import TicketWave.Realtime.Bookkeeping
import TicketWave.Realtime.Viewer
import TicketWave.Realtime.Feed
import TicketWave.Realtime.Resync
import TicketWave.Web.Format
import TicketWave.Web.Checkout
import TicketWave.Web.Client
import TicketWave.Web.Browser
import TicketWave.Web.Tabs
import TicketWave.Web.Answers
import TicketWave.Web.SignIn
import TicketWave.Web.Promises
import TicketWave.Web.SingleFlight
import TicketWave.Web.Reactions
import TicketWave.SeatMap.Identity
import TicketWave.SeatMap.Convergence
import TicketWave.Checkout.Page
import TicketWave.Checkout.Keeper
import TicketWave.Checkout.Requests
import TicketWave.Checkout.Keys
import TicketWave.Checkout.EventPage
import TicketWave.Web.Send
