import FoodDelivery.Lib.Table
import FoodDelivery.Lib.Runs
import FoodDelivery.Lib.Program
import FoodDelivery.Orders.Model
import FoodDelivery.Orders.StateMachine
import FoodDelivery.Orders.Checkout
import FoodDelivery.Orders.Service
import FoodDelivery.Orders.Consumer
import FoodDelivery.Lib.Outcomes
import FoodDelivery.Orders.Actions
import FoodDelivery.Orders.RowRaces
import FoodDelivery.Orders.PaidOrders
import FoodDelivery.Orders.RefundLedger
import FoodDelivery.Payments.Model
import FoodDelivery.Payments.Providers
import FoodDelivery.Payments.Consumer
import FoodDelivery.Payments.Webhook
import FoodDelivery.Payments.Growth
import FoodDelivery.Payments.StatusOrder
import FoodDelivery.Lib.Histories
import FoodDelivery.Payments.Crashes
import FoodDelivery.Payments.RefundTruth
import FoodDelivery.Payments.Sessions
import FoodDelivery.Payments.Deliveries
import FoodDelivery.Payments.RefundRaces
import FoodDelivery.Payments.RefundCommands
import FoodDelivery.Payments.Messages
import FoodDelivery.Platform.Model
import FoodDelivery.Orders.UnpaidEndings
import FoodDelivery.Platform.LatePayment
import FoodDelivery.Lib.Totals
import FoodDelivery.Restaurants.Hours
import FoodDelivery.Restaurants.Inventory
import FoodDelivery.Restaurants.Zones
import FoodDelivery.Restaurants.Service
import FoodDelivery.Restaurants.Internal
import FoodDelivery.Restaurants.Menu
import FoodDelivery.Restaurants.Approval
import FoodDelivery.Restaurants.Reservations
import FoodDelivery.Orders.Cart
import FoodDelivery.Checkout.Model
import FoodDelivery.Checkout.Stock
import FoodDelivery.Checkout.Conservation
import FoodDelivery.Checkout.Faults
import FoodDelivery.Checkout.AllOrNothing
import FoodDelivery.Deliveries.Model
import FoodDelivery.Deliveries.Consumer
import FoodDelivery.Deliveries.Runs
import FoodDelivery.Deliveries.Lifecycle
import FoodDelivery.Deliveries.ActiveDrivers
import FoodDelivery.Lib.Ranks
import FoodDelivery.Shared.Outbox
import FoodDelivery.Shared.OutboxBacklog
import FoodDelivery.Lib.Slots
import FoodDelivery.Shared.OutboxRelays
import FoodDelivery.Shared.Messaging
import FoodDelivery.Handover.Agreement
import FoodDelivery.Orders.AuditTrail
import FoodDelivery.Orders.KitchenNotices
import FoodDelivery.Orders.DeliveryEvents
import FoodDelivery.Lib.Mirrors
import FoodDelivery.Notifications.Contacts
import FoodDelivery.Users.Model
import FoodDelivery.Users.Profile
import FoodDelivery.Users.Service
import FoodDelivery.ReadModels.Addresses
import FoodDelivery.ReadModels.Profiles
import FoodDelivery.Users.Revocation
import FoodDelivery.Users.Rotation
import FoodDelivery.Users.Eviction
import FoodDelivery.Lib.Replays
import FoodDelivery.ReadModels.OrderSnapshots
import FoodDelivery.Checkout.CartRaces
import FoodDelivery.Restaurants.Releases
import FoodDelivery.Restaurants.Answers
import FoodDelivery.Lib.Counts
import FoodDelivery.Notifications.Decisions
import FoodDelivery.Restaurants.Registrations
import FoodDelivery.Deliveries.Announcements
import FoodDelivery.Handover.Contents
import FoodDelivery.Users.Approval
import FoodDelivery.Lib.Numerals
import FoodDelivery.Shared.Amounts
import FoodDelivery.Checkout.Placing
import FoodDelivery.Checkout.Confirmed
import FoodDelivery.Payments.Charges
import FoodDelivery.Lib.Sql
import FoodDelivery.Restaurants.Browsing
import FoodDelivery.Restaurants.Week
import FoodDelivery.Restaurants.NextOpening
import FoodDelivery.Deliveries.Selection
import FoodDelivery.Lib.Texts
import FoodDelivery.Restaurants.Lookup
import FoodDelivery.Payments.Signatures
import FoodDelivery.Lib.Decimals
import FoodDelivery.Orders.Basket
import FoodDelivery.Orders.Reorder
import FoodDelivery.Orders.CartInvariant
import FoodDelivery.Shared.HttpClient
import FoodDelivery.Shared.Probes
import FoodDelivery.Shared.Phone
import FoodDelivery.Lib.Pages
import FoodDelivery.Restaurants.MenuIntegrity
import FoodDelivery.Restaurants.Reviews
import FoodDelivery.Restaurants.EarnedReviews
import FoodDelivery.Restaurants.Discovery
import FoodDelivery.Orders.OrderLists
import FoodDelivery.Users.DefaultRaces
import FoodDelivery.Notifications.Devices
import FoodDelivery.Notifications.Templates
import FoodDelivery.Notifications.Feed
import FoodDelivery.Lib.Json
import FoodDelivery.Lib.JsonWriter
import FoodDelivery.Shared.Payloads
import FoodDelivery.Lib.Expiring
import FoodDelivery.Lib.Tickets
import FoodDelivery.Shared.RateLimit
import FoodDelivery.Users.ResetTokens
import FoodDelivery.Lib.Tallies
import FoodDelivery.Restaurants.Movements
import FoodDelivery.Admin.Console
import FoodDelivery.Admin.Agreement
import FoodDelivery.Deliveries.Estimates
import FoodDelivery.Deliveries.Requests
import FoodDelivery.Deliveries.Viewers
import FoodDelivery.Restaurants.Cards
import FoodDelivery.Restaurants.PublicReads
import FoodDelivery.Restaurants.Unvetted
import FoodDelivery.Storefront.FavoritesPage
import FoodDelivery.Checkout.CartTurns
