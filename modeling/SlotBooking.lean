import SlotBooking.Runs.Atomicity
import SlotBooking.Runs.LifeCycle
import SlotBooking.Runs.Drift
import SlotBooking.Runs.Histories
import SlotBooking.Runs.ReadYourWrites
import SlotBooking.Runs.Concurrency
import SlotBooking.Runs.Interchange
import SlotBooking.Shop.SequenceNumbers
import SlotBooking.Shop.Handles
import SlotBooking.Shop.Boundary
import SlotBooking.Runs.CallOrder
import SlotBooking.Shop.Calls
import SlotBooking.Shop.Capacity
import SlotBooking.Shop.NudgeProtocol
import SlotBooking.Shop.Attended
import SlotBooking.Shop.Cutoffs
import SlotBooking.Shop.SlotGrid
import SlotBooking.Web.SlotTime
import SlotBooking.Domain.Lockstep
import SlotBooking.Runs.Redelivery
import SlotBooking.Web.ServiceWorker
import SlotBooking.Shop.QueueViews
import SlotBooking.Shop.Anonymity
import SlotBooking.Shop.Subscriptions
import SlotBooking.Http.AuditTrail
import SlotBooking.Http.Login
import SlotBooking.Adapters.SchemaMigration
import SlotBooking.Shop.SlotPartition
import SlotBooking.Runs.Locality
import SlotBooking.Runs.SameSlot
import SlotBooking.Web.QueuePosition
import SlotBooking.Domain.CanonicalText
import SlotBooking.Runs.Recalls
import SlotBooking.Shop.AlarmSweep
import SlotBooking.Shop.Punctuality
import SlotBooking.Shop.Overtaking
import SlotBooking.Shop.SweepSettles
import SlotBooking.Shop.PushDelivery
import SlotBooking.Web.Kana
import SlotBooking.Http.SlotDays
import SlotBooking.Http.RescheduleBody
import SlotBooking.Web.QueueFeed
import SlotBooking.Web.TicketPage
import SlotBooking.Security.Base64Url
import SlotBooking.Security.TimingSafeEqual
import SlotBooking.Security.Session
import SlotBooking.Domain.TraceId
import SlotBooking.Adapters.PiiPurger
import SlotBooking.Push.Client
import SlotBooking.Derive.OpenApi
import SlotBooking.Domain.Eta
import SlotBooking.Web.ChimeController
import SlotBooking.Web.PushSubscribe
