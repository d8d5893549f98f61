import DiscoveryApi.Lib.Hex
import DiscoveryApi.Lib.Except
import DiscoveryApi.Lib.Assoc
import DiscoveryApi.Lib.Window
import DiscoveryApi.Lib.Python
import DiscoveryApi.Lib.Calendar
import DiscoveryApi.Lib.Agree
import DiscoveryApi.Lib.Batch
import DiscoveryApi.Lib.Runs
import DiscoveryApi.Lib.Journal
import DiscoveryApi.Lib.Linearize
import DiscoveryApi.Lib.Unwinding
import DiscoveryApi.Lib.Front
import DiscoveryApi.Lib.Walk
import DiscoveryApi.Lib.Ordered
import DiscoveryApi.Lib.Steps
import DiscoveryApi.Lib.CheckAct
import DiscoveryApi.Document
import DiscoveryApi.ApiUtils
import DiscoveryApi.Reference
import DiscoveryApi.ReferenceOrder
import DiscoveryApi.Query
import DiscoveryApi.Notification
import DiscoveryApi.ControlAccess
import DiscoveryApi.Retirement
import DiscoveryApi.Interleaving
import DiscoveryApi.Card
import DiscoveryApi.CardContract
import DiscoveryApi.NotificationCards
import DiscoveryApi.NotificationFilters
import DiscoveryApi.ListOnly
import DiscoveryApi.Server
import DiscoveryApi.Description
import DiscoveryApi.MenteeMarkdown
import DiscoveryApi.MenteeNotes
import DiscoveryApi.Activity
import DiscoveryApi.ActivityCount
import DiscoveryApi.JourneyProgress
import DiscoveryApi.EventCards
import DiscoveryApi.EventNames
import DiscoveryApi.Profile
import DiscoveryApi.Home
import DiscoveryApi.HomeSections
import DiscoveryApi.HomePaging
import DiscoveryApi.HomeCustomer
import DiscoveryApi.HomeNoninterference
import DiscoveryApi.HomeShape
import DiscoveryApi.CardLists
import DiscoveryApi.Ledger
import DiscoveryApi.Concurrency
import DiscoveryApi.UnseenCalls
import DiscoveryApi.NotificationPaging
import DiscoveryApi.HomeChanges
import DiscoveryApi.HomeWalk
import DiscoveryApi.WebRoutes
import DiscoveryApi.ConcurrentRequests
import DiscoveryApi.UnseenRequests
import DiscoveryApi.RouteStatuses
