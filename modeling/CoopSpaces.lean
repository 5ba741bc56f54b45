import CoopSpaces.Edge.Latch
import CoopSpaces.Edge.Debounce
import CoopSpaces.Edge.Refusals
import CoopSpaces.Edge.PowerLease
import CoopSpaces.Edge.ReconcileFrames
import CoopSpaces.Edge.StopMemory
import CoopSpaces.Edge.Keys
import CoopSpaces.Edge.StagedStart
import CoopSpaces.Edge.StageGrants
import CoopSpaces.Edge.RunOn
import CoopSpaces.Edge.KioskView
import CoopSpaces.Edge.OpenAccess
import CoopSpaces.Edge.Outbound
import CoopSpaces.Server.StopLease
import CoopSpaces.Server.RoomLease
import CoopSpaces.Server.StopProtocol
import CoopSpaces.Server.ClosedTools
import CoopSpaces.Server.Naming
import CoopSpaces.Server.TripProtocol
import CoopSpaces.Server.Inheritance
import CoopSpaces.Server.Places
import CoopSpaces.Server.UserEdits
import CoopSpaces.Server.GraphCache
import CoopSpaces.Server.Attestation
import CoopSpaces.Server.ChargeBounds
import CoopSpaces.Server.DuesPeriods
import CoopSpaces.Server.UsageTotals
import CoopSpaces.Server.LockLists
import CoopSpaces.Server.NarrowBroadcasts
import CoopSpaces.Server.SessionSweep
import CoopSpaces.Server.Liveness
import CoopSpaces.Server.Interlocks
import CoopSpaces.Server.SignedEvents
import CoopSpaces.Server.TotpReplay
import CoopSpaces.Server.ResetLinks
import CoopSpaces.Server.MailedAddresses
import CoopSpaces.Server.ThrottleLimits
import CoopSpaces.Cmi5.Launch
import CoopSpaces.Cmi5.SessionLanguage
import CoopSpaces.Cmi5.Retries
import CoopSpaces.Cmi5.EmptyElements
import CoopSpaces.Cmi5.ImportOrder
import CoopSpaces.Server.ListDepartures
import CoopSpaces.Server.Refunds
import CoopSpaces.Server.StripeSignature
import CoopSpaces.Server.HoldEnds
import CoopSpaces.Server.WebhookDelivery
import CoopSpaces.Server.Subscriptions
import CoopSpaces.Server.FeedOccurrences
import CoopSpaces.Server.WallClocks
import CoopSpaces.Server.Description
import CoopSpaces.Server.Heartbeats
import CoopSpaces.Server.Renewals
import CoopSpaces.Server.MergePromise
import CoopSpaces.Pages.Navigation
import CoopSpaces.Pages.LinkSlugs
import CoopSpaces.Server.DeviceCodes
import CoopSpaces.Server.Sessions
