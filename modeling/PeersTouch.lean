import PeersTouch.Chat.AuthorityPlan
import PeersTouch.Chat.ForkSafety
import PeersTouch.Chat.RemovalRoutes
import PeersTouch.Inbox.Lane
import PeersTouch.Ratchet.Delivery
import PeersTouch.Ratchet.SkippedKeys
import PeersTouch.Client.ClearRestored
import PeersTouch.Client.MembershipTransition
import PeersTouch.Client.Reconciled
import PeersTouch.Client.LocalDeletion
import PeersTouch.Client.DirectInbox
import PeersTouch.Engine.Lifecycle
import PeersTouch.Mobile.Removal
import PeersTouch.Transfer.PrivateContent
import PeersTouch.Transfer.Resume
import PeersTouch.Transfer.Sealing
import PeersTouch.Config.Cache
import PeersTouch.Federation.Interference
import PeersTouch.Relay.Enrollment
import PeersTouch.Schema.Link
import PeersTouch.SecureContent.Leases
import PeersTouch.Access.Attempts
import PeersTouch.Actors.Announcements
import PeersTouch.Actors.BlockDelivery
import PeersTouch.Trust.RouteAddresses
