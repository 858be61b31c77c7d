import Wavis.Proof.ActiveRoom
import Wavis.Proof.AlphaRedemptions
import Wavis.Proof.AudioMixing
import Wavis.Proof.BannedAbsent
import Wavis.Proof.CallCredentials
import Wavis.Proof.CameraIntent
import Wavis.Proof.ChannelAuthority
import Wavis.Proof.ChannelBans
import Wavis.Proof.ChannelInvites
import Wavis.Proof.ConnectionSlots
import Wavis.Proof.Erasure
import Wavis.Proof.FailedJoins
import Wavis.Proof.GlobalCeiling
import Wavis.Proof.HostMutes
import Wavis.Proof.InviteAccounting
import Wavis.Proof.InviteCounts
import Wavis.Proof.InviteIncarnations
import Wavis.Proof.JitterBuffer
import Wavis.Proof.PairedDevices
import Wavis.Proof.Passthrough
import Wavis.Proof.PeerMap
import Wavis.Proof.RecoveryGuesses
import Wavis.Proof.RefreshFailures
import Wavis.Proof.RoomLocks
import Wavis.Proof.RoomMedia
import Wavis.Proof.SessionStore
import Wavis.Proof.ShareHelper
import Wavis.Proof.ShareSlots
import Wavis.Proof.SignalingDisconnect
import Wavis.Proof.SignalingRetries
import Wavis.Proof.SignalingSockets
import Wavis.Proof.SingleFlight
import Wavis.Proof.SlidingWindow
import Wavis.Proof.TargetDelay
import Wavis.Proof.ViewerIdentities
import Wavis.Proof.ViewerRetries
import Wavis.Proof.WsTickets
