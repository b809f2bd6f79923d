import Merovingian.ClientAddresses
import Merovingian.ConcurrentSends
import Merovingian.ConnectionLimits
import Merovingian.ConnectionTokens
import Merovingian.DeactivationRuns
import Merovingian.DeviceKeys
import Merovingian.DeviceListDeltas
import Merovingian.DispatchOrder
import Merovingian.EventAttachment
import Merovingian.FilterMeaning
import Merovingian.ForgedRequests
import Merovingian.GapFreeDelivery
import Merovingian.HistoryVisibility
import Merovingian.IpcFrames
import Merovingian.JsonIntegers
import Merovingian.KeyBackups
import Merovingian.KeyResolutionSlots
import Merovingian.LoginThrottling
import Merovingian.PercentCoding
import Merovingian.PowerLevelEncoding
import Merovingian.PowerLevelReach
import Merovingian.QueryAnswers
import Merovingian.QueueDepth
import Merovingian.ResolutionOrder
import Merovingian.RoomRuns
import Merovingian.SlidingSyncCommits
import Merovingian.SlidingSyncGaps
import Merovingian.SlidingSyncIsolation
import Merovingian.SlidingWindows
import Merovingian.StreamVisibility
import Merovingian.SyncDelivery
import Merovingian.ToDeviceDelivery
import Merovingian.TransactionIds
import Merovingian.UserServers
