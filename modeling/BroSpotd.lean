import BroSpotd.Library.Binary64
import BroSpotd.Library.Runs
import BroSpotd.Library.Keyed
import BroSpotd.Library.NodeList
import BroSpotd.Monitor
import BroSpotd.Ledger
import BroSpotd.Delivery
import BroSpotd.Reading
import BroSpotd.Unreadable
import BroSpotd.Config
import BroSpotd.Isolation
import BroSpotd.Types
import BroSpotd.Roster
import BroSpotd.Replacement
import BroSpotd.Payload
import BroSpotd.Listening
import BroSpotd.Replies
import BroSpotd.Receiver
import BroSpotd.Threads
import BroSpotd.Traversal
import BroSpotd.Progress
import BroSpotd.Attrition
import BroSpotd.Rebuild
import BroSpotd.Membership
import BroSpotd.Sessions
import BroSpotd.Settings
import BroSpotd.Numbers
