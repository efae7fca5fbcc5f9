import RustyDht.Basic
import RustyDht.Packets
import RustyDht.State
import RustyDht.Collaborators
import RustyDht.Request
import RustyDht.Outbound
import RustyDht.Periodic
import RustyDht.Accept
import RustyDht.System
import RustyDht.Invariants
import RustyDht.EventLoop
import RustyDht.Operations
import RustyDht.ReadOnly
import RustyDht.Refinement
import RustyDht.Delivery
