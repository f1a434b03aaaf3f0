import VolumeLifecycle.Text.Blank
import VolumeLifecycle.Text.Fragment

namespace VolumeLifecycle

structure Initiator where
  accessProtocol : String
  init : List String
  deriving DecidableEq, Inhabited

structure NetworkInterface where
  name : String
  addressV4 : String := ""
  maskV4 : String := ""
  deriving DecidableEq, Inhabited

/-- A node: the initiators by which storage targets know it, and its network interfaces. -/
structure Host where
  uuid : String
  nodeId : String := ""
  name : String := ""
  initiators : List Initiator := []
  networkInterfaces : List NetworkInterface := []
  deriving DecidableEq, Inhabited

namespace Host

/-- The trimmed identifiers of all initiators of a protocol, whose name is compared without regard
to case. -/
def initiatorsFor (h : Host) (protocol : String) : List String :=
  (h.initiators.filter fun i => Text.sameIgnoringCase i.accessProtocol protocol).flatMap
    fun i => i.init.map Text.trim

def hasInitiators (h : Host) : Bool :=
  h.initiators.any fun i => !i.init.isEmpty

end Host
end VolumeLifecycle
