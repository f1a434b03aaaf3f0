import VolumeLifecycle.Host
import VolumeLifecycle.Volume

namespace VolumeLifecycle.Session

/-- Whether an iSCSI session belongs to a node: by its initiator name, or by its address being that
of one of the node's interfaces. Blank names and addresses never match. -/
def iscsiMatches (host : Host) (session : IscsiSession) : Bool :=
  let name := Text.trim session.initiatorName
  let ip := Text.trim session.initiatorIp
  (name ≠ "" && (host.initiatorsFor "iscsi").contains name) ||
    (ip ≠ "" && host.networkInterfaces.any fun i => Text.trim i.addressV4 = ip)

/-- A port name without the colons between its bytes and the blanks around it. -/
def barePortName (wwpn : String) : String :=
  String.ofList (Text.trimChars (wwpn.toList.filter (· ≠ ':')))

/-- Whether a Fibre Channel session belongs to a node, by its port name. -/
def fcMatches (host : Host) (session : FcSession) : Bool :=
  let wwpn := barePortName session.initiatorWwpn
  wwpn ≠ "" && (host.initiatorsFor "fc").contains wwpn

end VolumeLifecycle.Session

namespace VolumeLifecycle

/-- Whether a node is among the active sessions of a volume. A node without recorded initiators
never is. -/
def Volume.isAttachedTo (v : Volume) (host : Host) : Bool :=
  host.hasInitiators &&
    (v.iscsiSessions.any (Session.iscsiMatches host) || v.fcSessions.any (Session.fcMatches host))

end VolumeLifecycle
