import VolumeLifecycle.Device
import VolumeLifecycle.Provider.Message
import VolumeLifecycle.Wire.Record

namespace VolumeLifecycle.Wire

open Wire.Field

def accessProtocol : Codec AccessProtocol :=
  .choice (fun | .iscsi => "iscsi" | .fc => "fc") [.iscsi, .fc]

def targetScope : Codec TargetScope :=
  .choice (fun | .volume => "volume" | .group => "group") [.volume, .group]

def iscsiSessionRecord : Record IscsiSession where
  Row := _
  fields := .cons (required "initiatorName" .text) <| .cons (defaulted "initiatorIp" .text "") .nil
  toRow s := (s.initiatorName, s.initiatorIp, ())
  ofRow | (initiatorName, initiatorIp, ()) => { initiatorName, initiatorIp }
  ofRow_toRow _ := rfl

def fcSessionRecord : Record FcSession where
  Row := _
  fields := .cons (required "initiatorWwpn" .text) .nil
  toRow s := (s.initiatorWwpn, ())
  ofRow | (initiatorWwpn, ()) => { initiatorWwpn }
  ofRow_toRow _ := rfl

/-- A volume; only its name has to be there, and an unset connection mode is left out. -/
def volumeRecord : Record Volume where
  Row := _
  fields :=
    .cons (defaulted "id" .text "") <|
    .cons (required "name" .text) <|
    .cons (defaulted "serialNumber" .text "") <|
    .cons (defaulted "inUse" .bool false) <|
    .cons (defaulted "accessProtocol" accessProtocol .iscsi) <|
    .cons (defaulted "iscsiSessions" iscsiSessionRecord.codec.list []) <|
    .cons (defaulted "fcSessions" fcSessionRecord.codec.list []) <|
    .cons (defaulted "targetScope" targetScope .volume) <|
    .cons (defaulted "status" (.dict .json) .empty) <|
    .cons (omittable "connectionMode" .text) <|
    .cons (defaulted "destroyOnDetach" .bool false) .nil
  toRow v := (v.id, v.name, v.serialNumber, v.inUse, v.accessProtocol, v.iscsiSessions,
    v.fcSessions, v.targetScope, v.status, v.connectionMode, v.destroyOnDetach, ())
  ofRow
    | (id, name, serialNumber, inUse, accessProtocol, iscsiSessions, fcSessions, targetScope,
        status, connectionMode, destroyOnDetach, ()) =>
      { id, name, serialNumber, inUse, accessProtocol, iscsiSessions, fcSessions, targetScope,
        status, connectionMode, destroyOnDetach }
  ofRow_toRow _ := rfl

def deviceState : Codec DeviceState :=
  .choice
    (fun
      | .attached => "Attached"
      | .mounted => "Mounted"
      | .offline => "Offline"
      | .failed => "Failed"
      | .lunIdConflict => "LunIdConflict"
      | .deleted => "Deleted")
    [.attached, .mounted, .offline, .failed, .lunIdConflict, .deleted]

def deviceRecord : Record Device where
  Row := _
  fields :=
    .cons (required "serialNumber" .text) <|
    .cons (defaulted "mpathName" .text "") <|
    .cons (defaulted "path" .text "") <|
    .cons (defaulted "state" deviceState .attached) .nil
  toRow d := (d.serialNumber, d.mpathName, d.path, d.state, ())
  ofRow | (serialNumber, mpathName, path, state, ()) => { serialNumber, mpathName, path, state }
  ofRow_toRow _ := rfl

def path : Codec Path :=
  .via .text Path.text Path.mk

def mountRecord : Record Mount where
  Row := _
  fields := .cons (required "mountpoint" path) <| .cons (required "device" deviceRecord.codec) .nil
  toRow m := (m.mountpoint, m.device, ())
  ofRow | (mountpoint, device, ()) => { mountpoint, device }
  ofRow_toRow _ := rfl

def initiatorRecord : Record Initiator where
  Row := _
  fields := .cons (required "accessProtocol" .text) <| .cons (required "init" (.list .text)) .nil
  toRow i := (i.accessProtocol, i.init, ())
  ofRow | (accessProtocol, init, ()) => { accessProtocol, init }
  ofRow_toRow _ := rfl

def networkInterfaceRecord : Record NetworkInterface where
  Row := _
  fields :=
    .cons (required "name" .text) <|
    .cons (defaulted "addressV4" .text "") <|
    .cons (defaulted "maskV4" .text "") .nil
  toRow i := (i.name, i.addressV4, i.maskV4, ())
  ofRow | (name, addressV4, maskV4, ()) => { name, addressV4, maskV4 }
  ofRow_toRow _ := rfl

/-- A node; only its unique identifier has to be there. -/
def hostRecord : Record Host where
  Row := _
  fields :=
    .cons (required "uuid" .text) <|
    .cons (defaulted "nodeId" .text "") <|
    .cons (defaulted "name" .text "") <|
    .cons (defaulted "initiators" initiatorRecord.codec.list []) <|
    .cons (defaulted "networkInterfaces" networkInterfaceRecord.codec.list []) .nil
  toRow h := (h.uuid, h.nodeId, h.name, h.initiators, h.networkInterfaces, ())
  ofRow
    | (uuid, nodeId, name, initiators, networkInterfaces, ()) =>
      { uuid, nodeId, name, initiators, networkInterfaces }
  ofRow_toRow _ := rfl

def providerRequestRecord : Record Provider.Request where
  Row := _
  fields :=
    .cons (required "name" .text) <|
    .cons (defaulted "opts" (.dict .json) .empty) <|
    .cons (omittable "host" hostRecord.codec) <|
    .cons (defaulted "user" .text "") <|
    .cons (defaulted "scope" .text "") .nil
  toRow r := (r.name, r.opts, r.host, r.user, r.scope, ())
  ofRow | (name, opts, host, user, scope, ()) => { name, opts, host, user, scope }
  ofRow_toRow _ := rfl

/-- A reply of the provider; a missing volume is written as null. -/
def providerResponseRecord : Record Provider.Response where
  Row := _
  fields :=
    .cons (nullable "volume" volumeRecord.codec) <|
    .cons (defaulted "err" .text "") <|
    .cons (defaulted "message" .text "") .nil
  toRow r := (r.volume, r.err, r.message, ())
  ofRow | (volume, err, message, ()) => { volume, err, message }
  ofRow_toRow _ := rfl

end VolumeLifecycle.Wire
