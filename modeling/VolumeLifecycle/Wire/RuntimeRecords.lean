import VolumeLifecycle.Runtime.Message
import VolumeLifecycle.Wire.Record

namespace VolumeLifecycle.Wire

open Wire.Field

def mountRequestRecord : Record Runtime.MountRequest where
  Row := _
  fields :=
    .cons (required "Name" .text) <|
    .cons (defaulted "ID" .text "") <|
    .cons (defaulted "Opts" (.dict .json) .empty) .nil
  toRow r := (r.name, r.id, r.opts, ())
  ofRow | (name, id, opts, ()) => { name, id, opts }
  ofRow_toRow _ := rfl

def createRequestRecord : Record Runtime.CreateRequest where
  Row := _
  fields :=
    .cons (required "Name" .text) <| .cons (defaulted "Opts" (.dict .json) .empty) .nil
  toRow r := (r.name, r.opts, ())
  ofRow | (name, opts, ()) => { name, opts }
  ofRow_toRow _ := rfl

def nameRequestRecord : Record Runtime.NameRequest where
  Row := _
  fields := .cons (required "Name" .text) .nil
  toRow r := (r.name, ())
  ofRow | (name, ()) => { name }
  ofRow_toRow _ := rfl

/-- The answer to a mount; both fields are always there. -/
def mountResponseRecord : Record Runtime.MountResponse where
  Row := _
  fields := .cons (required "Mountpoint" .text) <| .cons (required "Err" .text) .nil
  toRow r := (r.mountpoint, r.err, ())
  ofRow | (mountpoint, err, ()) => { mountpoint, err }
  ofRow_toRow _ := rfl

def volumeInfoRecord : Record Runtime.VolumeInfo where
  Row := _
  fields :=
    .cons (required "Name" .text) <|
    .cons (defaulted "Mountpoint" .text "") <|
    .cons (defaulted "Status" (.dict .json) .empty) .nil
  toRow v := (v.name, v.mountpoint, v.status, ())
  ofRow | (name, mountpoint, status, ()) => { name, mountpoint, status }
  ofRow_toRow _ := rfl

/-- The answer to a question for a volume; a missing volume is written as null. -/
def volumeResponseRecord : Record Runtime.VolumeResponse where
  Row := _
  fields :=
    .cons (nullable "Volume" volumeInfoRecord.codec) <| .cons (required "Err" .text) .nil
  toRow r := (r.volume, r.err, ())
  ofRow | (volume, err, ()) => { volume, err }
  ofRow_toRow _ := rfl

/-- The answer to a create; only the error text has to be there. -/
def createResponseRecord : Record Runtime.CreateResponse where
  Row := _
  fields :=
    .cons (required "Err" .text) <|
    .cons (defaulted "Volumes" volumeInfoRecord.codec.list []) <|
    .cons (defaulted "Help" .text "") .nil
  toRow r := (r.err, r.volumes, r.help, ())
  ofRow | (err, volumes, help, ()) => { err, volumes, help }
  ofRow_toRow _ := rfl

def driverResponseRecord : Record Runtime.DriverResponse where
  Row := _
  fields := .cons (required "Err" .text) .nil
  toRow r := (r.err, ())
  ofRow | (err, ()) => { err }
  ofRow_toRow _ := rfl

def capabilityRecord : Record Runtime.Capability where
  Row := _
  fields := .cons (required "Scope" .text) .nil
  toRow c := (c.scope, ())
  ofRow | (scope, ()) => { scope }
  ofRow_toRow _ := rfl

def capabilitiesResponseRecord : Record Runtime.CapabilitiesResponse where
  Row := _
  fields := .cons (required "Capabilities" capabilityRecord.codec) .nil
  toRow r := (r.capabilities, ())
  ofRow | (capabilities, ()) => { capabilities }
  ofRow_toRow _ := rfl

end VolumeLifecycle.Wire
