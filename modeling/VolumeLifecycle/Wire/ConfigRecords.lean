import VolumeLifecycle.Config.Basic
import VolumeLifecycle.Wire.ProviderRecords

namespace VolumeLifecycle.Wire

open Wire.Field

def providerConfigRecord : Record Config.Provider where
  Row := _
  fields :=
    .cons (defaulted "endpoint" .text ({} : Config.Provider).endpoint) <|
    .cons (defaulted "user" .text ({} : Config.Provider).user) <|
    .cons (defaulted "timeout_secs" .word ({} : Config.Provider).timeoutSecs) .nil
  toRow c := (c.endpoint, c.user, c.timeoutSecs, ())
  ofRow | (endpoint, user, timeoutSecs, ()) => { endpoint, user, timeoutSecs }
  ofRow_toRow _ := rfl

def conflictConfigRecord : Record Config.Conflict where
  Row := _
  fields :=
    .cons (defaulted "mount_delay_secs" .word ({} : Config.Conflict).mountDelaySecs) <|
    .cons (defaulted "delete_delay_secs" .word ({} : Config.Conflict).deleteDelaySecs) <|
    .cons (defaulted "tick_secs" .word ({} : Config.Conflict).tickSecs) .nil
  toRow c := (c.mountDelaySecs, c.deleteDelaySecs, c.tickSecs, ())
  ofRow
    | (mountDelaySecs, deleteDelaySecs, tickSecs, ()) =>
      { mountDelaySecs, deleteDelaySecs, tickSecs }
  ofRow_toRow _ := rfl

def admissionConfigRecord : Record Config.Admission where
  Row := _
  fields :=
    .cons (defaulted "mount" .word ({} : Config.Admission).mount) <|
    .cons (defaulted "unmount" .word ({} : Config.Admission).unmount) .nil
  toRow c := (c.mount, c.unmount, ())
  ofRow | (mount, unmount, ()) => { mount, unmount }
  ofRow_toRow _ := rfl

def hostConfigRecord : Record Config.Host where
  Row := _
  fields := .cons (defaulted "cache_ttl_secs" .word ({} : Config.Host).cacheTtlSecs) .nil
  toRow c := (c.cacheTtlSecs, ())
  ofRow | (cacheTtlSecs, ()) => { cacheTtlSecs }
  ofRow_toRow _ := rfl

def configRecord : Record Config where
  Row := _
  fields :=
    .cons (defaulted "mount_dir" path ({} : Config).mountDir) <|
    .cons (defaulted "driver" .text ({} : Config).driver) <|
    .cons (defaulted "scope" .text ({} : Config).scope) <|
    .cons (defaulted "cloud_mode" .bool ({} : Config).cloudMode) <|
    .cons (defaulted "log_level" .text ({} : Config).logLevel) <|
    .cons (defaulted "provider" providerConfigRecord.codec {}) <|
    .cons (defaulted "conflict" conflictConfigRecord.codec {}) <|
    .cons (defaulted "admission" admissionConfigRecord.codec {}) <|
    .cons (defaulted "host" hostConfigRecord.codec {}) <|
    .cons (defaulted "defaults" (.dict .json) .empty) <|
    .cons (defaulted "driver_defaults" (.dict (.dict .json)) .empty) .nil
  toRow c := (c.mountDir, c.driver, c.scope, c.cloudMode, c.logLevel, c.provider, c.conflict,
    c.admission, c.host, c.defaults, c.driverDefaults, ())
  ofRow
    | (mountDir, driver, scope, cloudMode, logLevel, provider, conflict, admission, host, defaults,
        driverDefaults, ()) =>
      { mountDir, driver, scope, cloudMode, logLevel, provider, conflict, admission, host,
        defaults, driverDefaults }
  ofRow_toRow _ := rfl

end VolumeLifecycle.Wire
