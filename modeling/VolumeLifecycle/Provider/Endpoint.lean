import VolumeLifecycle.Provider.Message
import VolumeLifecycle.Url.Grammar

namespace VolumeLifecycle.Provider

def Op.wireName : Op → String
  | .get => "VolumeDriver.Get"
  | .create => "VolumeDriver.Create"
  | .update => "VolumeDriver.Update"
  | .mount => "VolumeDriver.Mount"
  | .unmount => "VolumeDriver.Unmount"
  | .remove => "VolumeDriver.Remove"
  | .detach => "Nimble.Detach"

def trimSlashes (endpoint : String) : String :=
  String.ofList ((endpoint.toList.reverse.dropWhile (· = '/')).reverse)

def addressOf (endpoint : String) (op : Op) : String :=
  trimSlashes endpoint ++ "/" ++ op.wireName

/-- Why no request can be built for an address. -/
inductive AddressError where
  | noUrl
  | notTarget (url : Url)

def AddressError.message : AddressError → String
  | noUrl => "builder error"
  | notTarget url => "builder error for url (" ++ url.text ++ ")"

/-- The URL of an address that can be sent to. User information goes into the request and not into
its target. -/
def sendable (address : String) : Except AddressError Url :=
  match Url.ofText? address with
  | none => .error .noUrl
  | some url =>
    let url := url.withoutUser
    if url.isHttp && url.isTarget then .ok url else .error (.notTarget url)

/-- The URL that a request for an operation is sent to, or the failure of the call. -/
def target (endpoint : String) (op : Op) : Except Failure Url :=
  (sendable (addressOf endpoint op)).mapError fun e =>
    .transport (op.wireName ++ ": " ++ e.message)

end VolumeLifecycle.Provider
