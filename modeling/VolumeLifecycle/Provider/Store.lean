import VolumeLifecycle.Provider.Message

namespace VolumeLifecycle.Provider

/-- The volumes of a provider, and the message that it adds to the reply to every unmount. As long
as the message is not empty, an unmount keeps the sessions. -/
structure Store where
  volumes : Dict Volume := .empty
  unmountMessage : String := ""

namespace Store

/-- The store with a volume put in, in place of one with the same name. -/
def put (s : Store) (v : Volume) : Store :=
  { s with volumes := s.volumes.insert v.name v }

/-- The error of a reply to a request for a volume that is not there. -/
def absent (name : String) : String :=
  "volume " ++ name ++ " not found"

/-- Replaces a volume and replies with it, or replies that it is not there. -/
def change (s : Store) (name : String) (f : Volume → Volume) : Response × Store :=
  match s.volumes.get? name with
  | none => (.ofError (absent name), s)
  | some v =>
    let v := f v
    (.ofVolume v, { s with volumes := s.volumes.insert name v })

/-- A status map with one option of an update: null takes a marker away. -/
def updateStatus (status : Dict Json) (entry : String × Json) : Dict Json :=
  match entry.2 with
  | .null => status.erase entry.1
  | value => status.insert entry.1 value

def fresh (r : Request) : Volume :=
  { id := "id-" ++ r.name
    name := r.name
    serialNumber := "serial-" ++ r.name
    status := r.opts }

def initiators (r : Request) : List String :=
  match r.host with
  | some host => host.initiatorsFor "iscsi"
  | none => []

/-- The sessions of a volume with one for an initiator; there is never a second one. -/
def join (sessions : List IscsiSession) (initiator : String) : List IscsiSession :=
  if sessions.any fun s => s.initiatorName = initiator then sessions
  else sessions ++ [⟨initiator, ""⟩]

/-- A volume in use by the host of a request, which takes part with its first initiator. -/
def mounted (r : Request) (v : Volume) : Volume :=
  let sessions := match initiators r with
    | initiator :: _ => join v.iscsiSessions initiator
    | [] => v.iscsiSessions
  { v with iscsiSessions := sessions, inUse := true }

/-- A volume without the sessions of the host of a request. It stays in use while any session is
left. -/
def released (r : Request) (v : Volume) : Volume :=
  let sessions := v.iscsiSessions.filter fun s => !(initiators r).contains s.initiatorName
  { v with iscsiSessions := sessions, inUse := !sessions.isEmpty || !v.fcSessions.isEmpty }

def unmount (s : Store) (r : Request) : Response × Store :=
  let (response, t) :=
    s.change r.name fun v => if s.unmountMessage = "" then released r v else v
  match response.volume with
  | some _ => ({ response with message := s.unmountMessage }, t)
  | none => (response, t)

/-- Serves a request. One for a volume that is not there is answered with an error inside of the
reply. -/
def serve (s : Store) (op : Op) (r : Request) : Response × Store :=
  match op with
  | .get => s.change r.name id
  | .create => (.ofVolume (fresh r), s.put (fresh r))
  | .update =>
    s.change r.name fun v => { v with status := r.opts.entries.foldl updateStatus v.status }
  | .mount => s.change r.name (mounted r)
  | .unmount => s.unmount r
  | .remove => ({}, { s with volumes := s.volumes.erase r.name })
  | .detach => ({}, s)

end Store
end VolumeLifecycle.Provider
