import VolumeLifecycle.Proofs.Wire.Writing
import VolumeLifecycle.Wire.ConfigRecords
import VolumeLifecycle.Wire.RuntimeRecords

namespace VolumeLifecycle.Wire

open Json (Draft)

theorem writable_accessProtocol (p : AccessProtocol) : Writable accessProtocol p := by
  refine .choice (by cases p <;> simp) fun a b h => ?_
  cases a <;> cases b <;> simp at h ⊢

theorem writable_targetScope (s : TargetScope) : Writable targetScope s := by
  refine .choice (by cases s <;> simp) fun a b h => ?_
  cases a <;> cases b <;> simp at h ⊢

theorem writable_deviceState (s : DeviceState) : Writable deviceState s := by
  refine .choice (by cases s <;> simp) fun a b h => ?_
  cases a <;> cases b <;> simp at h ⊢

theorem writable_texts (texts : List String) : Writable (.list .text) texts :=
  .list fun s _ => .text s

theorem writable_text? (o : Option String) : Writable (.optional .text) o :=
  writable_optional .text fun s _ => .text s

theorem writable_path (p : Path) : Writable path p :=
  .via rfl (.text p.text)

def FreeForm (values : List Json) : Prop :=
  ∀ j ∈ values, j.Integral ∧ j.Ordered

theorem writable_freeForm {m : Dict Json} (h : FreeForm m.values) : Writable (.dict .json) m := by
  refine .dict fun e he => ?_
  obtain ⟨hintegral, hordered⟩ := h e.2 (List.mem_map_of_mem he)
  exact .json hintegral hordered

theorem writable_iscsiSession (s : IscsiSession) : Writable iscsiSessionRecord.codec s :=
  .record <| .required (.text _) <| .defaulted (.text _) .nil

theorem writable_fcSession (s : FcSession) : Writable fcSessionRecord.codec s :=
  .record <| .required (.text _) .nil

theorem writable_volume {v : Volume} (h : FreeForm v.status.values) :
    Writable volumeRecord.codec v :=
  .record <| .defaulted (.text _) <| .required (.text _) <| .defaulted (.text _) <|
    .defaulted (.bool _) <| .defaulted (writable_accessProtocol _) <|
    .defaulted (.list fun s _ => writable_iscsiSession s) <|
    .defaulted (.list fun s _ => writable_fcSession s) <| .defaulted (writable_targetScope _) <|
    .defaulted (writable_freeForm h) <| .omittable (writable_text? _) <| .defaulted (.bool _) .nil

theorem writable_device (d : Device) : Writable deviceRecord.codec d :=
  .record <| .required (.text _) <| .defaulted (.text _) <| .defaulted (.text _) <|
    .defaulted (writable_deviceState _) .nil

theorem writable_mount (m : Mount) : Writable mountRecord.codec m :=
  .record <| .required (writable_path _) <| .required (writable_device _) .nil

theorem writable_initiator (i : Initiator) : Writable initiatorRecord.codec i :=
  .record <| .required (.text _) <| .required (writable_texts _) .nil

theorem writable_networkInterface (i : NetworkInterface) : Writable networkInterfaceRecord.codec i :=
  .record <| .required (.text _) <| .defaulted (.text _) <| .defaulted (.text _) .nil

theorem writable_host (h : Host) : Writable hostRecord.codec h :=
  .record <| .required (.text _) <| .defaulted (.text _) <| .defaulted (.text _) <|
    .defaulted (.list fun i _ => writable_initiator i) <|
    .defaulted (.list fun i _ => writable_networkInterface i) .nil

theorem writable_providerRequest {r : Provider.Request} (h : FreeForm r.opts.values) :
    Writable providerRequestRecord.codec r :=
  .record <| .required (.text _) <| .defaulted (writable_freeForm h) <|
    .omittable (writable_optional (.record _) fun host _ => writable_host host) <|
    .defaulted (.text _) <| .defaulted (.text _) .nil

theorem writable_providerResponse {r : Provider.Response}
    (h : ∀ v ∈ r.volume, FreeForm v.status.values) : Writable providerResponseRecord.codec r :=
  .record <| .nullable (writable_optional (.record _) fun v hv => writable_volume (h v hv)) <|
    .defaulted (.text _) <| .defaulted (.text _) .nil

theorem writable_mountRequest {r : Runtime.MountRequest} (h : FreeForm r.opts.values) :
    Writable mountRequestRecord.codec r :=
  .record <| .required (.text _) <| .defaulted (.text _) <| .defaulted (writable_freeForm h) .nil

theorem writable_createRequest {r : Runtime.CreateRequest} (h : FreeForm r.opts.values) :
    Writable createRequestRecord.codec r :=
  .record <| .required (.text _) <| .defaulted (writable_freeForm h) .nil

theorem writable_nameRequest (r : Runtime.NameRequest) : Writable nameRequestRecord.codec r :=
  .record <| .required (.text _) .nil

theorem writable_mountResponse (r : Runtime.MountResponse) : Writable mountResponseRecord.codec r :=
  .record <| .required (.text _) <| .required (.text _) .nil

theorem writable_volumeInfo {v : Runtime.VolumeInfo} (h : FreeForm v.status.values) :
    Writable volumeInfoRecord.codec v :=
  .record <| .required (.text _) <| .defaulted (.text _) <| .defaulted (writable_freeForm h) .nil

theorem writable_volumeResponse {r : Runtime.VolumeResponse}
    (h : ∀ v ∈ r.volume, FreeForm v.status.values) : Writable volumeResponseRecord.codec r :=
  .record <| .nullable (writable_optional (.record _) fun v hv => writable_volumeInfo (h v hv)) <|
    .required (.text _) .nil

theorem writable_createResponse {r : Runtime.CreateResponse}
    (h : ∀ v ∈ r.volumes, FreeForm v.status.values) : Writable createResponseRecord.codec r :=
  .record <| .required (.text _) <| .defaulted (.list fun v hv => writable_volumeInfo (h v hv)) <|
    .defaulted (.text _) .nil

theorem writable_driverResponse (r : Runtime.DriverResponse) :
    Writable driverResponseRecord.codec r :=
  .record <| .required (.text _) .nil

theorem writable_capability (c : Runtime.Capability) : Writable capabilityRecord.codec c :=
  .record <| .required (.text _) .nil

theorem writable_capabilitiesResponse (r : Runtime.CapabilitiesResponse) :
    Writable capabilitiesResponseRecord.codec r :=
  .record <| .required (writable_capability _) .nil

theorem writable_providerConfig (c : Config.Provider) : Writable providerConfigRecord.codec c :=
  .record <| .defaulted (.text _) <| .defaulted (.text _) <| .defaulted (.word _) .nil

theorem writable_conflictConfig (c : Config.Conflict) : Writable conflictConfigRecord.codec c :=
  .record <| .defaulted (.word _) <| .defaulted (.word _) <| .defaulted (.word _) .nil

theorem writable_admissionConfig (c : Config.Admission) : Writable admissionConfigRecord.codec c :=
  .record <| .defaulted (.word _) <| .defaulted (.word _) .nil

theorem writable_hostConfig (c : Config.Host) : Writable hostConfigRecord.codec c :=
  .record <| .defaulted (.word _) .nil

theorem writable_config {c : Config} (h : FreeForm c.defaults.values)
    (hdriver : ∀ m ∈ c.driverDefaults.values, FreeForm m.values) : Writable configRecord.codec c :=
  .record <| .defaulted (writable_path _) <| .defaulted (.text _) <| .defaulted (.text _) <|
    .defaulted (.bool _) <| .defaulted (.text _) <| .defaulted (writable_providerConfig _) <|
    .defaulted (writable_conflictConfig _) <| .defaulted (writable_admissionConfig _) <|
    .defaulted (writable_hostConfig _) <| .defaulted (writable_freeForm h) <|
    .defaulted (.dict fun e he => writable_freeForm (hdriver e.2 (List.mem_map_of_mem he))) .nil

/-- The records that are exchanged with the provider and with the runtime, and the configuration. -/
inductive Kind where
  | volume
  | device
  | mount
  | host
  | providerRequest
  | providerResponse
  | mountRequest
  | createRequest
  | nameRequest
  | mountResponse
  | volumeResponse
  | createResponse
  | driverResponse
  | capabilitiesResponse
  | config

namespace Kind

abbrev Value : Kind → Type
  | volume => Volume
  | device => Device
  | mount => Mount
  | host => Host
  | providerRequest => Provider.Request
  | providerResponse => Provider.Response
  | mountRequest => Runtime.MountRequest
  | createRequest => Runtime.CreateRequest
  | nameRequest => Runtime.NameRequest
  | mountResponse => Runtime.MountResponse
  | volumeResponse => Runtime.VolumeResponse
  | createResponse => Runtime.CreateResponse
  | driverResponse => Runtime.DriverResponse
  | capabilitiesResponse => Runtime.CapabilitiesResponse
  | config => Config

def codec : (k : Kind) → Codec k.Value
  | volume => volumeRecord.codec
  | device => deviceRecord.codec
  | mount => mountRecord.codec
  | host => hostRecord.codec
  | providerRequest => providerRequestRecord.codec
  | providerResponse => providerResponseRecord.codec
  | mountRequest => mountRequestRecord.codec
  | createRequest => createRequestRecord.codec
  | nameRequest => nameRequestRecord.codec
  | mountResponse => mountResponseRecord.codec
  | volumeResponse => volumeResponseRecord.codec
  | createResponse => createResponseRecord.codec
  | driverResponse => driverResponseRecord.codec
  | capabilitiesResponse => capabilitiesResponseRecord.codec
  | config => configRecord.codec

def freeForm : (k : Kind) → k.Value → List Json
  | volume, v => v.status.values
  | providerRequest, r => r.opts.values
  | providerResponse, r => r.volume.toList.flatMap fun v => v.status.values
  | mountRequest, r => r.opts.values
  | createRequest, r => r.opts.values
  | volumeResponse, r => r.volume.toList.flatMap fun v => v.status.values
  | createResponse, r => r.volumes.flatMap fun v => v.status.values
  | config, c => c.defaults.values ++ c.driverDefaults.values.flatMap Dict.values
  | _, _ => []

def write (k : Kind) (a : k.Value) : String :=
  (k.codec.encode a).text

def read? (k : Kind) (text : String) : Option k.Value :=
  (Draft.ofText? text).bind k.codec.decode?

variable {k : Kind} {a : k.Value}

theorem writable_of_freeForm (h : FreeForm (k.freeForm a)) : Writable k.codec a := by
  cases k with
  | volume => exact writable_volume h
  | device => exact writable_device a
  | mount => exact writable_mount a
  | host => exact writable_host a
  | providerRequest => exact writable_providerRequest h
  | providerResponse =>
    refine writable_providerResponse fun v hv j hj => h j ?_
    exact List.mem_flatMap.2 ⟨v, Option.mem_toList.2 hv, hj⟩
  | mountRequest => exact writable_mountRequest h
  | createRequest => exact writable_createRequest h
  | nameRequest => exact writable_nameRequest a
  | mountResponse => exact writable_mountResponse a
  | volumeResponse =>
    refine writable_volumeResponse fun v hv j hj => h j ?_
    exact List.mem_flatMap.2 ⟨v, Option.mem_toList.2 hv, hj⟩
  | createResponse =>
    exact writable_createResponse fun v hv j hj => h j (List.mem_flatMap.2 ⟨v, hv, hj⟩)
  | driverResponse => exact writable_driverResponse a
  | capabilitiesResponse => exact writable_capabilitiesResponse a
  | config =>
    refine writable_config (fun j hj => h j (List.mem_append_left _ hj)) fun m hm j hj => h j ?_
    exact List.mem_append_right _ (List.mem_flatMap.2 ⟨m, hm, hj⟩)

theorem read?_of_tree {text : String} {d : Draft} (h : Draft.ofText? text = some d) :
    k.read? text = k.codec.decode? d := by
  rw [read?, h, Option.bind_some]

/-- Reading undoes writing and ignores presentation, for every kind of record. A value whose free-form
values are as they are kept, with integers for numbers, and that is not nested too deep comes back from its
text, whose tree presents it. It comes back from every text whose tree presents it: with members in another
order, with members that no field names, without those that hold their default, or with the values of all
fields in an array, and so for every record inside. Nothing comes from a text with a faulty record anywhere:
one with a known key twice, without a field that is required, or with null for a field that is not
optional. -/
theorem reads_presentations (k : Kind) :
    (∀ a, FreeForm (k.freeForm a) → (k.codec.encode a).depth ≤ Draft.maxDepth →
      k.read? (k.write a) = some a ∧ ∃ d, Draft.ofText? (k.write a) = some d ∧ Shows k.codec a d) ∧
      (∀ a text d, Draft.ofText? text = some d → Shows k.codec a d → k.read? text = some a) ∧
      ∀ text d, Draft.ofText? text = some d → Faulty k.codec d → k.read? text = none := by
  have hshown : ∀ a text d, Draft.ofText? text = some d → Shows k.codec a d →
      k.read? text = some a :=
    fun a text d htree hshows => (read?_of_tree htree).trans hshows.decode?_eq
  refine ⟨fun a hfree hdepth => ?_, hshown, fun text d htree hfaulty => ?_⟩
  · have hwritable := writable_of_freeForm hfree
    have htree : Draft.ofText? (k.write a) = some (k.codec.encode a).draft :=
      Draft.ofText?_text hwritable.integral hdepth
    exact ⟨hshown a _ _ htree hwritable.shows, _, htree, hwritable.shows⟩
  · exact (read?_of_tree htree).trans hfaulty.decode?_eq_none

/-- A reply with a volume that has a free-form value. -/
def reply : Provider.Response :=
  { volume := some { name := "v", status := Dict.empty.insert "n" (.number (.integer 5)) } }

/-- Another presentation of it: members that hold their default are missing, the others stand in another
order, and one is not known. -/
def replyTree : Json :=
  .object [("x", .number (.integer 0)), ("volume",
    .object [("status", .object [("n", .number (.integer 5))]), ("name", .string "v")])]

theorem shows_replyTree : Shows providerResponse.codec reply replyTree.draft := by
  have hstatus : Shows (.dict .json) (Dict.empty.insert "n" (.number (.integer 5)))
      (.members [("n", .number (.integer 5))]) :=
    .dict (.cons (.json rfl) .nil) (.refl _)
  have hmembers : ShowsMembers volumeRecord.fields
      (volumeRecord.toRow { name := "v", status := Dict.empty.insert "n" (.number (.integer 5)) })
      [("name", .text "v"), ("status", .members [("n", .number (.integer 5))])] :=
    .absent rfl <| .present (.text "v") <| .absent rfl <| .absent rfl <| .absent rfl <| .absent rfl <|
      .absent rfl <| .absent rfl <| .present hstatus <| .absent rfl <| .absent rfl .nil
  have hvolume := Shows.object hmembers (fun _ he => absurd he List.not_mem_nil) (.swap _ _ _)
  have hbeside : ∀ e ∈ [("x", Draft.number (.integer 0))], e.1 ∉ providerResponseRecord.fields.keys :=
    List.forall_mem_singleton.2 (by decide)
  exact .object (.present (.there hvolume nofun) <| .absent rfl <| .absent rfl .nil) hbeside
    (.swap _ _ _)

theorem replyTree_integral : replyTree.Integral := by
  have hstatus : (Json.object [("n", .number (.integer 5))]).Integral :=
    .object (List.forall_mem_singleton.2 (.number (by decide)))
  have hvolume : (Json.object [("status", .object [("n", .number (.integer 5))]),
      ("name", .string "v")]).Integral :=
    .object (List.forall_mem_cons.2 ⟨hstatus, List.forall_mem_singleton.2 (.string "v")⟩)
  exact .object (List.forall_mem_cons.2 ⟨.number (by decide), List.forall_mem_singleton.2 hvolume⟩)

def namelessTree : Json :=
  .object [("volume", .object [("name", .null)])]

/-- A reply of the provider in another presentation, and one with null for the name of its volume. -/
theorem reads_presentations_reply :
    providerResponse.read? (providerResponse.write reply) = some reply ∧
      providerResponse.read? replyTree.text = some reply ∧
      providerResponse.read? namelessTree.text = none := by
  obtain ⟨hwritten, hshown, hfaulty⟩ := reads_presentations .providerResponse
  have hfree : FreeForm (providerResponse.freeForm reply) := by
    intro j hj
    obtain rfl := List.mem_singleton.1 hj
    exact ⟨.number (by decide), .number _⟩
  have hdepth : (providerResponse.codec.encode reply).depth ≤ Draft.maxDepth := by decide +kernel
  have htree := Draft.ofText?_text replyTree_integral (by decide +kernel)
  have hnameless : namelessTree.Integral :=
    .object (List.forall_mem_singleton.2 (.object (List.forall_mem_singleton.2 .null)))
  have hnamelessTree := Draft.ofText?_text hnameless (by decide +kernel)
  have hnull : Faulty providerResponse.codec namelessTree.draft :=
    .member (.head _ _) List.mem_cons_self <| .optional <|
      .null (.tail _ (.head _ _)) .text List.mem_cons_self
  exact ⟨(hwritten reply hfree hdepth).1, hshown _ _ _ htree shows_replyTree,
    hfaulty _ _ hnamelessTree hnull⟩

end Kind
end VolumeLifecycle.Wire
