import VolumeLifecycle.Proofs.Workflow.Repair
import VolumeLifecycle.Testbed

namespace VolumeLifecycle

def Volume.namesInitiatorOf (v : Volume) (host : Host) : Bool :=
  (v.iscsiSessions.any fun session =>
    let name := Text.trim session.initiatorName
    name ≠ "" && (host.initiatorsFor "iscsi").contains name) ||
      v.fcSessions.any (Session.fcMatches host)

def Volume.isReachedFrom (v : Volume) (i : NetworkInterface) : Bool :=
  v.iscsiSessions.any fun session =>
    let ip := Text.trim session.initiatorIp
    ip ≠ "" && Text.trim i.addressV4 = ip

/-- A node is attached to a volume by one of its initiators, or through one of its interfaces. -/
theorem Volume.isAttachedTo_iff {v : Volume} {host : Host} :
    v.isAttachedTo host = true ↔ host.hasInitiators = true ∧
      (v.namesInitiatorOf host = true ∨ ∃ i ∈ host.networkInterfaces, v.isReachedFrom i = true) := by
  simp only [isAttachedTo, namesInitiatorOf, isReachedFrom, Session.iscsiMatches, Bool.and_eq_true,
    Bool.or_eq_true, List.any_eq_true, decide_eq_true_eq]
  refine and_congr_right fun _ => ⟨?_, ?_⟩
  · rintro (⟨session, hsession, hname | ⟨hip, i, hi, haddress⟩⟩ | hfc)
    · exact .inl (.inl ⟨session, hsession, hname⟩)
    · exact .inr ⟨i, hi, session, hsession, hip, haddress⟩
    · exact .inl (.inr hfc)
  · rintro ((⟨session, hsession, hname⟩ | hfc) | ⟨i, hi, session, hsession, hip, haddress⟩)
    · exact .inl ⟨session, hsession, .inl hname⟩
    · exact .inr hfc
    · exact .inl ⟨session, hsession, .inr ⟨hip, i, hi, haddress⟩⟩

namespace Workflow

variable {c : Config} {es : List Exchange} {host narrowed : Host}

/-- A node can be restricted to the interfaces that are wanted if it has one of them, and it stays as
it is otherwise. -/
theorem restrictTo_eq_ok_iff {wanted : Option (List String)} :
    restrictTo host wanted = .ok narrowed ↔ ∃ names, wanted = some names ∧
      host.networkInterfaces.filter (isWanted names) ≠ [] ∧
      narrowed = { host with networkInterfaces := host.networkInterfaces.filter (isWanted names) } := by
  match wanted with
  | none => simp [restrictTo]
  | some [] => simp [restrictTo, isWanted]
  | some (name :: more) =>
    simp only [restrictTo]
    split
    · next hempty =>
      refine iff_of_false nofun ?_
      rintro ⟨_, heq, hkept, -⟩
      cases heq
      exact hkept (List.isEmpty_iff.1 hempty)
    · next hkept =>
      simp only [Except.ok.injEq, Option.some.injEq, exists_eq_left']
      exact ⟨fun h => ⟨fun hnil => hkept (List.isEmpty_iff.2 hnil), h.symm⟩, fun h => h.2.symm⟩

/-- The restricted node is no longer attached to a volume if and only if the node is attached through
interfaces that are not wanted and by nothing else. -/
theorem isAttachedTo_restrictTo_eq_false_iff {volume : Volume} {names : List String}
    (hnarrowed : restrictTo host (some names) = .ok narrowed)
    (hattached : volume.isAttachedTo host = true) :
    volume.isAttachedTo narrowed = false ↔ volume.namesInitiatorOf host = false ∧
      ∀ i ∈ host.networkInterfaces, isWanted names i = true → volume.isReachedFrom i = false := by
  obtain ⟨_, heq, -, rfl⟩ := restrictTo_eq_ok_iff.1 hnarrowed
  cases heq
  have hinitiators := (Volume.isAttachedTo_iff.1 hattached).1
  rw [← Bool.not_eq_true, Volume.isAttachedTo_iff]
  change ¬ (host.hasInitiators = true ∧ (volume.namesInitiatorOf host = true ∨ _)) ↔ _
  simp only [hinitiators, true_and, not_or, Bool.not_eq_true, List.mem_filter, not_exists, not_and,
    and_imp]

section Node

variable {node : Host} {name : String} {opts : Dict Json} {options : Options}

def mountNode (c : Config) (options : Options) (host : Host) : Except Failure Host :=
  if c.cloudMode then restrictTo host options.initiators else .ok host

/-- A mount whose inputs are in order goes on with the node that it goes by. -/
theorem ends_mount_described_iff (hoptions : checkedOptions name opts = .ok options)
    (hnode : mountNode c options host = .ok node) {x : Except Failure Path} :
    Ends (mount c name opts) (⟨.describeHost, Except.ok host⟩ :: es) x ↔
      Ends (do
        let _ ← reconcile name node
        let _ ← awaitConflict c .mount ⟨name, options, node⟩
        enter name .mount
        mountLocked c ⟨name, options, node⟩) es x := by
  let rest (r : Request) : Workflow Path := do
    let _ ← reconcile r.name r.host
    let _ ← awaitConflict c .mount r
    enter r.name .mount
    mountLocked c r
  have hnarrowing : Ends ((if c.cloudMode then do
        let host ← ofExcept (restrictTo host options.initiators)
        return ⟨name, options, host⟩
      else return ⟨name, options, host⟩) >>= rest) es x ↔ Ends (rest ⟨name, options, node⟩) es x := by
    unfold mountNode at hnode
    cases hcloud : c.cloudMode with
    | true =>
      rw [hcloud, if_pos rfl] at hnode
      rw [if_pos rfl, bind_assoc, ends_ofExcept_bind_iff, hnode]
      rfl
    | false =>
      rw [hcloud, if_neg Bool.false_ne_true] at hnode
      rw [if_neg Bool.false_ne_true, Except.ok.inj hnode]
      rfl
  rw [mount, gatherMount, bind_assoc, ends_gather_bind_iff, hoptions]
  constructor
  · rintro ⟨reply, es', heq, h⟩
    cases heq
    exact hnarrowing.1 h
  · exact fun h => ⟨_, es, rfl, hnarrowing.2 h⟩

/-- A mount whose inputs are in order repairs as the node that it goes by. -/
theorem repair_of_mount (hoptions : checkedOptions name opts = .ok options)
    (hnode : mountNode c options host = .ok node) {x : Except Failure Path}
    (h : Ends (mount c name opts) (⟨.describeHost, Except.ok host⟩ :: es) x) :
    ∃ repair later y, es = repair ++ later ∧ Repair name node repair y := by
  rcases ends_bind_iff.1 ((ends_mount_described_iff hoptions hnode).1 h) with
    ⟨e, -, hrepair⟩ | ⟨cleanup, repair, later, rfl, hrepair, -⟩
  · exact ⟨es, [], .error e, (List.append_nil _).symm, ends_reconcile_iff.1 hrepair⟩
  · exact ⟨repair, later, .ok cleanup, rfl, ends_reconcile_iff.1 hrepair⟩

end Node

/-- In cloud mode, a mount of this node repairs as the node with the wanted interfaces only. -/
theorem repair_of_cloud_mount (hcloud : c.cloudMode = true) {name : String} {opts : Dict Json}
    {options : Options} (hoptions : checkedOptions name opts = .ok options)
    (hnarrowed : restrictTo host options.initiators = .ok narrowed) {x : Except Failure Path}
    (h : Ends (mount c name opts) (⟨.describeHost, Except.ok host⟩ :: es) x) :
    ∃ repair later y, es = repair ++ later ∧ Repair name narrowed repair y :=
  repair_of_mount hoptions ((if_pos hcloud).trans hnarrowed) h

/-- A mount in cloud mode whose initiators option fits this node begins with a repair and, however far
it has come, can be brought to the end of it. If the repair is shown a volume that is in use and to which
this node is attached, it unmounts entries or deletes the device if and only if it finds entries and a
device, no session names an initiator of this node, and no session comes from a wanted interface. -/
theorem cloud_repair_tearsDown_iff {current : Host} {request : Runtime.MountRequest}
    {options : Options} (hcloud : c.cloudMode = true)
    (hoptions : checkedOptions request.name request.opts = .ok options)
    (hnarrowed : restrictTo host options.initiators = .ok narrowed) {x : Option Response}
    (h : (Command.program c current (.mount request)).Runs
      (⟨.describeHost, Except.ok host⟩ :: es) x) :
    ∃ names more repair later reply, options.initiators = some names ∧
      (x = none ∨ more = []) ∧
      es ++ more = ⟨.call (.provider .get (.named request.name)), reply⟩ :: (repair ++ later) ∧
      (∃ y, Ends (reconcile request.name narrowed)
        (⟨.call (.provider .get (.named request.name)), reply⟩ :: repair) y) ∧
      ∀ volume, shown request.name reply = .ok volume → volume.inUse = true →
        volume.isAttachedTo host = true →
        ((∃ ex ∈ repair, ex.effect.TearsDown) ↔
          FindsEntries volume repair ∧ volume.namesInitiatorOf host = false ∧
            ∀ i ∈ host.networkInterfaces, isWanted names i = true →
              volume.isReachedFrom i = false) := by
  obtain ⟨names, hwanted, -⟩ := restrictTo_eq_ok_iff.1 hnarrowed
  obtain ⟨more, response, hend, hmore⟩ := h.exists_completion
  obtain ⟨result, hmount, -⟩ := Command.runs_answering_iff.1 hend
  obtain ⟨_, later, y, hsplit, hrepair⟩ := repair_of_cloud_mount hcloud hoptions hnarrowed hmount
  obtain ⟨reply, repair, rfl⟩ := hrepair.exists_question
  refine ⟨names, more, repair, later, reply, hwanted, hmore.imp_right And.left, hsplit,
    ⟨y, ends_reconcile_iff.2 hrepair⟩, fun volume hshown hinUse hattached => ?_⟩
  -- The repair decides by the node as the mount has restricted it.
  rw [hwanted] at hnarrowed
  rw [hrepair.tearsDown_iff hshown, hinUse, Bool.true_and,
    isAttachedTo_restrictTo_eq_false_iff hnarrowed hattached]

/-- A volume in use through the second interface of a node, on which it is mounted. -/
def behindGateway : Volume :=
  { name := "v", serialNumber := "serial", inUse := true
    iscsiSessions := [⟨"iqn.gateway", "10.0.1.5"⟩] }

def twoInterfaces : Testbed where
  host :=
    { uuid := "node"
      initiators := [⟨"iscsi", ["iqn.node"]⟩]
      networkInterfaces := [⟨"eth0", "10.0.0.5", ""⟩, ⟨"eth1", "10.0.1.5", ""⟩] }
  store.volumes := Dict.empty.insert "v" behindGateway
  table :=
    { devices := Dict.empty.insert "serial" (DeviceTable.deviceOf behindGateway .mounted)
      mounts := [⟨⟨"/var/lib/volagent/mounts/v"⟩, DeviceTable.deviceOf behindGateway .mounted⟩] }
  files := ⟨[], []⟩

/-- An agent in cloud mode that gives up waiting at once. -/
def inCloud : Config :=
  { cloudMode := true, conflict := { mountDelaySecs := 0 } }

def wantingFirst : Runtime.MountRequest :=
  { name := "v", opts := .ofList [("initiators", .string "eth0")] }

/-- The mount of the volume by such an agent on that node. -/
def mountingFirst : Program.Trace Response Testbed :=
  Program.trace Testbed.perform 20 (Command.program inCloud twoInterfaces.host (.mount wantingFirst))
    twoInterfaces

/-- A volume that is used through an interface which the next mount does not want. -/
theorem cloud_repair_tearsDown_iff_unwanted :
    let narrowed := { twoInterfaces.host with networkInterfaces := [⟨"eth0", "10.0.0.5", ""⟩] }
    inCloud.cloudMode = true ∧
      checkedOptions wantingFirst.name wantingFirst.opts = .ok { initiators := some ["eth0"] } ∧
      restrictTo twoInterfaces.host (some ["eth0"]) = .ok narrowed ∧
      ∃ repair later, mountingFirst.exchanges =
          ⟨.describeHost, Except.ok twoInterfaces.host⟩ ::
            ⟨.call (.provider .get (.named "v")), Except.ok (.ofVolume behindGateway)⟩ ::
              (repair ++ later) ∧
        ((∃ ex ∈ repair, ex.effect.TearsDown) ↔
          FindsEntries behindGateway repair ∧
            behindGateway.namesInitiatorOf twoInterfaces.host = false ∧
            ∀ i ∈ twoInterfaces.host.networkInterfaces, isWanted ["eth0"] i = true →
              behindGateway.isReachedFrom i = false) := by
  have hoptions : checkedOptions wantingFirst.name wantingFirst.opts =
      .ok { initiators := some ["eth0"] } := rfl
  have hrun : (Command.program inCloud twoInterfaces.host (.mount wantingFirst)).Runs
      (⟨.describeHost, Except.ok twoInterfaces.host⟩ :: mountingFirst.exchanges.tail)
      mountingFirst.outcome := Program.trace_runs Testbed.perform 20 _ twoInterfaces
  have hnarrowed : restrictTo twoInterfaces.host (some ["eth0"]) =
      .ok { twoInterfaces.host with networkInterfaces := [⟨"eth0", "10.0.0.5", ""⟩] } := rfl
  obtain ⟨names, more, repair, later, reply, hnames, hmore, hsplit, -, hiff⟩ :=
    cloud_repair_tearsDown_iff rfl hoptions hnarrowed hrun
  cases hnames
  obtain rfl : more = [] := hmore.resolve_left (by decide +kernel)
  have hquestion : mountingFirst.exchanges.tail =
      ⟨.call (.provider .get (.named "v")), Except.ok (.ofVolume behindGateway)⟩ ::
        mountingFirst.exchanges.tail.tail := rfl
  rw [List.append_nil, hquestion] at hsplit
  obtain ⟨hreply, hrest⟩ := List.cons.inj hsplit
  cases hreply
  exact ⟨rfl, hoptions, hnarrowed, repair, later, hrest ▸ rfl, hiff behindGateway rfl rfl rfl⟩

/-- The volume is in use here, but through the interface that is not wanted, so the repair unmounts
it. -/
theorem attached_unmounted :
    let narrowed := { twoInterfaces.host with networkInterfaces := [⟨"eth0", "10.0.0.5", ""⟩] }
    inCloud.cloudMode = true ∧
      restrictTo twoInterfaces.host (some ["eth0"]) = .ok narrowed ∧
      behindGateway.inUse = true ∧ behindGateway.isAttachedTo twoInterfaces.host = true ∧
      ∃ repair later, mountingFirst.exchanges =
          ⟨.describeHost, Except.ok twoInterfaces.host⟩ :: (repair ++ later) ∧
        repair.head? =
          some ⟨.call (.provider .get (.named "v")), Except.ok (.ofVolume behindGateway)⟩ ∧
        Ends (reconcile "v" narrowed) repair (.ok (.repaired 1 false)) ∧
        ⟨.call (.unmountFileSystem ⟨"/var/lib/volagent/mounts/v"⟩), Except.ok ()⟩ ∈ repair := by
  refine ⟨rfl, rfl, rfl, rfl, (mountingFirst.exchanges.drop 1).take 4,
    mountingFirst.exchanges.drop 5, rfl, rfl, ?_, List.mem_of_getElem? (i := 3) rfl⟩
  refine ends_reconcile_iff.2 (.listed _ rfl (List.cons_ne_nil _ _) (.found _ ?_))
  exact .repaired rfl (.passed _ (.ok ()) nofun .done) (.kept rfl)

end Workflow
end VolumeLifecycle
