import VolumeLifecycle.Proofs.Program.Within
import VolumeLifecycle.Workflow.Command

namespace VolumeLifecycle.Workflow

open Program (Within)

variable {ok : Effect → Prop} {volume : Volume} {request : Provider.Request}

/-- The calls with which a node lets go of a volume. -/
def freeing : Call.Kind → Bool
  | .unmountDevice => true
  | .getDevice => true
  | .offlineDevice => true
  | .deleteDevice => true
  | _ => false

theorem within_provideBestEffort {op : Provider.Op} (h : ok (.call (.provider op request)))
    (step : String) : Within ok (provideBestEffort step op request).run :=
  within_bind (within_attempt h) fun _ => within_pure _

/-- To resolve a device is to look it up. -/
theorem within_resolveDevice (h : ok (.call (.getDevice volume))) :
    Within ok (resolveDevice volume).run := by
  refine within_bind (within_attempt h) fun reply => ?_
  split <;> exact within_pure _

theorem within_onDevice {step : String} {run : Device → Workflow BestEffort.Outcome}
    (hrun : ∀ d, Within ok (run d).run) (device : Option Device) :
    Within ok (onDevice step run device).run := by
  cases device with
  | none => exact within_pure _
  | some d => exact hrun d

theorem within_forDevice {run : Device → Workflow Unit} (hrun : ∀ d, Within ok (run d).run)
    (device : Option Device) : Within ok (forDevice run device).run := by
  cases device with
  | none => exact within_pure _
  | some d => exact hrun d

/-- The release of a volume makes device calls and the detach, and nothing else. -/
theorem within_releaseHostSide (h : ∀ call : Call, freeing call.kind = true → ok (.call call))
    (hdetach : ok (.call (.provider .detach request))) (volume : Volume) :
    Within ok (releaseHostSide volume request).run := by
  refine within_bind (within_resolveDevice (h _ rfl)) fun device => ?_
  refine within_bind (within_onDevice (fun d => ?_) device) fun _ => ?_
  · exact within_bind (within_attempt (h _ rfl)) fun _ => within_pure _
  refine within_bind (within_provideBestEffort hdetach _) fun _ => ?_
  refine within_bind (within_onDevice (fun d => ?_) device) fun _ => within_pure _
  exact within_bind (within_attempt (h _ rfl)) fun _ => within_pure _

theorem within_releaseUnmounted (h : ∀ call : Call, freeing call.kind = true → ok (.call call))
    (hdetach : ok (.call (.provider .detach request))) (volume : Volume) :
    Within ok (releaseUnmounted volume request).run := by
  refine within_bind (within_call (h _ rfl)) fun _ => ?_
  refine within_bind (within_resolveDevice (h _ rfl)) fun device => ?_
  refine within_bind (within_forDevice (fun d => ?_) device) fun _ => ?_
  · refine within_bind (within_attempt (h _ rfl)) fun reply => ?_
    split
    · exact within_pure _
    · split
      · exact within_fail _
      · exact within_pure _
  refine within_bind (within_provideBestEffort hdetach _) fun _ => within_forDevice (fun d => ?_) device
  refine within_bind (within_attempt (h _ rfl)) fun reply => ?_
  split
  · exact within_pure _
  · split
    · exact within_pure _
    · exact within_fail _

theorem within_unmountForRemoval (h : ok (.call (.unmountDevice volume))) :
    Within ok (unmountForRemoval volume).run := by
  refine within_bind (within_attempt h) fun reply => ?_
  split
  · exact within_pure _
  · split
    · exact within_pure _
    · exact within_fail _

/-- The effects of a remove inside of the gate. -/
theorem within_removeLocked {c : Config} {r : Request}
    (hwait : ∀ (w : Conflict.Wait) e after, w.view = .asks e after → ok e)
    (h : ∀ call : Call, freeing call.kind = true → ok (.call call))
    (hget : ok (.call (.provider .get (providerRequest c r))))
    (hdetach : ok (.call (.provider .detach (providerRequest c r))))
    (hremove : ok (.call (.provider .remove (providerRequest c r)))) :
    Within ok (removeLocked c r).run := by
  have hremoves : ∀ volume, Within ok (do
      unmountForRemoval volume
      let _ ← releaseHostSide volume (providerRequest c r)
      let response ← provider .remove (providerRequest c r)
      let _ ← ofExcept response.check).run := by
    intro volume
    refine within_bind (within_unmountForRemoval (h _ rfl)) fun _ => ?_
    refine within_bind (within_releaseHostSide h hdetach volume) fun _ => ?_
    refine within_bind (within_call hremove) fun _ => ?_
    exact within_bind (within_ofExcept _) fun _ => within_pure _
  refine within_bind (within_call hget) fun response => ?_
  refine within_bind (within_ofExcept _) fun volume => ?_
  split
  · exact within_bind (within_await hwait _) fun _ => hremoves volume
  · exact hremoves volume

/-- A rollback removes the mountpoint that it is given, and the request that it unmounts and detaches
with is its own. -/
theorem within_undoMount {mountpoint : Path} (hremove : ok (.removeDirectory mountpoint))
    (h : ∀ call : Call, freeing call.kind = true → ok (.call call))
    (hunmount : ok (.call (.provider .unmount request)))
    (hdetach : ok (.call (.provider .detach request))) (volume : Volume) :
    Within ok (undoMount request volume mountpoint).run := by
  have hundo : Within ok (undoMount.undo request volume).run := by
    refine within_bind ?_ fun ⟨stillHeld, outcome⟩ => ?_
    · refine within_bind (within_attempt hunmount) fun reply => ?_
      split
      · split <;> exact within_pure _
      · exact within_pure _
    dsimp only
    split
    · exact within_pure _
    · exact within_bind (within_releaseHostSide h hdetach volume) fun _ => within_pure _
  refine within_bind (within_perform hremove) fun removed => ?_
  split
  · exact hundo
  · exact hundo
  · exact within_pure _

end VolumeLifecycle.Workflow
