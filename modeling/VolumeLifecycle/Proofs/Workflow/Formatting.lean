import VolumeLifecycle.Proofs.Provider.Memory
import VolumeLifecycle.Proofs.Workflow.MountRun

namespace VolumeLifecycle

open Program (AllCalls Runs)
open Provider (Book)

/-- A volume that was taken from a reply stands in it. -/
theorem Provider.Response.volume_of_intoVolume {response : Response} {name : String} {v : Volume}
    (h : response.intoVolume name = .ok v) : response.volume = some v := by
  unfold intoVolume check at h
  split at h
  · cases h
  · next hcheck =>
    split at hcheck
    · cases hcheck
      split at h
      · next hvolume =>
        cases h
        exact hvolume
      · cases h
    · cases hcheck

/-- A filesystem is to be created only if both marks are there. -/
theorem Volume.marked_of_delayedFilesystem {v : Volume} {fs : String}
    (h : v.delayedFilesystem = some fs) :
    marksDelayedCreate (v.status.get? delayedCreateKey) = true ∧
      v.status.get? filesystemKey = some (.string fs) ∧ fs ≠ "" := by
  unfold delayedFilesystem at h
  split at h
  · next hmarked =>
    refine ⟨hmarked, ?_⟩
    split at h
    · next s hs =>
      split at h
      · cases h
      · next hne =>
        cases h
        exact ⟨hs, hne⟩
    · cases h
  · cases h

namespace Workflow

variable {c : Config} {name : String} {opts : Dict Json} {es : List Exchange}

/-- A mount creates a filesystem only after the provider's reply to the mount has shown a volume that
is marked for it, no healthy mount was found at the mountpoint, and the volume could not be mounted
with what is on it. The filesystem is the one that the reply names. -/
theorem mount_formats {x : Option (Except Failure Path)}
    (h : Runs (mount c name opts).run es x) {ex : Exchange} (hex : ex ∈ es) {d : Device}
    {v : Volume} {fs : String} (hsetup : ex.effect = .call (.setupFilesystem d v fs)) :
    ∃ before request response u mounts f rest,
      es = before ++ ⟨.call (.provider .mount request), Except.ok response⟩ ::
        ⟨.call (.getMounts u.serialNumber), Except.ok mounts⟩ ::
        ⟨.call (.attachAndMountDevice v (c.mountpointFor u.name)), Except.error f⟩ :: rest ∧
      ex ∈ rest ∧ AllCalls Gentle before ∧ response.intoVolume name = .ok u ∧
      v = { u with connectionMode := some Volume.manualConnection } ∧
      Volume.marksDelayedCreate (u.status.get? Volume.delayedCreateKey) = true ∧
      u.status.get? Volume.filesystemKey = some (.string fs) ∧ fs ≠ "" ∧
      mounts.any (·.servesAt (c.mountpointFor u.name)) = false := by
  rcases mount_inv h with ⟨hplain, -⟩ | ⟨options, host, before, es₂, rfl, hbefore, hlocked⟩
  · exact absurd hsetup (not_setup_of_plain (hplain.mono fun _ => And.right) hex)
  replace hex := (List.mem_append.1 hex).resolve_left fun hin =>
    not_setup_of_plain (hbefore.mono fun _ => And.right) hin hsetup
  rcases mountLocked_inv hlocked with
    ⟨hplain, -⟩ | ⟨response, u, volume, onHost, after, rfl, hu, rfl, ⟨y, hhost⟩, hafter, -⟩
  · exact absurd hsetup (not_setup_of_plain hplain hex)
  rcases List.mem_cons.1 hex with rfl | hex
  · cases hsetup
  replace hex := (List.mem_append.1 hex).resolve_right fun hin =>
    not_setup_of_plain hafter hin hsetup
  obtain ⟨rfl, hdelayed, mounts, f, rest, rfl, hserves, hrest⟩ :=
    mountOnHost_formats hhost hex hsetup
  obtain ⟨hmarked, hfilesystem, hne⟩ := Volume.marked_of_delayedFilesystem hdelayed
  exact ⟨before, _, response, u, mounts, f, rest ++ after, rfl, List.mem_append_left _ hrest,
    hbefore.mono fun _ h => h.2.gentle, hu, rfl, hmarked, hfilesystem, hne, hserves⟩

/-- With an honest provider a mount creates no filesystem on a volume that is not marked. -/
theorem not_formats_of_clear {x : Option (Except Failure Path)}
    (h : Runs (mount c name opts).run es x) {book book' : Book} (hserves : book.Serves es book')
    {ex : Exchange} (hex : ex ∈ es) {d : Device} {v : Volume} {fs : String}
    (hsetup : ex.effect = .call (.setupFilesystem d v fs)) : ¬ book.Clear v.name := by
  intro hclear
  obtain ⟨before, request, response, u, mounts, f, rest, rfl, -, hbefore, hu, rfl, hmarked, -⟩ :=
    mount_formats h hex hsetup
  obtain ⟨mid, hfirst, hsecond⟩ := hserves.append_inv
  have hmid : mid.Clear u.name := hfirst.clear_of_gentle hbefore hclear
  cases hsecond with
  | cons hhonest _ =>
    have hshown := hhonest.shown _ _ u rfl (Provider.Response.volume_of_intoVolume hu)
    unfold Book.Clear at hmid
    rw [← hshown, hmarked] at hmid
    cases hmid

/-- With an honest provider the volume of a mount that has gone well is not marked any more. Either
it was not marked when the provider showed it, and nothing has marked it since; or the last update of
the mount has taken the mark away. -/
theorem mount_clears {path : Path} (h : Runs (mount c name opts).run es (some (.ok path)))
    {book book' : Book} (hserves : book.Serves es book') {request : Provider.Request}
    {response : Provider.Response} {u : Volume}
    (hmem : ⟨.call (.provider .mount request), Except.ok response⟩ ∈ es)
    (hu : response.intoVolume name = .ok u) : book'.Clear u.name := by
  rcases mount_inv h with ⟨-, hx⟩ | ⟨options, host, before, es₂, rfl, hbefore, hlocked⟩
  · exact absurd rfl (hx path)
  rcases mountLocked_inv hlocked with
    ⟨-, hx⟩ | ⟨response', u', volume, onHost, after, rfl, hu', rfl, ⟨y, hhost⟩, -, hlast⟩
  · exact absurd rfl (hx path)
  have honHost : AllCalls HostSide onHost := (keeps_mountOnHost _ _).allCalls hhost
  have hafter := hlast path rfl
  -- The mount in question is the only one of the run.
  obtain rfl : response = response' := by
    rcases List.mem_append.1 hmem with hin | hin
    · exact absurd rfl (hbefore _ hin _ rfl).1
    rcases List.mem_cons.1 hin with heq | hin
    · cases heq
      rfl
    rcases List.mem_append.1 hin with hin | hin
    · exact absurd rfl (honHost _ hin _ rfl .mount)
    · rcases hafter with ⟨-, rfl⟩ | ⟨reply, rfl⟩
      · cases hin
      · cases congrArg Exchange.effect (List.mem_singleton.1 hin)
  obtain rfl : u = u' := Except.ok.inj (hu.symm.trans hu')
  obtain ⟨mid, -, hserves⟩ := hserves.append_inv
  rw [← List.cons_append] at hserves
  obtain ⟨last, hfirst, hsecond⟩ := hserves.append_inv
  rcases hafter with ⟨hunmarked, rfl⟩ | ⟨reply, rfl⟩
  · have hgentle : AllCalls Gentle
        (⟨.call (.provider .mount (providerRequest c ⟨name, options, host⟩)),
          Except.ok response⟩ :: onHost) := by
      intro ex hex call hcall
      rcases List.mem_cons.1 hex with rfl | hex
      · cases hcall
        exact ⟨trivial, nofun, nofun⟩
      · exact (honHost ex hex call hcall).gentle
    cases hsecond
    refine hfirst.clear_of_gentle hgentle ?_
    cases hfirst with
    | cons hhonest _ =>
      have hshown := hhonest.shown _ _ u rfl (Provider.Response.volume_of_intoVolume hu)
      unfold Book.Clear
      rw [← hshown]
      exact hunmarked
  · cases hsecond with
    | cons hhonest hdone =>
      cases hdone
      refine hhonest.clear_of_null ?_
      simp only [Provider.Request.withOpt, Provider.Request.named, Dict.get?_insert, if_true]
      exact if_neg (by decide)

end Workflow
end VolumeLifecycle
