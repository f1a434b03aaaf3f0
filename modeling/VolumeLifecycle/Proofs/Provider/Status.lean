import VolumeLifecycle.Dict.Lookup
import VolumeLifecycle.Provider.Store

namespace VolumeLifecycle.Provider.Store

/-- What is found under a name after an update has said a value for it. -/
def said : Json → Option Json
  | .null => none
  | value => some value

theorem get?_updateStatus (status : Dict Json) (entry : String × Json) (key : String) :
    (updateStatus status entry).get? key =
      if key = entry.1 then said entry.2 else status.get? key := by
  obtain ⟨name, value⟩ := entry
  cases value with
  | null => exact Dict.get?_erase _ _ _
  | _ => exact Dict.get?_insert _ _ _ _

/-- What is found under a name after an update depends on what the update says of that name, and if
it says nothing, on what was found before. -/
theorem get?_foldl_updateStatus {entries : List (String × Json)}
    (hsorted : entries.Pairwise fun a b => a.1 < b.1) (status : Dict Json) (key : String) :
    (entries.foldl updateStatus status).get? key =
      match entries.lookup key with
      | none => status.get? key
      | some value => said value := by
  induction entries generalizing status with
  | nil => rfl
  | cons entry rest ih =>
    obtain ⟨hhead, hrest⟩ := List.pairwise_cons.1 hsorted
    rw [List.foldl_cons, ih hrest, Dict.lookup_cons, get?_updateStatus]
    by_cases hkey : key = entry.1
    · have hnone : rest.lookup key = none := Dict.lookup_eq_none_of_lt (hkey ▸ hhead)
      rw [hnone, if_pos hkey, if_pos hkey]
    · rw [if_neg hkey, if_neg hkey]

end VolumeLifecycle.Provider.Store
