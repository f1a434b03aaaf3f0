import VolumeLifecycle.Options.Validation
import VolumeLifecycle.Proofs.Options.Lookup
import VolumeLifecycle.Proofs.Text.Split

namespace VolumeLifecycle.Options

structure IsMode (s : String) : Prop where
  pos : 1 ≤ s.toList.length
  le : s.toList.length ≤ 4
  octal : ∀ c ∈ s.toList, '0' ≤ c ∧ c ≤ '7'

structure IsId (s : List Char) : Prop where
  ne_nil : s ≠ []
  digit : ∀ c ∈ s, '0' ≤ c ∧ c ≤ '9'

/-- An owner: the digits of a user, a colon and the digits of a group. -/
def IsOwner (s : String) : Prop :=
  ∃ user group, s.toList = user ++ ':' :: group ∧ IsId user ∧ IsId group

theorem isOctalMode_iff {s : String} : isOctalMode s = true ↔ IsMode s := by
  constructor
  · intro h
    simp only [isOctalMode, Bool.and_eq_true, decide_eq_true_eq, List.all_eq_true] at h
    obtain ⟨⟨hpos, hle⟩, hoctal⟩ := h
    exact ⟨hpos, hle, hoctal⟩
  · rintro ⟨hpos, hle, hoctal⟩
    simp only [isOctalMode, Bool.and_eq_true, decide_eq_true_eq, List.all_eq_true]
    exact ⟨⟨hpos, hle⟩, hoctal⟩

theorem isDigits_iff {s : List Char} : Text.isDigits s = true ↔ IsId s := by
  constructor
  · intro h
    simp only [Text.isDigits, Text.isDigit, Bool.and_eq_true, decide_eq_true_eq, List.all_eq_true,
      Bool.not_eq_true', List.isEmpty_eq_false_iff] at h
    exact ⟨h.1, h.2⟩
  · rintro ⟨hne, hdigit⟩
    simp only [Text.isDigits, Text.isDigit, Bool.and_eq_true, decide_eq_true_eq, List.all_eq_true,
      Bool.not_eq_true', List.isEmpty_eq_false_iff]
    exact ⟨hne, hdigit⟩

/-- There is no colon among digits. -/
theorem IsId.colon_not_mem {s : List Char} (h : IsId s) : ':' ∉ s :=
  fun hmem => absurd (h.digit ':' hmem) (by decide)

theorem isOwner_iff {s : String} : isOwner s = true ↔ IsOwner s := by
  constructor
  · intro h
    unfold isOwner at h
    split at h
    · next user group hsplit =>
      rw [Bool.and_eq_true, isDigits_iff, isDigits_iff] at h
      have htext : [':'].intercalate [user, group] = s.toList := by
        rw [← hsplit]
        exact Text.intercalate_splitChars s.toList
      refine ⟨user, group, ?_, h.1, h.2⟩
      rw [← htext]
      simp
    · cases h
  · rintro ⟨user, group, htext, huser, hgroup⟩
    have hsplit : Text.splitChars ':' s.toList = [user, group] := by
      rw [htext, Text.splitChars_append, Text.splitChars_of_not_mem huser.colon_not_mem,
        Text.splitChars_of_not_mem hgroup.colon_not_mem]
      rfl
    unfold isOwner
    rw [hsplit]
    simp [isDigits_iff.2 huser, isDigits_iff.2 hgroup]

/-- The options that are outside of their syntax, with what is said of them. -/
inductive Malformed (o : Options) : Failure → Prop where
  | filesystem {s : String} (hs : o.filesystem = some s) (hunsupported : s ∉ supportedFilesystems) :
    Malformed o (.invalidArgument ("invalid filesystem " ++ s ++ ", supported filesystems are " ++
      ", ".intercalate supportedFilesystems))
  | fsMode {s : String} (hs : o.fsMode = some s) (hmode : ¬IsMode s) :
    Malformed o (.invalidArgument ("invalid fsMode " ++ s ++ ", expected an octal mode such as 0755"))
  | fsOwner {s : String} (hs : o.fsOwner = some s) (howner : ¬IsOwner s) :
    Malformed o (.invalidArgument ("invalid fsOwner " ++ s ++ ", expected <uid>:<gid>"))

section Check

variable {setting : Option String} {isValid : String → Bool} {complaint : String → String}

theorem checkSet_eq_ok_iff :
    checkSet setting isValid complaint = .ok () ↔ ∀ s, setting = some s → isValid s = true := by
  cases setting with
  | none => exact ⟨fun _ _ => nofun, fun _ => rfl⟩
  | some s => cases hs : isValid s <;> simp [checkSet, hs]

theorem exists_of_checkSet {f : Failure} (h : checkSet setting isValid complaint = .error f) :
    ∃ s, setting = some s ∧ isValid s = false ∧ f = .invalidArgument (complaint s) := by
  cases setting with
  | none => cases h
  | some s =>
    rw [checkSet] at h
    split at h
    · cases h
    · next hs =>
      cases h
      exact ⟨s, rfl, Bool.not_eq_true _ ▸ hs, rfl⟩

end Check

/-- Validation ends with the complaint about an option that is outside of its syntax. -/
theorem malformed_of_validate {o : Options} {f : Failure} (h : o.validate = .error f) :
    Malformed o f := by
  rcases bind_eq_error.1 h with hfilesystem | ⟨_, -, h⟩
  · obtain ⟨s, hs, hinvalid, rfl⟩ := exists_of_checkSet hfilesystem
    exact .filesystem hs (by simpa using hinvalid)
  rcases bind_eq_error.1 h with hmode | ⟨_, -, howner⟩
  · obtain ⟨s, hs, hinvalid, rfl⟩ := exists_of_checkSet hmode
    exact .fsMode hs fun hvalid => by simp [isOctalMode_iff.2 hvalid] at hinvalid
  · obtain ⟨s, hs, hinvalid, rfl⟩ := exists_of_checkSet howner
    exact .fsOwner hs fun hvalid => by simp [isOwner_iff.2 hvalid] at hinvalid

/-- Validation passes no options that are outside of their syntax. -/
theorem Malformed.validate_ne_ok {o : Options} {f : Failure} (h : Malformed o f) :
    o.validate ≠ .ok () := by
  intro hvalid
  obtain ⟨_, hfilesystem, hrest⟩ := bind_eq_ok.1 hvalid
  obtain ⟨_, hmode, howner⟩ := bind_eq_ok.1 hrest
  cases h with
  | filesystem hs hunsupported =>
    have hsupported := checkSet_eq_ok_iff.1 hfilesystem _ hs
    exact hunsupported (by simpa using hsupported)
  | fsMode hs hnot => exact hnot (isOctalMode_iff.1 (checkSet_eq_ok_iff.1 hmode _ hs))
  | fsOwner hs hnot => exact hnot (isOwner_iff.1 (checkSet_eq_ok_iff.1 howner _ hs))

end VolumeLifecycle.Options
