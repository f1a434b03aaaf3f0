import Mathlib.Data.Set.Basic
import VolumeLifecycle.Session

namespace VolumeLifecycle

/-- What sessions are recognized by, and what a node can be recognized by. -/
@[ext]
structure Session.Marks where
  /-- The names of iSCSI initiators. -/
  names : Set String
  addresses : Set String
  /-- The names of Fibre Channel ports. -/
  ports : Set String

namespace Session.Marks

/-- Whether marks are among others. -/
structure Within (m m' : Marks) : Prop where
  names : m.names ⊆ m'.names
  addresses : m.addresses ⊆ m'.addresses
  ports : m.ports ⊆ m'.ports

def Meets (m m' : Marks) : Prop :=
  (∃ n ∈ m.names, n ∈ m'.names) ∨ (∃ a ∈ m.addresses, a ∈ m'.addresses) ∨
    ∃ p ∈ m.ports, p ∈ m'.ports

protected theorem Within.refl (m : Marks) : m.Within m :=
  ⟨subset_rfl, subset_rfl, subset_rfl⟩

theorem Meets.mono {m m' n n' : Marks} (h : m.Meets n) (hm : m.Within m') (hn : n.Within n') :
    m'.Meets n' := by
  rcases h with ⟨x, hx, hx'⟩ | ⟨x, hx, hx'⟩ | ⟨x, hx, hx'⟩
  · exact .inl ⟨x, hm.names hx, hn.names hx'⟩
  · exact .inr (.inl ⟨x, hm.addresses hx, hn.addresses hx'⟩)
  · exact .inr (.inr ⟨x, hm.ports hx, hn.ports hx'⟩)

end Session.Marks

def Initiator.Holds (g : Initiator) (protocol identifier : String) : Prop :=
  Text.sameIgnoringCase g.accessProtocol protocol = true ∧
    ∃ given ∈ g.init, Text.trim given = identifier

/-- The marks of the sessions of a volume. Blank ones are none. -/
def Volume.marks (v : Volume) : Session.Marks where
  names := {n | n ≠ "" ∧ ∃ s ∈ v.iscsiSessions, Text.trim s.initiatorName = n}
  addresses := {a | a ≠ "" ∧ ∃ s ∈ v.iscsiSessions, Text.trim s.initiatorIp = a}
  ports := {p | p ≠ "" ∧ ∃ s ∈ v.fcSessions, Session.barePortName s.initiatorWwpn = p}

def Host.marks (h : Host) : Session.Marks where
  names := {n | ∃ g ∈ h.initiators, g.Holds "iscsi" n}
  addresses := {a | ∃ i ∈ h.networkInterfaces, Text.trim i.addressV4 = a}
  ports := {p | ∃ g ∈ h.initiators, g.Holds "fc" p}

namespace Host

variable {h h' : Host}

theorem mem_initiatorsFor {protocol identifier : String} :
    identifier ∈ h.initiatorsFor protocol ↔ ∃ g ∈ h.initiators, g.Holds protocol identifier := by
  simp [initiatorsFor, Initiator.Holds, and_assoc]

theorem hasInitiators_iff : h.hasInitiators = true ↔ ∃ g ∈ h.initiators, g.init ≠ [] := by
  simp [hasInitiators]

end Host

/-- A node is among the sessions of a volume if it has initiators and a mark in common with them. -/
theorem Volume.isAttachedTo_iff_meets {v : Volume} {h : Host} :
    v.isAttachedTo h = true ↔ h.hasInitiators = true ∧ v.marks.Meets h.marks := by
  simp only [isAttachedTo, Session.iscsiMatches, Session.fcMatches, Bool.and_eq_true, Bool.or_eq_true,
    List.any_eq_true, decide_eq_true_eq, List.contains_iff_mem, Host.mem_initiatorsFor]
  refine and_congr_right fun _ => ⟨?_, ?_⟩
  · rintro (⟨s, hs, ⟨hname, hheld⟩ | ⟨hip, i, hi, haddress⟩⟩ | ⟨s, hs, hport, hheld⟩)
    · exact .inl ⟨_, ⟨hname, s, hs, rfl⟩, hheld⟩
    · exact .inr (.inl ⟨_, ⟨hip, s, hs, rfl⟩, i, hi, haddress⟩)
    · exact .inr (.inr ⟨_, ⟨hport, s, hs, rfl⟩, hheld⟩)
  · rintro (⟨_, ⟨hname, s, hs, rfl⟩, hheld⟩ | ⟨_, ⟨hip, s, hs, rfl⟩, i, hi, haddress⟩ |
      ⟨_, ⟨hport, s, hs, rfl⟩, hheld⟩)
    · exact .inl ⟨s, hs, .inl ⟨hname, hheld⟩⟩
    · exact .inl ⟨s, hs, .inr ⟨hip, i, hi, haddress⟩⟩
    · exact .inr ⟨s, hs, hport, hheld⟩

/-- Showing more never takes a node out of the sessions. -/
theorem Volume.isAttachedTo_mono {v v' : Volume} {h h' : Host} (hv : v.marks.Within v'.marks)
    (hh : h.marks.Within h'.marks) (hrecorded : h.hasInitiators = true → h'.hasInitiators = true)
    (hattached : v.isAttachedTo h = true) : v'.isAttachedTo h' = true := by
  obtain ⟨hinitiators, hmeets⟩ := Volume.isAttachedTo_iff_meets.1 hattached
  exact Volume.isAttachedTo_iff_meets.2 ⟨hrecorded hinitiators, hmeets.mono hv hh⟩

/-- Whether a node is among the sessions of a volume depends on what both show and on whether the
node has initiators. -/
theorem Volume.isAttachedTo_congr {v v' : Volume} {h h' : Host} (hv : v'.marks = v.marks)
    (hh : h'.marks = h.marks) (hrecorded : h'.hasInitiators = h.hasInitiators) :
    v'.isAttachedTo h' = v.isAttachedTo h := by
  rw [Bool.eq_iff_iff, Volume.isAttachedTo_iff_meets, Volume.isAttachedTo_iff_meets, hv, hh, hrecorded]

end VolumeLifecycle
