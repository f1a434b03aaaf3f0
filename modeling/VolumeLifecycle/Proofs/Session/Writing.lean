import Mathlib.Data.List.Perm.Basic
import Mathlib.Logic.Relation
import VolumeLifecycle.Proofs.Session.Marks
import VolumeLifecycle.Proofs.Text.Trim

namespace VolumeLifecycle

/-- Other ways to write down a list whose elements can be written in other ways. -/
inductive Relisted {α : Type} (R : α → α → Prop) : List α → List α → Prop
  | reordered {xs ys : List α} (h : xs.Perm ys) : Relisted R xs ys
  | repeated {x : α} {xs : List α} (h : x ∈ xs) : Relisted R xs (x :: xs)
  | rewritten {x y : α} {front back : List α} (h : R x y) :
    Relisted R (front ++ x :: back) (front ++ y :: back)

/-- What holds of an element however it is written holds of one however the list is written. -/
theorem Relisted.exists_mem_iff {α : Type} {R : α → α → Prop} {P : α → Prop} {xs ys : List α}
    (h : Relisted R xs ys) (hP : ∀ x y, R x y → (P y ↔ P x)) :
    (∃ y ∈ ys, P y) ↔ ∃ x ∈ xs, P x := by
  cases h with
  | reordered h => simp only [h.mem_iff]
  | repeated h =>
    rw [List.exists_mem_cons_iff]
    exact ⟨fun hx => hx.elim (fun hx => ⟨_, h, hx⟩) id, .inr⟩
  | rewritten h => simp only [List.mem_append, List.mem_cons, or_and_right, exists_or,
      exists_eq_left, hP _ _ h]

/-- The same letter in either case. Cases are those of ASCII: a long `ſ` is not an `s`, although its
capital is. Beyond ASCII any letter may stand for any other, as no protocol has a name with one. -/
def Text.SameLetter (c d : Char) : Prop :=
  c.toLower = d.toLower ∨ 127 < c.toNat ∧ 127 < d.toNat

/-- Other ways to write down an iSCSI session. -/
inductive IscsiSession.Rewritten : IscsiSession → IscsiSession → Prop
  | name {name name' ip : String} (h : Text.Padded name name') : Rewritten ⟨name, ip⟩ ⟨name', ip⟩
  | address {name ip ip' : String} (h : Text.Padded ip ip') : Rewritten ⟨name, ip⟩ ⟨name, ip'⟩

/-- Other ways to write down a Fibre Channel session. -/
inductive FcSession.Rewritten : FcSession → FcSession → Prop
  | blanks {wwpn wwpn' : String} (h : Text.Padded wwpn wwpn') : Rewritten ⟨wwpn⟩ ⟨wwpn'⟩
  | colon (front back : String) : Rewritten ⟨front ++ back⟩ ⟨front ++ ":" ++ back⟩

inductive NetworkInterface.Rewritten : NetworkInterface → NetworkInterface → Prop
  | address {i : NetworkInterface} {address : String} (h : Text.Padded i.addressV4 address) :
    Rewritten i { i with addressV4 := address }

/-- Other ways to write down a group of identifiers. -/
inductive Initiator.Rewritten : Initiator → Initiator → Prop
  | letterCase {front back : List Char} {c d : Char} {init : List String} (h : Text.SameLetter c d) :
    Rewritten ⟨.ofList (front ++ c :: back), init⟩ ⟨.ofList (front ++ d :: back), init⟩
  | identifiers {protocol : String} {init init' : List String} (h : Relisted Text.Padded init init') :
    Rewritten ⟨protocol, init⟩ ⟨protocol, init'⟩

namespace Session

/-- The same sessions and the same node, written down in another way. Groups are merged where this is
read backwards. -/
inductive Restated : Volume × Host → Volume × Host → Prop
  | iscsi {v : Volume} {h : Host} {sessions : List IscsiSession}
    (hsessions : Relisted IscsiSession.Rewritten v.iscsiSessions sessions) :
    Restated (v, h) ({ v with iscsiSessions := sessions }, h)
  | fc {v : Volume} {h : Host} {sessions : List FcSession}
    (hsessions : Relisted FcSession.Rewritten v.fcSessions sessions) :
    Restated (v, h) ({ v with fcSessions := sessions }, h)
  | initiators {v : Volume} {h : Host} {groups : List Initiator}
    (hgroups : Relisted Initiator.Rewritten h.initiators groups) :
    Restated (v, h) (v, { h with initiators := groups })
  | split {v : Volume} {h : Host} {front back : List Initiator} {protocol : String}
    {init more : List String} (hgroups : h.initiators = front ++ ⟨protocol, init ++ more⟩ :: back) :
    Restated (v, h) (v, { h with
      initiators := front ++ ⟨protocol, init⟩ :: ⟨protocol, more⟩ :: back })
  | interfaces {v : Volume} {h : Host} {interfaces : List NetworkInterface}
    (hinterfaces : Relisted NetworkInterface.Rewritten h.networkInterfaces interfaces) :
    Restated (v, h) (v, { h with networkInterfaces := interfaces })

/-- The sessions and the node with something added. -/
inductive Extended : Volume × Host → Volume × Host → Prop
  | iscsi {v : Volume} {h : Host} {front back : List IscsiSession} (session : IscsiSession)
    (hsessions : v.iscsiSessions = front ++ back) :
    Extended (v, h) ({ v with iscsiSessions := front ++ session :: back }, h)
  | fc {v : Volume} {h : Host} {front back : List FcSession} (session : FcSession)
    (hsessions : v.fcSessions = front ++ back) :
    Extended (v, h) ({ v with fcSessions := front ++ session :: back }, h)
  | identifier {v : Volume} {h : Host} {front back : List Initiator} {protocol : String}
    {init more : List String} (identifier : String)
    (hgroups : h.initiators = front ++ ⟨protocol, init ++ more⟩ :: back) :
    Extended (v, h) (v, { h with
      initiators := front ++ ⟨protocol, init ++ identifier :: more⟩ :: back })
  | group {v : Volume} {h : Host} {front back : List Initiator} (group : Initiator)
    (hgroups : h.initiators = front ++ back) :
    Extended (v, h) (v, { h with initiators := front ++ group :: back })
  | interface {v : Volume} {h : Host} {front back : List NetworkInterface}
    (interface : NetworkInterface) (hinterfaces : h.networkInterfaces = front ++ back) :
    Extended (v, h) (v, { h with networkInterfaces := front ++ interface :: back })

end Session

theorem IscsiSession.Rewritten.trim_eq {s s' : IscsiSession} (h : s.Rewritten s') :
    Text.trim s'.initiatorName = Text.trim s.initiatorName ∧
      Text.trim s'.initiatorIp = Text.trim s.initiatorIp := by
  cases h with
  | name h => exact ⟨h.trim_eq, rfl⟩
  | address h => exact ⟨rfl, h.trim_eq⟩

/-- Colons are taken out before blanks are, so blanks behind a colon go too. -/
theorem FcSession.Rewritten.barePortName_eq {s s' : FcSession} (h : s.Rewritten s') :
    Session.barePortName s'.initiatorWwpn = Session.barePortName s.initiatorWwpn := by
  cases h with
  | blanks h =>
    obtain ⟨front, back, hfront, hback, rfl⟩ := h
    have hkept : ∀ {blanks : String}, Text.isBlankText blanks = true →
        ∀ c ∈ blanks.toList.filter (· ≠ ':'), Text.isBlank c = true := fun hblank c hc =>
      List.all_eq_true.1 hblank c (List.mem_of_mem_filter hc)
    simp only [Session.barePortName, String.toList_append, List.filter_append]
    rw [Text.trimChars_blanks_around (hkept hfront) (hkept hback)]
  | colon front back => simp [Session.barePortName]

theorem NetworkInterface.Rewritten.trim_eq {i i' : NetworkInterface} (h : i.Rewritten i') :
    Text.trim i'.addressV4 = Text.trim i.addressV4 := by
  cases h with
  | address h => exact h.trim_eq

/-- A letter in the other case does not make a name another protocol's. -/
theorem Text.sameIgnoringCase_letterCase {c d : Char} (h : SameLetter c d) {protocol : String}
    (hascii : ∀ p ∈ lowerAscii protocol, p.toNat ≤ 127) (front back : List Char) :
    sameIgnoringCase (.ofList (front ++ d :: back)) protocol =
      sameIgnoringCase (.ofList (front ++ c :: back)) protocol := by
  have hbeyond : ∀ {e : Char}, 127 < e.toNat →
      (front ++ e :: back).map Char.toLower ≠ lowerAscii protocol := by
    intro e he heq
    have hsame : e.toLower = e := by
      refine dif_neg fun hcapital => ?_
      have hle : e.toNat ≤ 90 := UInt32.le_iff_toNat_le.1 hcapital.2
      omega
    have hmem : e ∈ lowerAscii protocol := by
      rw [← heq, List.map_append, List.map_cons, hsame]
      exact List.mem_append_right _ List.mem_cons_self
    have hle := hascii e hmem
    omega
  rw [Bool.eq_iff_iff, sameIgnoringCase, sameIgnoringCase, beq_iff_eq, beq_iff_eq]
  simp only [lowerAscii, String.toList_ofList] at hbeyond ⊢
  rcases h with hsame | ⟨hc, hd⟩
  · rw [List.map_append, List.map_append, List.map_cons, List.map_cons, hsame]
  · exact iff_of_false (hbeyond hd) (hbeyond hc)

theorem Initiator.Rewritten.holds_iff {g g' : Initiator} (h : g.Rewritten g') {protocol : String}
    (hascii : ∀ p ∈ Text.lowerAscii protocol, p.toNat ≤ 127) (identifier : String) :
    g'.Holds protocol identifier ↔ g.Holds protocol identifier := by
  cases h with
  | letterCase h => rw [Holds, Holds, Text.sameIgnoringCase_letterCase h hascii]
  | identifiers h =>
    refine and_congr_right fun _ => h.exists_mem_iff fun given given' hpadded => ?_
    rw [hpadded.trim_eq]

theorem Initiator.Rewritten.init_eq_nil_iff {g g' : Initiator} (h : g.Rewritten g') :
    g'.init = [] ↔ g.init = [] := by
  cases h with
  | letterCase => rfl
  | identifiers h =>
    have hany := h.exists_mem_iff (P := fun _ => True) fun _ _ _ => Iff.rfl
    simp only [and_true] at hany
    rw [List.eq_nil_iff_forall_not_mem, List.eq_nil_iff_forall_not_mem, ← not_exists, ← not_exists, hany]

namespace Session

variable {v v' : Volume} {h h' : Host}

/-- The protocols that nodes are asked for have names in ASCII. -/
theorem isAscii_protocols : ∀ protocol ∈ ["iscsi", "fc"],
    ∀ p ∈ Text.lowerAscii protocol, p.toNat ≤ 127 := by
  intro protocol hprotocol
  have hall : ∀ q ∈ ["iscsi", "fc"], (Text.lowerAscii q).all (·.toNat ≤ 127) = true := by decide
  simpa using hall protocol hprotocol

/-- What is shown does not depend on how it is written. -/
theorem Restated.marks_eq (hr : Restated (v, h) (v', h')) :
    v'.marks = v.marks ∧ h'.marks = h.marks ∧ h'.hasInitiators = h.hasInitiators := by
  have hgrouped : ∀ {groups : List Initiator},
      (∀ protocol ∈ ["iscsi", "fc"], ∀ n,
        (∃ g ∈ groups, g.Holds protocol n) ↔ ∃ g ∈ h.initiators, g.Holds protocol n) →
      ({ h with initiators := groups } : Host).marks = h.marks := fun hsame =>
    Marks.ext (Set.ext (hsame "iscsi" (by simp))) rfl (Set.ext (hsame "fc" (by simp)))
  cases hr with
  | iscsi hsessions =>
    refine ⟨Marks.ext (Set.ext fun n => and_congr_right fun _ => ?_)
      (Set.ext fun a => and_congr_right fun _ => ?_) rfl, rfl, rfl⟩
    · exact hsessions.exists_mem_iff fun s s' hs => by rw [hs.trim_eq.1]
    · exact hsessions.exists_mem_iff fun s s' hs => by rw [hs.trim_eq.2]
  | fc hsessions =>
    refine ⟨Marks.ext rfl rfl (Set.ext fun p => and_congr_right fun _ => ?_), rfl, rfl⟩
    exact hsessions.exists_mem_iff fun s s' hs => by rw [hs.barePortName_eq]
  | initiators hgroups =>
    refine ⟨rfl, hgrouped fun protocol hp n => ?_, ?_⟩
    · exact hgroups.exists_mem_iff fun g g' hg => hg.holds_iff (isAscii_protocols protocol hp) n
    · rw [Bool.eq_iff_iff, Host.hasInitiators_iff, Host.hasInitiators_iff]
      exact hgroups.exists_mem_iff fun g g' hg => not_congr hg.init_eq_nil_iff
  | split hgroups =>
    refine ⟨rfl, hgrouped fun protocol _ n => ?_, ?_⟩
    · simp only [hgroups, List.mem_append, List.mem_cons, or_and_right, exists_or, exists_eq_left,
        Initiator.Holds, and_or_left, or_assoc]
    · rw [Bool.eq_iff_iff, Host.hasInitiators_iff, Host.hasInitiators_iff]
      simp only [hgroups, List.mem_append, List.mem_cons, or_and_right, exists_or, exists_eq_left,
        ne_eq, List.append_eq_nil_iff, not_and_or, or_assoc]
  | interfaces hinterfaces =>
    refine ⟨rfl, Marks.ext rfl (Set.ext fun a => ?_) rfl, rfl⟩
    exact hinterfaces.exists_mem_iff fun i i' hi => by rw [hi.trim_eq]

/-- What is shown is shown still when something is added. -/
theorem Extended.marks_within (he : Extended (v, h) (v', h')) :
    v.marks.Within v'.marks ∧ h.marks.Within h'.marks ∧
      (h.hasInitiators = true → h'.hasInitiators = true) := by
  have hkept : ∀ {α : Type} {xs front back : List α} (x : α), xs = front ++ back →
      ∀ {P : α → Prop}, (∃ y ∈ xs, P y) → ∃ y ∈ front ++ x :: back, P y := by
    rintro α xs front back x rfl P ⟨y, hy, hP⟩
    refine ⟨y, ?_, hP⟩
    simp only [List.mem_append, List.mem_cons] at hy ⊢
    exact hy.imp_right .inr
  cases he with
  | iscsi session hsessions =>
    exact ⟨⟨fun n hn => hn.imp_right (hkept session hsessions),
      fun a ha => ha.imp_right (hkept session hsessions), subset_rfl⟩, .refl _, id⟩
  | fc session hsessions =>
    exact ⟨⟨subset_rfl, subset_rfl, fun p hp => hp.imp_right (hkept session hsessions)⟩, .refl _, id⟩
  | @identifier _ _ front back protocol init more identifier hgroups =>
    have hgrown : ∀ {P : Initiator → Prop},
        (P ⟨protocol, init ++ more⟩ → P ⟨protocol, init ++ identifier :: more⟩) →
          (∃ g ∈ h.initiators, P g) →
            ∃ g ∈ front ++ ⟨protocol, init ++ identifier :: more⟩ :: back, P g := by
      intro P hP
      simp only [hgroups, List.mem_append, List.mem_cons, or_and_right, exists_or, exists_eq_left]
      exact Or.imp_right (Or.imp_left hP)
    have hheld : ∀ p n, (∃ g ∈ h.initiators, g.Holds p n) →
        ∃ g ∈ front ++ ⟨protocol, init ++ identifier :: more⟩ :: back, Initiator.Holds g p n :=
      fun p n => hgrown (And.imp_right (hkept identifier rfl))
    refine ⟨.refl _, ⟨hheld "iscsi", subset_rfl, hheld "fc"⟩, ?_⟩
    rw [Host.hasInitiators_iff, Host.hasInitiators_iff]
    exact hgrown fun _ => by simp
  | group group hgroups =>
    refine ⟨.refl _, ⟨fun n => hkept group hgroups, subset_rfl, fun p => hkept group hgroups⟩, ?_⟩
    rw [Host.hasInitiators_iff, Host.hasInitiators_iff]
    exact hkept group hgroups
  | interface interface hinterfaces =>
    exact ⟨.refl _, ⟨subset_rfl, fun a => hkept interface hinterfaces, subset_rfl⟩, id⟩

/-- Blank names and addresses show nothing. -/
theorem marks_blank_iscsi {front back : List IscsiSession} {s : IscsiSession}
    (hsessions : v.iscsiSessions = front ++ s :: back)
    (hname : Text.isBlankText s.initiatorName = true) (hip : Text.isBlankText s.initiatorIp = true) :
    ({ v with iscsiSessions := front ++ back } : Volume).marks = v.marks := by
  have hdropped : ∀ {shown : IscsiSession → String} {mark : String}, shown s = "" → mark ≠ "" →
      ((∃ t ∈ front ++ back, shown t = mark) ↔ ∃ t ∈ v.iscsiSessions, shown t = mark) := by
    intro shown mark hblank hmark
    simp [hsessions, or_and_right, exists_or, hblank, hmark.symm]
  exact Marks.ext (Set.ext fun n => and_congr_right (hdropped (Text.trim_eq_empty hname)))
    (Set.ext fun a => and_congr_right (hdropped (Text.trim_eq_empty hip))) rfl

/-- Blanks and colons alone make no port name. -/
theorem marks_blank_fc {front back : List FcSession} {s : FcSession}
    (hsessions : v.fcSessions = front ++ s :: back)
    (hwwpn : ∀ c ∈ s.initiatorWwpn.toList, Text.isBlank c = true ∨ c = ':') :
    ({ v with fcSessions := front ++ back } : Volume).marks = v.marks := by
  have hbare : barePortName s.initiatorWwpn = "" := by
    have hblank : ∀ c ∈ s.initiatorWwpn.toList.filter (· ≠ ':'), Text.isBlank c = true := by
      intro c hc
      obtain ⟨hc, hcolon⟩ := List.mem_filter.1 hc
      exact (hwwpn c hc).resolve_right (of_decide_eq_true hcolon)
    rw [barePortName, Text.trimChars_eq_nil_iff.2 hblank]
  refine Marks.ext rfl rfl (Set.ext fun p => and_congr_right fun hp => ?_)
  simp [hsessions, or_and_right, exists_or, hbare, hp.symm]

/-- Whether a node is among the sessions of a volume does not depend on how they are written down.
Nothing that is added takes the node out of them, a node without identifiers is in none, and a blank
session is nobody's. -/
theorem isAttachedTo_however_written (v : Volume) (h : Host) :
    (∀ v' h', Relation.EqvGen Restated (v, h) (v', h') → v'.isAttachedTo h' = v.isAttachedTo h) ∧
    (∀ v' h', Relation.ReflTransGen Extended (v, h) (v', h') →
      v.isAttachedTo h = true → v'.isAttachedTo h' = true) ∧
    ((∀ g ∈ h.initiators, g.init = []) → v.isAttachedTo h = false) ∧
    (∀ front s back, v.iscsiSessions = front ++ s :: back →
      Text.isBlankText s.initiatorName = true → Text.isBlankText s.initiatorIp = true →
        v.isAttachedTo h = { v with iscsiSessions := front ++ back }.isAttachedTo h) ∧
    ∀ front s back, v.fcSessions = front ++ s :: back →
      (∀ c ∈ s.initiatorWwpn.toList, Text.isBlank c = true ∨ c = ':') →
        v.isAttachedTo h = { v with fcSessions := front ++ back }.isAttachedTo h := by
  refine ⟨fun v' h' hr => ?restated, fun v' h' he => ?extended, fun hempty => ?empty,
    fun front s back hs hname hip => ?blankIscsi, fun front s back hs hwwpn => ?blankFc⟩
  case restated =>
    suffices ∀ p q, Relation.EqvGen Restated p q → q.1.isAttachedTo q.2 = p.1.isAttachedTo p.2 from
      this _ _ hr
    intro p q hpq
    induction hpq with
    | rel p q hstep =>
      obtain ⟨hv, hh, hrecorded⟩ := hstep.marks_eq
      exact Volume.isAttachedTo_congr hv hh hrecorded
    | refl => rfl
    | symm _ _ _ ih => exact ih.symm
    | trans _ _ _ _ _ ih ih' => exact ih'.trans ih
  case extended =>
    suffices ∀ q, Relation.ReflTransGen Extended (v, h) q →
        v.isAttachedTo h = true → q.1.isAttachedTo q.2 = true from this _ he
    intro q hq hattached
    induction hq with
    | refl => exact hattached
    | tail _ hstep ih =>
      obtain ⟨hv, hh, hrecorded⟩ := hstep.marks_within
      exact Volume.isAttachedTo_mono hv hh hrecorded ih
  case empty =>
    have hnone : h.hasInitiators = false := by
      rw [Bool.eq_false_iff, ne_eq, Host.hasInitiators_iff]
      rintro ⟨g, hg, hinit⟩
      exact hinit (hempty g hg)
    rw [Volume.isAttachedTo, hnone, Bool.false_and]
  case blankIscsi => exact (Volume.isAttachedTo_congr (marks_blank_iscsi hs hname hip) rfl rfl).symm
  case blankFc => exact (Volume.isAttachedTo_congr (marks_blank_fc hs hwwpn) rfl rfl).symm

/-- A port name with colons and a protocol name in capitals leave a node where it is, and so does an
interface more; without identifiers it is nowhere; and nobody is met by blanks and colons. -/
theorem isAttachedTo_colons_and_capitals :
    let h : Host := { uuid := "h", initiators := [⟨"fc", ["10c9"]⟩] }
    let v : Volume := { name := "v", iscsiSessions := [⟨" ", ""⟩], fcSessions := [⟨"10c9"⟩, ⟨": :"⟩] }
    v.isAttachedTo h = true ∧
      ({ v with fcSessions := [⟨"10:c9"⟩, ⟨": :"⟩] } : Volume).isAttachedTo
        { h with initiators := [⟨"fC", ["10c9"]⟩] } = true ∧
      v.isAttachedTo { h with networkInterfaces := [{ name := "eth0" }] } = true ∧
      v.isAttachedTo { h with initiators := [⟨"fc", []⟩] } = false ∧
      ({ v with iscsiSessions := [] } : Volume).isAttachedTo h = true ∧
      ({ v with fcSessions := [⟨"10c9"⟩] } : Volume).isAttachedTo h = true := by
  intro h v
  have hattached : v.isAttachedTo h = true := by decide +kernel
  have hcolon : FcSession.Rewritten ⟨"10c9"⟩ ⟨"10:c9"⟩ := .colon "10" "c9"
  have hcapital : Initiator.Rewritten ⟨"fc", ["10c9"]⟩ ⟨"fC", ["10c9"]⟩ :=
    @Initiator.Rewritten.letterCase ['f'] [] 'c' 'C' _ (.inl (by decide))
  have hfirst : Restated (v, h) ({ v with fcSessions := [⟨"10:c9"⟩, ⟨": :"⟩] }, h) :=
    .fc (@Relisted.rewritten FcSession _ _ _ [] [FcSession.mk ": :"] hcolon)
  have hthen : Restated ({ v with fcSessions := [⟨"10:c9"⟩, ⟨": :"⟩] }, h)
      ({ v with fcSessions := [⟨"10:c9"⟩, ⟨": :"⟩] }, { h with initiators := [⟨"fC", ["10c9"]⟩] }) :=
    .initiators (@Relisted.rewritten _ _ _ _ [] [] hcapital)
  have hextended : Extended (v, h) (v, { h with networkInterfaces := [{ name := "eth0" }] }) :=
    @Extended.interface v h [] [] { name := "eth0" } rfl
  obtain ⟨hrestate, hextend, -, hiscsi, hfc⟩ := isAttachedTo_however_written v h
  refine ⟨hattached, (hrestate _ _ (.trans _ _ _ (.rel _ _ hfirst) (.rel _ _ hthen))).trans hattached,
    hextend _ _ (.single hextended) hattached, ?_, ?_, ?_⟩
  · exact (isAttachedTo_however_written v _).2.2.1 (by simp)
  · exact (hiscsi [] ⟨" ", ""⟩ [] rfl (by decide) (by decide)).symm.trans hattached
  · have hblank : ∀ c ∈ ": :".toList, Text.isBlank c = true ∨ c = ':' := by
      have hall : (": :".toList.all fun c => Text.isBlank c || c == ':') = true := by decide
      simpa using hall
    exact (hfc [⟨"10c9"⟩] ⟨": :"⟩ [] rfl hblank).symm.trans hattached

end Session
end VolumeLifecycle
