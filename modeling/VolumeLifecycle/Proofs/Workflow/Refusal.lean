import VolumeLifecycle.Proofs.Options.Layers
import VolumeLifecycle.Proofs.Options.Syntax
import VolumeLifecycle.Proofs.Workflow.CreateCourse
import VolumeLifecycle.Proofs.Workflow.ErrorText
import VolumeLifecycle.Proofs.Workflow.Inputs

namespace VolumeLifecycle

namespace Command

open Workflow

/-- The look-ups of the options that a command is given; those of a create go through the layers. -/
def options? (c : Config) : Command → Option (String → Option Json)
  | mount r | unmount r => some r.opts.get?
  | create r => some (Options.highest c.defaults c.selectedDefaults r.opts)
  | _ => none

/-- Something that is wrong with the input of a command, and what is said of it: a blank name, an option
outside of its grammar; for a create also options outside of their syntax, unless it asks for help; and
for a mount in cloud mode initiators that are missing or that this node does not have. -/
inductive Fault (c : Config) (described : Except Failure Host) : Command → Failure → Prop where
  | name {command : Command} {name : String} {op : Operation}
      (htarget : command.target? = some (name, op))
      (hblank : Text.isBlankText name = true) : Fault c described command nameRequired
  | option {command : Command} {look : String → Option Json} {f : Failure}
      (hlook : command.options? c = some look) (hoffence : Options.NamesOffence look f) :
    Fault c described command f
  | malformed {r : Runtime.CreateRequest} {options : Options} {f : Failure}
      (hlayers : Options.layered c.defaults c.selectedDefaults r.opts = .ok options)
      (hhelp : options.help = false) (hmalformed : Options.Malformed options f) :
    Fault c described (.create r) f
  | noInitiators {r : Runtime.MountRequest} {options : Options} {host : Host}
      (hcloud : c.cloudMode = true) (hhost : described = .ok host)
      (hoptions : Options.ofDict r.opts = .ok options) (hnone : options.initiators.getD [] = []) :
    Fault c described (.mount r) Workflow.noInitiators
  | noneMatches {r : Runtime.MountRequest} {options : Options} {host : Host} {wanted : List String}
      (hcloud : c.cloudMode = true) (hhost : described = .ok host)
      (hoptions : Options.ofDict r.opts = .ok options) (hwanted : options.initiators = some wanted)
      (hmissing : ∀ i ∈ host.networkInterfaces, i.name ∉ wanted ∧ i.addressV4 ∉ wanted) :
    Fault c described (.mount r) (Workflow.noneMatches wanted)

variable {c : Config} {described : Except Failure Host} {command : Command} {f : Failure}

/-- Whatever is wrong is an invalid argument. -/
theorem Fault.exists_text (h : Fault c described command f) : ∃ text, f = .invalidArgument text := by
  cases h with
  | name => exact ⟨_, rfl⟩
  | option _ hoffence =>
    obtain ⟨key, value, expected, -, -, -, rfl⟩ := hoffence
    exact ⟨_, rfl⟩
  | malformed _ _ hmalformed => cases hmalformed <;> exact ⟨_, rfl⟩
  | noInitiators => exact ⟨_, rfl⟩
  | noneMatches => exact ⟨_, rfl⟩

/-- A fault in what every command is checked for: its name, and its options if it is given some. -/
def IsCommonFault (c : Config) (command : Command) (f : Failure) : Prop :=
  (f = nameRequired ∧ ∃ name op, command.target? = some (name, op) ∧ Text.isBlankText name = true) ∨
    ∃ look, command.options? c = some look ∧ Options.NamesOffence look f

/-- A name that is refused is a fault of every command. -/
theorem fault_of_checkName {name : String} {op : Operation} (htarget : command.target? = some (name, op))
    (h : checkName name = .error f) : Fault c described command f := by
  obtain ⟨rfl, hblank⟩ := checkName_eq_error h
  exact .name htarget hblank

/-- Options that are refused are a fault of a create. -/
theorem fault_of_layered {r : Runtime.CreateRequest}
    (h : Options.layered c.defaults c.selectedDefaults r.opts = .error f) :
    Fault c described (.create r) f := by
  obtain ⟨key, value, hvalue, hcomplaint⟩ := Options.complaint_of_ofDict h
  rw [Options.get?_layers] at hvalue
  exact .option rfl (Options.namesOffence_of_complaint hvalue hcomplaint)

/-- A command that gathers its inputs has one of these faults, which is found, or none of them. -/
theorem checkedOptions_cases (described : Except Failure Host) (command : Command) {name : String}
    {op : Operation} {opts : Dict Json} (htarget : command.target? = some (name, op))
    (hlook : command.options? c = some opts.get? ∨ command.options? c = none ∧ opts = .empty) :
    (∃ f, Fault c described command f ∧ checkedOptions name opts = .error f) ∨
      ∃ o, checkedOptions name opts = .ok o ∧ Options.ofDict opts = .ok o ∧
        ∀ f, ¬IsCommonFault c command f := by
  unfold checkedOptions
  cases hname : checkName name with
  | error f => exact .inl ⟨f, fault_of_checkName htarget hname, rfl⟩
  | ok _ =>
    have hblank := checkName_eq_ok_iff.1 hname
    cases hread : Options.ofDict opts with
    | error f =>
      rcases hlook with hlook | ⟨-, rfl⟩
      · obtain ⟨key, value, hvalue, hcomplaint⟩ := Options.complaint_of_ofDict hread
        exact .inl ⟨f, .option hlook (Options.namesOffence_of_complaint hvalue hcomplaint), rfl⟩
      · cases hread
    | ok o =>
      refine .inr ⟨o, rfl, rfl, ?_⟩
      rintro f (⟨-, other, _, hother, hblank'⟩ | ⟨look, hlook', hoffence⟩)
      · cases htarget.symm.trans hother
        cases hblank.symm.trans hblank'
      · rcases hlook with hlook | ⟨hlook, -⟩
        · cases hlook.symm.trans hlook'
          exact (Options.ofDict_eq_ok_iff_lifts.1 hread).not_offence hoffence
        · cases hlook.symm.trans hlook'

/-- What the checks of a command make of its input, on a node that is described so. -/
def checked (c : Config) (described : Except Failure Host) : Command → Except Failure Unit
  | mount r => (gatheredMount c described r.name r.opts).map fun _ => ()
  | unmount r => (gathered described r.name r.opts).map fun _ => ()
  | create r => checkedCreate c described r
  | remove r | get r | path r => (gathered described r.name .empty).map fun _ => ()
  | _ => .ok ()

def AsksForHelp (c : Config) (command : Command) : Prop :=
  ∃ r options, command = .create r ∧
    Options.layered c.defaults c.selectedDefaults r.opts = .ok options ∧ options.help = true

theorem map_eq_error {α : Type} {x : Except Failure α} (h : (x.map fun _ => ()) = .error f) :
    x = .error f := by
  cases x with
  | error e => exact congrArg Except.error (Except.error.inj h)
  | ok a => cases h

/-- A command whose input does not pass the checks is answered with the complaint, at once. -/
theorem atOnce_of_checked {α : Type} {w : Workflow α} {respond : Except Failure α → Response}
    (h : CarriesOut c command w respond) (current : Host)
    (hchecked : command.checked c described = .error f) :
    (command.program c current).AtOnce described (respond (.error f)) := by
  have hworkflow : w.run.AtOnce described (.error f) := by
    cases h with
    | mount r =>
      have hgather := atOnce_gatherMount c described r.name r.opts
      rw [map_eq_error hchecked] at hgather
      exact atOnce_bind_error hgather
    | create r => exact atOnce_create hchecked
    | unmount r =>
      have hgather := atOnce_gather described r.name r.opts
      rw [map_eq_error hchecked] at hgather
      exact atOnce_bind_error hgather
    | remove r | get r | path r =>
      have hgather := atOnce_gather described r.name .empty
      rw [map_eq_error hchecked] at hgather
      exact atOnce_bind_error hgather
  rw [h.program_eq]
  exact hworkflow.andThen (.done rfl)

/-- Gathering inputs fails by a fault of the command, or nothing is wrong with it. -/
theorem gathered_cases {name : String} {op : Operation} {opts : Dict Json}
    (htarget : command.target? = some (name, op))
    (hlook : command.options? c = some opts.get? ∨ command.options? c = none ∧ opts = .empty)
    (hplain : ∀ f, Fault c described command f → IsCommonFault c command f) :
    (∃ f, Fault c described command f ∧ (gathered described name opts).map (fun _ => ()) = .error f) ∨
      (∀ f, ¬Fault c described command f) ∧
        (gathered described name opts).map (fun _ => ()) = described.map fun _ => () := by
  unfold gathered
  rcases checkedOptions_cases described command htarget hlook with
    ⟨f, hfault, hchecked⟩ | ⟨o, hchecked, -, hsound⟩
  · rw [hchecked]
    exact .inl ⟨f, hfault, rfl⟩
  · rw [hchecked]
    refine .inr ⟨fun f hf => hsound f (hplain f hf), ?_⟩
    cases described <;> rfl

/-- What a mount checks once its name and options are in order. -/
theorem checked_mount {r : Runtime.MountRequest} {o : Options}
    (h : checkedOptions r.name r.opts = .ok o) :
    (Command.mount r).checked c described = described >>= fun host =>
      if c.cloudMode then (restrictTo host o.initiators).map fun _ => () else .ok () := by
  simp only [checked, gatheredMount, gathered, h]
  cases described with
  | error f => rfl
  | ok host =>
    change Except.map _ (if c.cloudMode = true then _ else _) =
      if c.cloudMode = true then _ else (.ok () : Except Failure Unit)
    cases c.cloudMode with
    | false => rfl
    | true =>
      change Except.map _ (restrictTo host o.initiators >>= _) = _
      cases restrictTo host o.initiators <;> rfl

theorem gatheredMount_cases (r : Runtime.MountRequest) :
    (∃ f, Fault c described (.mount r) f ∧ (Command.mount r).checked c described = .error f) ∨
      (∀ f, ¬Fault c described (.mount r) f) ∧
        (Command.mount r).checked c described = described.map fun _ => () := by
  rcases checkedOptions_cases described (.mount r) rfl (.inl rfl) with
    ⟨f, hfault, hchecked⟩ | ⟨o, hchecked, hread, hsound⟩
  · refine .inl ⟨f, hfault, ?_⟩
    simp only [checked, gatheredMount, gathered, hchecked]
    rfl
  have hcloudy : ∀ f, Fault c described (.mount r) f →
      c.cloudMode = true ∧ ∃ host, described = .ok host ∧
        (o.initiators.getD [] = [] ∨ ∃ wanted, o.initiators = some wanted ∧
          ∀ i ∈ host.networkInterfaces, i.name ∉ wanted ∧ i.addressV4 ∉ wanted) := by
    intro f hf
    cases hf with
    | name htarget hblank => exact absurd (.inl ⟨rfl, _, _, htarget, hblank⟩) (hsound _)
    | option hlook hoffence => exact absurd (.inr ⟨_, hlook, hoffence⟩) (hsound _)
    | noInitiators hcloud hhost hoptions hnone =>
      cases hread.symm.trans hoptions
      exact ⟨hcloud, _, hhost, .inl hnone⟩
    | noneMatches hcloud hhost hoptions hwanted hmissing =>
      cases hread.symm.trans hoptions
      exact ⟨hcloud, _, hhost, .inr ⟨_, hwanted, hmissing⟩⟩
  rw [checked_mount hchecked]
  cases described with
  | error f =>
    refine .inr ⟨fun g hg => ?_, rfl⟩
    obtain ⟨-, host, ⟨⟩, -⟩ := hcloudy g hg
  | ok host =>
    change (∃ f, _ ∧ (if c.cloudMode = true then _ else (.ok () : Except Failure Unit)) = .error f) ∨
      _ ∧ (if c.cloudMode = true then _ else (.ok () : Except Failure Unit)) = .ok ()
    cases hcloud : c.cloudMode with
    | false =>
      exact .inr ⟨fun g hg => absurd (hcloudy g hg).1 (by simp [hcloud]), rfl⟩
    | true =>
      rw [if_pos rfl]
      rcases restrictTo_cases host o.initiators with
        ⟨hnone, hrestrict⟩ | ⟨names, hnames, hne, hfound⟩
      · refine .inl ⟨_, .noInitiators hcloud rfl hread hnone, ?_⟩
        rw [hrestrict]
        rfl
      rcases hfound with ⟨hmissing, hrestrict⟩ | ⟨⟨i, hi, hmatch⟩, kept, hrestrict⟩
      · refine .inl ⟨_, .noneMatches hcloud rfl hread hnames hmissing, ?_⟩
        rw [hrestrict]
        rfl
      · refine .inr ⟨fun g hg => ?_, ?_⟩
        · obtain ⟨-, node, ⟨⟩, hnone | ⟨wanted, hwanted, hmissing⟩⟩ := hcloudy g hg
          · exact hne (by simpa [hnames] using hnone)
          · cases hnames.symm.trans hwanted
            exact hmatch.elim (hmissing i hi).1 (hmissing i hi).2
        · rw [hrestrict]
          rfl

/-- The input of a create is refused for a fault, or nothing is wrong with it. -/
theorem checkedCreate_cases (c : Config) (described : Except Failure Host) (r : Runtime.CreateRequest) :
    (∃ f, Fault c described (.create r) f ∧ checkedCreate c described r = .error f) ∨
      (∀ f, ¬Fault c described (.create r) f) ∧
        (AsksForHelp c (.create r) ∨ checkedCreate c described r = described.map fun _ => ()) := by
  cases hname : checkName r.name with
  | error f =>
    refine .inl ⟨f, fault_of_checkName rfl hname, ?_⟩
    simp only [checkedCreate, hname]
    rfl
  | ok _ =>
  have hblank := checkName_eq_ok_iff.1 hname
  cases hlayers : Options.layered c.defaults c.selectedDefaults r.opts with
  | error f =>
    refine .inl ⟨f, fault_of_layered hlayers, ?_⟩
    simp only [checkedCreate, hname, hlayers]
    rfl
  | ok o =>
  have hlifts := Options.ofDict_eq_ok_iff_lifts.1 hlayers
  rw [funext (Options.get?_layers c.defaults c.selectedDefaults r.opts)] at hlifts
  have hmalformed : ∀ f, Fault c described (.create r) f → o.help = false ∧ Options.Malformed o f := by
    intro f hf
    cases hf with
    | name htarget hblank' =>
      cases htarget
      cases hblank.symm.trans hblank'
    | option hlook hoffence =>
      cases hlook
      exact absurd hoffence hlifts.not_offence
    | malformed hoptions hhelp hmalformed =>
      cases hlayers.symm.trans hoptions
      exact ⟨hhelp, hmalformed⟩
  cases hhelp : o.help with
  | true =>
    refine .inr ⟨fun f hf => ?_, .inl ⟨r, o, rfl, hlayers, hhelp⟩⟩
    cases hhelp.symm.trans (hmalformed f hf).1
  | false =>
  have hcheck : checkedCreate c described r = o.validate >>= fun _ => described.map fun _ => () := by
    simp only [checkedCreate, hname, hlayers]
    change (if o.help = true then _ else _) = _
    rw [hhelp]
    cases described <;> rfl
  rw [hcheck]
  cases hvalid : o.validate with
  | error f =>
    exact .inl ⟨f, .malformed hlayers hhelp (Options.malformed_of_validate hvalid), rfl⟩
  | ok _ => exact .inr ⟨fun f hf => (hmalformed f hf).2.validate_ne_ok hvalid, .inr rfl⟩

/-- The checks find out whether something is wrong with the input of a command: they end with one of the
things that are, or else as the description of this node does. Only a create that asks for help does not
need one. -/
theorem checked_cases {α : Type} {w : Workflow α} {respond : Except Failure α → Response}
    (h : CarriesOut c command w respond) (described : Except Failure Host) :
    (∃ f, Fault c described command f ∧ command.checked c described = .error f) ∨
      (∀ f, ¬Fault c described command f) ∧
        (AsksForHelp c command ∨ command.checked c described = described.map fun _ => ()) := by
  cases h with
  | mount r => exact (gatheredMount_cases r).imp_right fun ⟨hsound, heq⟩ => ⟨hsound, .inr heq⟩
  | create r => exact checkedCreate_cases c described r
  | unmount r =>
    refine (gathered_cases rfl (.inl rfl) ?_).imp_right fun ⟨hsound, heq⟩ => ⟨hsound, .inr heq⟩
    intro f hf
    cases hf with
    | name htarget hblank => exact .inl ⟨rfl, _, _, htarget, hblank⟩
    | option hlook hoffence => exact .inr ⟨_, hlook, hoffence⟩
  | remove r | get r | path r =>
    refine (gathered_cases rfl (.inr ⟨rfl, rfl⟩) ?_).imp_right fun ⟨hsound, heq⟩ => ⟨hsound, .inr heq⟩
    intro f hf
    cases hf with
    | name htarget hblank => exact .inl ⟨rfl, _, _, htarget, hblank⟩
    | option hlook hoffence => exact .inr ⟨_, hlook, hoffence⟩

/-- A create with whose input nothing is wrong and that does not ask for help is in order. -/
theorem exists_accepts {r : Runtime.CreateRequest} (hsound : ∀ f, ¬Fault c described (.create r) f)
    (hhelp : ¬AsksForHelp c (.create r)) : ∃ options, Accepts c r options := by
  have hname : checkName r.name = .ok () := by
    cases hname : checkName r.name with
    | ok _ => rfl
    | error f => exact absurd (fault_of_checkName rfl hname) (hsound f)
  cases hlayers : Options.layered c.defaults c.selectedDefaults r.opts with
  | error f => exact absurd (fault_of_layered hlayers) (hsound f)
  | ok options =>
    have hplain : options.help = false := by
      cases hasks : options.help with
      | false => rfl
      | true => exact absurd ⟨r, options, rfl, hlayers, hasks⟩ hhelp
    refine ⟨options, hname, hlayers, hplain, ?_⟩
    cases hvalid : options.validate with
    | ok _ => rfl
    | error f =>
      exact absurd (.malformed hlayers hplain (Options.malformed_of_validate hvalid)) (hsound f)

theorem count_creating {r : Request} {es : List Exchange} {x : Except Failure Volume}
    (h : Creating c r es x) : (kinds es).count (.provider .create) = 1 := by
  cases h with
  | unresolved reply _ => rfl
  | resolved reply _ hrest =>
    have hnone : (kinds _).count (.provider .create) = 0 := List.count_eq_zero.2 hrest.not_create
    change (Call.Kind.provider .create :: kinds _).count (.provider .create) = 1
    rw [List.count_cons_self, hnone]

/-- A create that is in order, and is told of its node, asks for the creation of one volume. -/
theorem count_create {r : Runtime.CreateRequest} {options : Options} (haccepts : Accepts c r options)
    {host : Host} {es : List Exchange} {x : Except Failure Created}
    (h : Ends (Workflow.create c r.name r.opts) es x)
    (hhost : ⟨.describeHost, (.ok host : Except Failure Host)⟩ ∈ es) :
    (kinds es).count (.provider .create) = 1 := by
  rcases ends_create haccepts h with ⟨f, -, rfl⟩ | ⟨node, inside, y, rfl, -, hcreating⟩
  · cases List.mem_singleton.1 hhost
  · change (kinds inside).count (.provider .create) = 1
    exact count_creating hcreating

/-- Input errors come before any effect. If something is wrong with the input of a command, then the command
is answered with what is said of one of the things that are wrong, an invalid argument, without having
called, slept or come to the gate. Without a description of this node the answer to any other input, except
for a create that asks for help, is that failure, and again nothing else has happened. With one, a create
with whose input nothing is wrong and that does not ask for help asks the provider for one volume. -/
theorem input_errors_first (c : Config) (current : Host) (described : Except Failure Host) :
    (∀ {command : Command} {α : Type} {w : Workflow α} {respond : Except Failure α → Response},
      CarriesOut c command w respond →
        ((∃ f, Fault c described command f) → ∃ f text, Fault c described command f ∧
          f = .invalidArgument text ∧ (respond (.error f)).err? = some text ∧
          (command.program c current).AtOnce described (respond (.error f))) ∧
        ∀ f, described = .error f → (∀ g, ¬Fault c described command g) → ¬AsksForHelp c command →
          (command.program c current).AtOnce described (respond (.error f))) ∧
    ∀ (r : Runtime.CreateRequest), (∀ f, ¬Fault c described (.create r) f) →
      ¬AsksForHelp c (.create r) → ∀ host es x, ((Command.create r).program c current).Runs es x →
        ⟨.describeHost, (.ok host : Except Failure Host)⟩ ∈ es →
          ∃ more answer, ((Command.create r).program c current).Runs (es ++ more) (some answer) ∧
            (x = none ∨ more = [] ∧ x = some answer) ∧
            (kinds (es ++ more)).count (.provider .create) = 1 := by
  refine ⟨fun {command _ _ respond} hcarries => ⟨fun hfault => ?_, fun f hf hsound hhelp => ?_⟩,
    fun r hsound hhelp host es x hruns hhost => ?_⟩
  · obtain ⟨f, hf, hchecked⟩ : ∃ f, Fault c described command f ∧
        command.checked c described = .error f := by
      refine (checked_cases hcarries described).resolve_right fun ⟨hsound, _⟩ => ?_
      obtain ⟨f, hf⟩ := hfault
      exact hsound f hf
    obtain ⟨text, rfl⟩ := hf.exists_text
    exact ⟨_, text, hf, rfl, hcarries.err?_respond _, atOnce_of_checked hcarries current hchecked⟩
  · rcases checked_cases hcarries described with ⟨g, hg, -⟩ | ⟨-, hasks | hchecked⟩
    · exact absurd hg (hsound g)
    · exact absurd hasks hhelp
    · rw [hf] at hchecked
      exact hf ▸ atOnce_of_checked hcarries current hchecked
  · obtain ⟨options, haccepts⟩ := exists_accepts hsound hhelp
    obtain ⟨more, answer, hend, hx⟩ := hruns.exists_completion
    refine ⟨more, answer, hend, hx, ?_⟩
    obtain ⟨made, hcreate, -⟩ := Command.runs_answering_iff.1 hend
    exact count_create haccepts hcreate (List.mem_append_left _ hhost)

def unsupported : Runtime.CreateRequest :=
  { name := "vol", opts := .ofList [(Options.Key.name .filesystem, .string "zfs")] }

/-- A create with a filesystem that is not supported, and one of a clone. -/
theorem input_errors_first_unsupported :
    (∃ f text, Fault {} (.ok cloning.host) (.create unsupported) f ∧ f = .invalidArgument text ∧
      ((Command.create unsupported).program {} cloning.host).AtOnce (.ok cloning.host)
        (.created { err := text })) ∧
      (kinds (cloned []).exchanges).count (.provider .create) = 1 := by
  obtain ⟨hrefused, hasked⟩ := input_errors_first {} cloning.host (.ok cloning.host)
  constructor
  · have hfault : ∃ f, Fault {} (.ok cloning.host) (.create unsupported) f :=
      ⟨_, .malformed rfl rfl (.filesystem rfl (by decide))⟩
    obtain ⟨f, text, hf, rfl, -, hends⟩ := (hrefused (.create unsupported)).1 hfault
    exact ⟨_, text, hf, rfl, hends⟩
  · let r : Runtime.CreateRequest := { name := "copy", opts := .ofList [("cloneOf", .string "base")] }
    have hname : checkName r.name = .ok () := if_neg (by decide)
    have hchecked : checkedCreate {} (.ok cloning.host) r = .ok () := by
      simp only [checkedCreate, hname]
      rfl
    have hclear : ∀ f, ¬Fault {} (.ok cloning.host) (.create r) f := by
      rcases checkedCreate_cases {} (.ok cloning.host) r with ⟨f, -, hf⟩ | ⟨hsound, -⟩
      · cases hchecked.symm.trans hf
      · exact hsound
    have hread : Options.layered .empty .empty r.opts = .ok { cloneOf := some "base" } := rfl
    have hplain : ¬AsksForHelp {} (.create r) := by
      rintro ⟨_, options, ⟨⟩, hlayers, hhelp⟩
      cases hread.symm.trans hlayers
      cases hhelp
    have hruns : ((Command.create r).program {} cloning.host).Runs (cloned []).exchanges
        (cloned []).outcome := Program.trace_runs _ _ _ _
    have hhost := List.mem_of_getElem? (i := 0) (l := (cloned []).exchanges) rfl
    have hended : (cloned []).outcome ≠ none := nofun
    obtain ⟨more, answer, -, hx, hcount⟩ := hasked r hclear hplain _ _ _ hruns hhost
    obtain ⟨rfl, -⟩ := hx.resolve_left hended
    rwa [List.append_nil] at hcount

/-- A mount in cloud mode that has no initiators is not refused for that if this node cannot be described:
it is answered with that failure. -/
theorem mount_without_host : ¬∀ (c : Config) (current : Host) (r : Runtime.MountRequest)
    (options : Options), c.cloudMode = true → Options.ofDict r.opts = .ok options →
      options.initiators = none → ∀ es x, ((Command.mount r).program c current).Runs es (some x) →
        x = .mounted (.ofResult (.error Workflow.noInitiators : Except Failure Path)) := by
  intro h
  have hruns : ((Command.mount { name := "vol1" }).program { cloudMode := true } cloning.host).Runs
      [⟨.describeHost, (.error (.host "no host") : Except Failure Host)⟩]
      (some (.mounted ⟨"", "no host"⟩)) := .asks rfl (.done rfl)
  have hanswer := h { cloudMode := true } cloning.host { name := "vol1" } {} rfl rfl rfl _ _ hruns
  exact absurd (congrArg Response.err? hanswer) (by decide)

end Command

end VolumeLifecycle
