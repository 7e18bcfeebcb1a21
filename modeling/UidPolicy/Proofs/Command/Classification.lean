import UidPolicy.Program
import UidPolicy.Proofs.Command.Controllers
import UidPolicy.Proofs.Command.Handles
import UidPolicy.Proofs.Pinned.Loading

/-!
# The classes of commands

Three tables have to agree: which commands are taken to only read, how the maps are opened for
each class, and which calls the commands issue.

- `Command.Fits`: what a run of a command over opened maps comes to, given the trail of its calls.
- `Command.fits_of_opened`: every command fits the handles that are opened for its class.
- `Program.failsWith_operate`: a run of the program does not end in an unsupported operation.
- `commands_classified`: both together.
-/

namespace UidPolicy

/-- A command fits its handles, as a run of it shows, and the trail of the calls of this run.
Nothing is assumed of the machine, so other processes may interfere at every call. -/
structure Command.Fits (c : Command) (format : OutputFormat) (m : PinnedMaps) (k : Kernel)
    (trail : List TrailEntry) : Prop where
  /-- The trail is that of this run, and to write it down changes nothing. -/
  audit : (c.run m.backing.audited format).run ⟨k, []⟩
    = ⟨((c.run m.backing format).run k).result, ⟨((c.run m.backing format).run k).world, trail⟩,
        ((c.run m.backing format).run k).events⟩
  /-- The command does not fail as unsupported. -/
  supported : ∀ what, ((c.run m.backing format).run k).result ≠ .error (.unsupported what)
  /-- No call does, also none whose fault the command reports, renames or ignores. -/
  supportedCalls : ∀ entry ∈ trail, ∀ what, entry.fault ≠ some (.unsupported what)
  /-- No slot of an array is to be removed. -/
  slots : ∀ entry ∈ trail, ∀ map, entry.call = .delete map → map.shape.kind ≠ .array
  /-- A command that only reads issues no put, no delete and no barrier. -/
  reads : c.isReadOnly = true → ∀ entry ∈ trail, entry.call.isRead = true
  /-- What happens to the machine during such a command is what other processes do. -/
  meddling : c.isReadOnly = true →
    Kernel.meddling.allows k ((c.run m.backing format).run k).world
  /-- If they do nothing, all maps are unchanged. -/
  unchanged : c.isReadOnly = true → k.interference = [] →
    ((c.run m.backing format).run k).world = k

theorem Issued.isRead_of_permits {i : Issued} (h : Access.permits .readOnly i = true) :
    i.isRead = true := by
  cases i with
  | get | keys | indexOf | nameOf => rfl
  | put | delete | barrier => cases h

theorem Issued.kind_of_permits_delete {access : Access} {map : MapName}
    (h : access.permits (.delete map) = true) : map.shape.kind ≠ .array :=
  bne_iff_ne.1 (Bool.and_eq_true_iff.1 h).2

section Opened

variable {config : Config} {c : Command} {m : PinnedMaps}
  (hopened : ∃ k, ((PinnedMaps.openFor config c.isReadOnly).run k).result = .ok m)

include hopened

/-- A command keeps to the access that the maps are opened with: its class decides both, and no
command asks for more than its class. -/
theorem Command.keepsTo_of_opened (format : OutputFormat) :
    KeepsTo (config.modes c.isReadOnly).1 (config.modes c.isReadOnly).1.scope
      (c.run m.backing.audited format) (c.run m.backing format) := by
  obtain ⟨k, hopened⟩ := hopened
  have hread : (config.modes c.isReadOnly).1.canRead = true := by
    cases c.isReadOnly <;> rfl
  have hwrite : c.isReadOnly = false → (config.modes c.isReadOnly).1.canWrite = true := by
    intro hclass
    rw [hclass]
    rfl
  exact c.keepsTo (PinnedMaps.grants_backing (PinnedMaps.access_of_openFor hopened)) hread format
    hwrite

/-- **Every command fits the handles that are opened for its class**, in every state of the
machine. -/
theorem Command.fits_of_opened (format : OutputFormat) (k : Kernel) :
    ∃ trail, c.Fits format m k trail := by
  have hkeeps := c.keepsTo_of_opened hopened format
  obtain ⟨trail, haudit, hconforms⟩ := hkeeps.audit k []
  have hmeddling : c.isReadOnly = true →
      Kernel.meddling.allows k ((c.run m.backing format).run k).world := by
    intro hclass
    -- the access is `readOnly`, and its scope what others do
    have hwithin := hkeeps.within k
    rw [hclass] at hwithin
    exact hwithin
  exact ⟨trail, {
    audit := haudit
    supported := fun what hresult => hkeeps.failsWith k _ hresult what rfl
    supportedCalls := fun entry hentry what hfault =>
      (hconforms entry hentry).supported _ hfault what rfl
    slots := fun entry hentry map hdelete =>
      Issued.kind_of_permits_delete (hdelete ▸ (hconforms entry hentry).permitted)
    reads := fun hclass entry hentry => by
      have hpermitted := (hconforms entry hentry).permitted
      rw [hclass] at hpermitted
      exact Issued.isRead_of_permits hpermitted
    meddling := hmeddling
    unchanged := fun hclass hquiet => Kernel.eq_of_meddling hquiet (hmeddling hclass) }⟩

end Opened

/-! ## The program -/

/-- A failure other than that a command is not supported. -/
def Failure.Supported (f : Failure) : Prop := ∀ what, f ≠ .command (.unsupported what)

namespace Program

theorem failsWith_overMaps (config : Config) (format : OutputFormat) (c : Command) :
    (overMaps config format c).FailsWith Failure.Supported := by
  have hopening : ((PinnedMaps.openFor config c.isReadOnly).mapError Failure.maps).FailsWith
      Failure.Supported :=
    .mapError (P := fun _ => True) (fun _ _ _ => trivial) fun _ _ => nofun
  refine hopening.bind_answer fun m hm => ?_
  have hopened : ∃ k, ((PinnedMaps.openFor config c.isReadOnly).run k).result = .ok m := by
    obtain ⟨k, hm⟩ := hm
    exact ⟨k, Act.of_run_mapError_ok hm⟩
  have hcommand : ((c.run m.backing format).mapError Failure.command).FailsWith
      Failure.Supported :=
    (c.keepsTo_of_opened hopened format).failsWith.mapError fun e he what hfailure =>
      he what (Failure.command.inj hfailure)
  -- the command is attempted, the maps are closed, and only then its fault is raised
  refine ((Act.Answering.attempt _).failsWith _).bind_answer fun printed hprinted => ?_
  refine .bind (fun _ _ => nofun) fun _ => .ofExcept fun failure hfailure => ?_
  obtain ⟨k, hprinted⟩ := hprinted
  exact hcommand k failure ((Except.ok.inj hprinted).trans hfailure)

/-- **No command ends in an unsupported operation**, whatever the machine, the settings and the
directory are. -/
theorem failsWith_operate (config : Config) (format : OutputFormat) (c : Command) :
    (operate config format c).FailsWith Failure.Supported := by
  unfold operate
  split
  · exact (Act.Answering.pure _).failsWith _
  · exact failsWith_overMaps config format c

theorem supported_of_configure {current : Option Log.Subscriber} {env : Environment}
    {i : Cli.Invocation} {f : Failure} (h : configure current env i = .error f) :
    f.Supported := by
  unfold configure at h
  obtain hload | ⟨config, -, h⟩ := error_of_bind h
  · obtain ⟨_, -, rfl⟩ := error_of_mapError hload
    nofun
  · obtain hinstall | ⟨subscriber, -, h⟩ := error_of_bind h
    · obtain ⟨_, -, rfl⟩ := error_of_mapError hinstall
      nofun
    · cases h

theorem supported_of_run {env : Environment} {i : Cli.Invocation} {k : Kernel} {f : Failure}
    (h : (run env i k).1.failure = some f) : f.Supported := by
  unfold run at h
  -- a run ends without logging, without a configuration, or with what the operation over the maps
  -- answers
  split at h
  · cases h
  · cases hconfigure : configure none env i with
    | error f' =>
      rw [hconfigure] at h
      exact Option.some.inj h ▸ supported_of_configure hconfigure
    | ok settings =>
      obtain ⟨config, subscriber⟩ := settings
      rw [hconfigure] at h
      replace h : (answer ((operate config i.output i.command).run k).result).2 = some f := h
      cases hresult : ((operate config i.output i.command).run k).result with
      | error f' =>
        rw [hresult] at h
        exact Option.some.inj h ▸ failsWith_operate config i.output i.command k f' hresult
      | ok printed =>
        rw [hresult] at h
        obtain ⟨message, -, rfl⟩ := Option.map_eq_some_iff.1 h
        exact nofun

end Program

/-- **The classes of the commands match what they do.** Over the handles that are opened for its
class, every command with any arguments fits them in every state of the machine; and no run of the
program ends in an unsupported operation. -/
theorem commands_classified :
    (∀ (config : Config) (format : OutputFormat) (c : Command) (k₀ : Kernel) (m : PinnedMaps),
        ((PinnedMaps.openFor config c.isReadOnly).run k₀).result = .ok m →
        ∀ k, ∃ trail, c.Fits format m k trail) ∧
      ∀ (env : Environment) (i : Cli.Invocation) (k : Kernel) (what : String),
        (Program.run env i k).1.failure ≠ some (.command (.unsupported what)) :=
  ⟨fun _ format c k₀ _ hopened k => c.fits_of_opened ⟨k₀, hopened⟩ format k,
    fun _ _ _ what hfailure => Program.supported_of_run hfailure what rfl⟩

/-- The six maps of a new machine, opened with an access. -/
def freshMaps (access : Access) : PinnedMaps :=
  .ofHandles (MapName.all.map fun name =>
    ⟨name.place, name.pin, access, .handle name.place, name.capacity⟩)

/-- A machine with two rule records, where the second one cannot be removed. A clearing fails there
with a fault of the kernel, after it has removed the first one. -/
def stubbornKernel : Kernel :=
  let record : OwnerEntry := (OwnerRecord.empty.withMatch .lockdownVpn 0).toEntry
  let second : Bytes := Stored.encode (10200 : Uid)
  let rules := MapName.uidOwner.place
  { (Kernel.fresh.put rules (Stored.encode (10100 : Uid)) (Stored.encode record)).put
      rules second (Stored.encode record) with
    interference := [⟨rules, .delete, some second, .refuse Errno.inputOutput⟩] }

theorem stubbornKernel_init_fits :
    ((PinnedMaps.openFor Config.default Command.init.isReadOnly).run .fresh).result
        = .ok (freshMaps .readWrite) ∧
      ∃ trail, Command.init.Fits .text (freshMaps .readWrite) stubbornKernel trail := by
  have hopened : ((PinnedMaps.openFor Config.default Command.init.isReadOnly).run .fresh).result
      = .ok (freshMaps .readWrite) := by decide +kernel
  exact ⟨hopened, commands_classified.1 _ _ _ _ _ hopened _⟩

/-- The calls of this initialisation: it stops at the second record, before the slot of the data
saver. -/
example :
    ((Command.init.run (freshMaps .readWrite).backing.audited .text).run
        ⟨stubbornKernel, []⟩).world.trail.map (·.call)
      = [.put .configuration, .put .configuration, .keys .uidOwner, .delete .uidOwner,
          .delete .uidOwner] := by
  decide +kernel

end UidPolicy
