import UidPolicy.Config.Load
import UidPolicy.Proofs.Pinned.Loading

/-!
# The directory of the pinned maps

The check of the settings looks at the components of the directory's name, and opening the maps
joins raw texts. The two agree: what passes the check leads to one directory right below the root
of the BPF file system, and the maps are right below that one.

- `SingleName`: a text that is one name, whatever separators and dots stand behind it.
- `Config.validate_eq_ok_iff`: the check accepts these names below an absolute path.
- `Config.validate_of_loadOrDefaultBy`: every configuration that loading answers passes the check,
  whichever reader finds it in whichever file.
- `Config.components_pinned`: where the paths of the maps lead.
- `BelowRoot`, `loaded_belowRoot`: where a command with a loaded configuration opens the maps.
-/

namespace UidPolicy

/-! ## Single names -/

/-- The text is the name of an entry. Nothing stands behind it, or a separator and then nothing
between separators but dots. -/
structure SingleName (text name : List Char) : Prop where
  nonempty : name ≠ []
  segment : '/' ∉ name
  notDot : name ≠ ['.']
  notDots : name ≠ ['.', '.']
  whole : text = name ∨ ∃ rest, text = name ++ '/' :: rest ∧
    ∀ part ∈ rest.splitOn '/', part = [] ∨ part = ['.']

namespace SingleName

variable {text name : List Char} (h : SingleName text name)

include h

theorem component?_eq : Path.component? name = some (.normal name) :=
  Path.component?_eq_normal_iff.2 ⟨rfl, h.nonempty, h.notDot, h.notDots⟩

/-- The name is the first segment, and the other segments mean nothing. -/
theorem segments_eq : ∃ more, Path.segments text = name :: more ∧
    ∀ part ∈ more, Path.component? part = none := by
  rcases h.whole with htext | ⟨rest, htext, hrest⟩
  · exact ⟨[], by rw [htext, Path.segments_of_not_mem h.segment], nofun⟩
  · refine ⟨Path.segments rest, ?_, fun part hpart => ?_⟩
    · rw [htext, Path.segments_append, Path.segments_of_not_mem h.segment, List.singleton_append]
    · rw [Path.segments_eq_splitOn] at hpart
      exact Path.component?_eq_none_iff.2 (hrest part hpart)

end SingleName

namespace Path

/-- A path that starts with the name of an entry has no other component before it. -/
theorem components_of_segments {path : String} {first : List Char} {more : List (List Char)}
    (hpath : segments path.toList = first :: more)
    (hfirst : component? first = some (.normal first)) :
    components path = .normal first :: more.filterMap component? := by
  obtain ⟨-, hempty, hdot, -⟩ := component?_eq_normal_iff.1 hfirst
  have hleading : leading? (first :: more) = none := by
    rw [leading?.eq_def]
    split
    · next heq => exact absurd (List.cons.inj heq).1 hempty
    · next heq => exact absurd (List.cons.inj heq).1 hdot
    · rfl
  rw [components, hpath, hleading, List.filterMap_cons, hfirst]
  rfl

end Path

namespace Config

/-- A path is a single name iff its first segment is one and the other segments mean nothing. -/
theorem isSingleName_iff_segments {path : String} {first : List Char} {more : List (List Char)}
    (hpath : Path.segments path.toList = first :: more) :
    isSingleName path = true ↔ Path.component? first = some (.normal first) ∧
      ∀ part ∈ more, Path.component? part = none := by
  by_cases hfirst : Path.component? first = some (.normal first)
  · rw [isSingleName, Path.components_of_segments hpath hfirst, ← List.filterMap_eq_nil_iff]
    cases more.filterMap Path.component? with
    | nil => exact ⟨fun _ => ⟨hfirst, rfl⟩, fun _ => rfl⟩
    | cons component components => exact ⟨nofun, fun h => nomatch h.2⟩
  · -- then the components begin with the root, with dots, or not at all
    have hother : first = [] ∨ first = ['.'] ∨ first = ['.', '.'] := by
      rw [Path.component?_eq_normal_iff] at hfirst
      refine Decidable.byContradiction fun hnot => ?_
      rw [not_or, not_or] at hnot
      exact hfirst ⟨rfl, hnot⟩
    refine ⟨fun hsingle => ?_, fun h => absurd h.1 hfirst⟩
    rw [isSingleName, Path.components, hpath] at hsingle
    rcases hother with rfl | rfl | rfl
    · cases more with
      | nil => cases hsingle
      | cons segment more => cases hsingle
    · cases hsingle
    · cases hsingle

/-- **Single names**, as a text: one segment that is neither empty nor a dot or two, with nothing
behind it that means anything. -/
theorem isSingleName_iff {path : String} :
    isSingleName path = true ↔ ∃ name, SingleName path.toList name := by
  constructor
  · intro hsingle
    -- a text without a separator is its own only segment; otherwise the first one is the name
    rcases Path.segments_cases path.toList with ⟨hname, hpath⟩ | ⟨first, rest, hname, htext, hpath⟩
    · obtain ⟨hfirst, -⟩ := (isSingleName_iff_segments hpath).1 hsingle
      obtain ⟨-, hempty, hdot, hdots⟩ := Path.component?_eq_normal_iff.1 hfirst
      exact ⟨path.toList, hempty, hname, hdot, hdots, .inl rfl⟩
    · obtain ⟨hfirst, hmore⟩ := (isSingleName_iff_segments hpath).1 hsingle
      obtain ⟨-, hempty, hdot, hdots⟩ := Path.component?_eq_normal_iff.1 hfirst
      refine ⟨first, hempty, hname, hdot, hdots, .inr ⟨rest, htext, fun part hpart => ?_⟩⟩
      rw [← Path.segments_eq_splitOn] at hpart
      exact Path.component?_eq_none_iff.1 (hmore part hpart)
  · rintro ⟨name, hname⟩
    obtain ⟨more, hpath, hmore⟩ := hname.segments_eq
    exact (isSingleName_iff_segments hpath).2 ⟨hname.component?_eq, hmore⟩

/-- **The check accepts** a single name below an absolute path, and nothing else. Dots and repeated
separators are accepted where they mean nothing. -/
theorem validate_eq_ok_iff {c : Config} : c.validate = .ok () ↔
    (∃ rest, c.bpfFs.toList = '/' :: rest) ∧ ∃ name, SingleName c.pinDir.toList name := by
  have habsolute : Path.isAbsolute c.bpfFs = true ↔ ∃ rest, c.bpfFs.toList = '/' :: rest := by
    rw [Path.isAbsolute, beq_iff_eq, List.head?_eq_some_iff]
  rw [← habsolute, ← isSingleName_iff, validate]
  -- the two checks are made in turn, and each has an error of its own
  cases Path.isAbsolute c.bpfFs with
  | false =>
    constructor
    · intro hok
      cases hok
    · rintro ⟨hroot, -⟩
      cases hroot
  | true =>
    cases isSingleName c.pinDir with
    | false =>
      constructor
      · intro hok
        cases hok
      · rintro ⟨-, hname⟩
        cases hname
    | true => exact ⟨fun _ => ⟨rfl, rfl⟩, fun _ => rfl⟩

/-! ## Loading -/

theorem validate_of_parseBy {read : String → Option Config} {text : String} {c : Config}
    (h : parseBy read text = .ok c) : c.validate = .ok () := by
  rw [parseBy] at h
  cases hread : read text with
  | none =>
    rw [hread] at h
    cases h
  | some found =>
    rw [hread] at h
    dsimp only at h
    cases hvalid : found.validate with
    | error e =>
      rw [hvalid] at h
      cases h
    | ok u =>
      rw [hvalid] at h
      cases h
      exact hvalid

/-- What is found in a file has passed the check. -/
theorem validate_of_loadBy {read : String → Option Config} {path : String} {files : Files}
    {c : Config} (h : ((loadBy read path).run files).result = .ok c) : c.validate = .ok () := by
  obtain ⟨-, -, h⟩ := Act.of_run_bind_ok h
  obtain ⟨content, -, h⟩ := Act.of_run_bind_ok h
  -- a file that cannot be read is no configuration, and what is read is checked before it is
  -- answered
  cases content with
  | error e => cases h
  | ok text =>
    dsimp only at h
    cases hparse : parseBy read text with
    | error e =>
      rw [hparse] at h
      cases h
    | ok found =>
      rw [hparse] at h
      cases h
      exact validate_of_parseBy hparse

theorem validate_default : default.validate = .ok () := rfl

/-- **Every configuration that loading answers has passed the check**, whichever file it was found
in and whatever reads the file. -/
theorem validate_of_loadOrDefaultBy {read : String → Option Config} {path : String}
    {allowMissing : Bool} {files : Files} {c : Config}
    (h : ((loadOrDefaultBy read path allowMissing).run files).result = .ok c) :
    c.validate = .ok () := by
  obtain ⟨found, hfound, h⟩ := Act.of_run_bind_ok h
  cases found with
  | ok c' =>
    cases h
    exact validate_of_loadBy (Except.ok.inj hfound)
  | error e =>
    dsimp only at h
    split at h
    · obtain ⟨-, -, h⟩ := Act.of_run_bind_ok h
      cases h
      exact validate_default
    · cases h

/-! ## Paths -/

/-- A single name is a relative path that adds one entry. -/
theorem names_pinDir {c : Config} {name : List Char} (hname : SingleName c.pinDir.toList name) :
    Path.isAbsolute c.pinDir = false ∧ Path.names c.pinDir = [.normal name] := by
  obtain ⟨more, hpath, hmore⟩ := hname.segments_eq
  constructor
  · rw [Bool.eq_false_iff]
    intro habsolute
    rw [Path.isAbsolute, beq_iff_eq, List.head?_eq_some_iff] at habsolute
    obtain ⟨rest, hrest⟩ := habsolute
    rw [hrest, Path.segments_separator] at hpath
    exact hname.nonempty (List.cons.inj hpath).1.symm
  · rw [Path.names, hpath, List.filterMap_cons, hname.component?_eq,
      List.filterMap_eq_nil_iff.2 hmore]

/-- **Where the paths of the maps lead**: from the root to the directory of the single name, and
there to the entry with the name of the map. -/
theorem components_pinned {c : Config} {rest name : List Char}
    (hroot : c.bpfFs.toList = '/' :: rest) (hname : SingleName c.pinDir.toList name) (m : MapName) :
    Path.components (Path.join c.pinRoot m.pin)
      = Path.components c.bpfFs ++ [.normal name, .normal m.pin.toList] := by
  have habsolute : Path.isAbsolute c.bpfFs = true := by
    rw [Path.isAbsolute, hroot]
    rfl
  have hpin : Path.names m.pin = [.normal m.pin.toList] := by
    rw [Path.names, Path.segments_of_not_mem m.separator_not_mem_pin, List.filterMap_cons,
      m.component?_pin]
    rfl
  obtain ⟨hbelow, hnames⟩ := names_pinDir hname
  -- the pin root is itself a join, so there are two joins to take apart
  calc Path.components (Path.join c.pinRoot m.pin)
      = Path.components c.pinRoot ++ Path.names m.pin :=
        Path.components_join (Path.isAbsolute_join habsolute) m.isAbsolute_pin
    _ = Path.components c.bpfFs ++ Path.names c.pinDir ++ Path.names m.pin := by
        rw [pinRoot, Path.components_join habsolute hbelow]
    _ = Path.components c.bpfFs ++ [.normal name, .normal m.pin.toList] := by
        rw [hnames, hpin, List.append_assoc, List.singleton_append]

end Config

/-- A command with this configuration opens the maps in one directory right below the root of the
BPF file system. -/
structure BelowRoot (c : Config) : Prop where
  valid : c.validate = .ok ()
  /-- The path of a map has the components of the root, the name of the directory, and the name of
  the map. -/
  below : ∃ name, SingleName c.pinDir.toList name ∧ ∀ m : MapName,
    Path.components (Path.join c.pinRoot m.pin)
      = Path.components c.bpfFs ++ [.normal name, .normal m.pin.toList]
  /-- Different maps have different paths, so that no two of them are taken for one. -/
  distinct : ∀ m m' : MapName,
    Path.join c.pinRoot m.pin = Path.join c.pinRoot m'.pin → m = m'
  /-- What a command does to open the maps is to open these paths in a row, and no other path. -/
  opened : ∀ readOnly, ∃ ws next,
    ws.map Wish.path = MapName.all.map (fun m => Path.join c.pinRoot m.pin) ∧
      ∀ k, ((PinnedMaps.openFor c readOnly).run k).result
          = ((Pinned.openThen ws next).run k).result.mapError (PinnedMaps.Error.mk c.pinRoot) ∧
        ((PinnedMaps.openFor c readOnly).run k).world = ((Pinned.openThen ws next).run k).world

/-- What passes the check stays below the root. -/
theorem belowRoot_of_validate {c : Config} (hvalid : c.validate = .ok ()) : BelowRoot c := by
  obtain ⟨⟨rest, hroot⟩, name, hname⟩ := Config.validate_eq_ok_iff.1 hvalid
  have hbelow := Config.components_pinned hroot hname
  refine ⟨hvalid, ⟨name, hname, hbelow⟩, fun m m' hsame => ?_, fun readOnly => ?_⟩
  · have hpaths := congrArg Path.components hsame
    rw [hbelow, hbelow] at hpaths
    have hpins : m.pin.toList = m'.pin.toList := by simpa using hpaths
    exact MapName.pin_injective (String.toList_inj.1 hpins)
  · refine ⟨PinnedMaps.commandWishes c readOnly, _, ?_, PinnedMaps.run_openFor c readOnly⟩
    rw [PinnedMaps.commandWishes, PinnedMaps.wishes, List.map_map]
    rfl

/-- **Every loaded configuration keeps the maps right below the root**, with whatever reader, from
whatever file, and where default settings stand for a missing one. The check accepts exactly an
absolute path and a single name. -/
theorem loaded_belowRoot :
    (∀ c : Config, c.validate = .ok () ↔
        (∃ rest, c.bpfFs.toList = '/' :: rest) ∧ ∃ name, SingleName c.pinDir.toList name) ∧
      ∀ (read : String → Option Config) (files : Files) (path : String) (allowMissing : Bool)
        (c : Config), ((Config.loadOrDefaultBy read path allowMissing).run files).result = .ok c →
          BelowRoot c :=
  ⟨fun _ => Config.validate_eq_ok_iff,
    fun _ _ _ _ _ hloaded => belowRoot_of_validate (Config.validate_of_loadOrDefaultBy hloaded)⟩

/-- Separators and dots where they mean nothing. -/
def dottedConfig : Config := { Config.default with bpfFs := "//mnt/./bpf/", pinDir := "netd/.//" }

/-- A reader finds it in an empty file, and it is one directory below the root. -/
theorem dottedConfig_belowRoot :
    ((Config.loadOrDefaultBy (fun _ => some dottedConfig) "netmaps.yaml" false).run
        (.single "netmaps.yaml" (.ok (.file 0o100644 [])))).result = .ok dottedConfig ∧
      BelowRoot dottedConfig ∧
      Path.components (Path.join dottedConfig.pinRoot MapName.uidOwner.pin)
        = [.root, .normal "mnt".toList, .normal "bpf".toList, .normal "netd".toList,
            .normal "map_netd_uid_owner_map".toList] := by
  have hloaded : ((Config.loadOrDefaultBy (fun _ => some dottedConfig) "netmaps.yaml" false).run
      (.single "netmaps.yaml" (.ok (.file 0o100644 [])))).result = .ok dottedConfig := rfl
  exact ⟨hloaded, loaded_belowRoot.2 _ _ _ _ _ hloaded, by decide⟩

end UidPolicy
