import BarTemplate.Command.Options
import BarTemplate.Proofs.Disk

/-!
# The options in effect

A run has options in effect at a depth (`Resolved`) if its configuration can be had (`Configured`) and every depth that
it is given is sound (`Sound`). Main statements: these are then its options (`resolve_ok_iff`); otherwise the
configuration cannot be had, for one reason (`Unconfigured`), or a depth is none and is told (`resolve_error_iff`).
-/

namespace BarTemplate

/-! ## Values -/

namespace Setting

/-- A setting that is a depth: a positive integer. -/
def IsDepth (v : Setting) : Prop :=
  ∃ i : Int, v = .integer i ∧ 1 ≤ i

/-- A setting is taken for a depth exactly if it is one. -/
theorem depth_ok_iff {v : Setting} {origin : Text} {i : Int} :
    v.depth origin = .ok i ↔ v = .integer i ∧ 1 ≤ i := by
  cases v with
  | integer j =>
    by_cases h : 1 ≤ j
    · simp only [depth, h, if_true, Except.ok.injEq, integer.injEq]
      constructor
      · rintro rfl
        exact ⟨rfl, h⟩
      · exact And.left
    · simp only [depth, h, if_false, integer.injEq]
      constructor
      · intro e
        cases e
      · intro e
        obtain ⟨rfl, hi⟩ := e
        exact absurd hi h
  | _ => simp [depth]

/-- A setting is refused exactly if it is no depth, with its origin and itself. -/
theorem depth_error_iff {v : Setting} {origin : Text} {e : DepthError} :
    v.depth origin = .error e ↔ ¬ v.IsDepth ∧ e = ⟨origin, v⟩ := by
  cases h : v.depth origin with
  | ok i => simp [IsDepth, depth_ok_iff.mp h]
  | error e' =>
    have bad : ¬ v.IsDepth := by
      intro isDepth
      obtain ⟨i, hi⟩ := isDepth
      cases h.symm.trans (depth_ok_iff.mpr hi)
    have told : e' = ⟨origin, v⟩ := by
      unfold depth at h
      split at h
      · split at h <;> cases h
        rfl
      · cases h
        rfl
    simp [bad, told, eq_comm]

/-- An integer occurs in a value. -/
inductive Contains (i : Int) : Setting → Prop where
  | integer : Contains i (.integer i)
  | list {v : Setting} {items : List Setting} (item : v ∈ items) (inner : Contains i v) : Contains i (.list items)
  | table {key : Text} {v : Setting} {entries : List (Text × Setting)} (entry : (key, v) ∈ entries)
      (inner : Contains i v) : Contains i (.table entries)

/-- An integer with more digits than are shown occurs in a value. -/
def ContainsLong (v : Setting) : Prop :=
  ∃ i, v.Contains i ∧ Numeral.maxDigits < (Text.ofNat i.natAbs).length

mutual

/-- A value is too long to be shown exactly if an integer in it is. -/
theorem isLong_iff : ∀ v : Setting, v.isLong = true ↔ v.ContainsLong
  | .null | .flag _ | .binary _ | .text _ | .date _ | .time _ | .moment _ => by
    refine ⟨fun h => by simp [isLong] at h, ?_⟩
    intro h
    obtain ⟨i, inner, -⟩ := h
    cases inner
  | .integer i => by
    rw [isLong, decide_eq_true_iff]
    constructor
    · exact fun long => ⟨i, .integer, long⟩
    · intro h
      obtain ⟨_, ⟨⟩, long⟩ := h
      exact long
  | .list items => by
    rw [isLong, isLongAmong_iff items]
    constructor
    · intro h
      obtain ⟨v, hv, i, inner, long⟩ := h
      exact ⟨i, .list hv inner, long⟩
    · intro h
      rcases h with ⟨i, ⟨⟩ | ⟨hv, inner⟩, long⟩
      exact ⟨_, hv, i, inner, long⟩
  | .table entries => by
    rw [isLong, isLongUnder_iff entries]
    constructor
    · intro h
      obtain ⟨key, v, hv, i, inner, long⟩ := h
      exact ⟨i, .table hv inner, long⟩
    · intro h
      rcases h with ⟨i, ⟨⟩ | ⟨⟩ | ⟨hv, inner⟩, long⟩
      exact ⟨_, _, hv, i, inner, long⟩

/-- The same for the items of a list. -/
theorem isLongAmong_iff : ∀ vs : List Setting, isLongAmong vs = true ↔ ∃ v ∈ vs, v.ContainsLong
  | [] => by simp [isLongAmong]
  | v :: vs => by simp [isLongAmong, isLong_iff v, isLongAmong_iff vs]

/-- The same for the entries of a table. -/
theorem isLongUnder_iff : ∀ entries : List (Text × Setting),
    isLongUnder entries = true ↔ ∃ key v, (key, v) ∈ entries ∧ v.ContainsLong
  | [] => by simp [isLongUnder]
  | (key, v) :: entries => by
    rw [isLongUnder, Bool.or_eq_true, isLong_iff v, isLongUnder_iff entries]
    constructor
    · intro h
      rcases h with long | ⟨key', w, hw, long⟩
      · exact ⟨key, v, List.mem_cons_self, long⟩
      · exact ⟨key', w, List.mem_cons_of_mem _ hw, long⟩
    · intro h
      obtain ⟨key', w, hw, long⟩ := h
      rcases List.mem_cons.mp hw with same | hw
      · cases same
        exact Or.inl long
      · exact Or.inr ⟨key', w, hw, long⟩

end

end Setting

/-- A configuration gives a depth: its table `parser` has an entry `max_depth`, whatever that is. -/
def Table.GivesDepth (config : Table) (v : Setting) : Prop :=
  ∃ parser : Table, config.get? "parser" = some (.table parser) ∧ parser.get? "max_depth" = some v

/-- The depth that is looked up in a configuration is the one that it gives. -/
theorem Table.depth?_eq_some_iff {config : Table} {v : Setting} : config.depth? = some v ↔ config.GivesDepth v := by
  unfold Table.depth? Table.GivesDepth
  split
  case h_1 parser section_ =>
    simp only [section_, Option.some.injEq, Setting.table.injEq]
    exact ⟨fun h => ⟨parser, rfl, h⟩, fun ⟨_, same, h⟩ => same ▸ h⟩
  case h_2 none =>
    refine ⟨nofun, ?_⟩
    intro h
    obtain ⟨parser, section_, -⟩ := h
    exact absurd section_ (none parser)

/-- A configuration gives one depth at most. -/
theorem Table.GivesDepth.unique {config : Table} {v w : Setting} (h : config.GivesDepth v) (h' : config.GivesDepth w) :
    v = w :=
  Option.some.inj ((depth?_eq_some_iff.mpr h).symm.trans (depth?_eq_some_iff.mpr h'))

namespace Command

variable {a : Arguments} {disk : Disk} {host : Host} {o : Options} {config : Table} {v : Setting} {depth : Int}

/-! ## Paths -/

/-- A word of a command line names a path: it is there, and not empty. -/
def Names (word : Option Text) (p : Path) : Prop :=
  ∃ t, word = some t ∧ t ≠ [] ∧ p = .ofText t

/-- A word of a command line names nothing: it is missing, or empty. -/
def NamesNothing (word : Option Text) : Prop :=
  word = none ∨ word = some []

/-- A word is read as the path that it names. -/
theorem path?_eq_some_iff {word : Option Text} {p : Path} : path? word = some p ↔ Names word p := by
  unfold Names
  rcases word with _ | _ | ⟨c, t⟩ <;> simp [path?, eq_comm]

/-- A word is read as no path if it is absent or empty. -/
theorem path?_eq_none_iff {word : Option Text} : path? word = none ↔ NamesNothing word := by
  unfold NamesNothing
  rcases word with _ | _ | ⟨c, t⟩ <;> simp [path?]

/-- A word names one path. -/
theorem Names.unique {word : Option Text} {p q : Path} (h : Names word p) (h' : Names word q) : p = q :=
  Option.some.inj ((path?_eq_some_iff.mpr h).symm.trans (path?_eq_some_iff.mpr h'))

/-- A word that names a path does not name nothing. -/
theorem Names.not_nothing {word : Option Text} {p : Path} (h : Names word p) : ¬ NamesNothing word := fun h' => by
  cases (path?_eq_some_iff.mpr h).symm.trans (path?_eq_none_iff.mpr h')

/-- Where the configuration of a run is: where the command line says, or else under the usual name beside the input file
or, if there is none, in the working directory. -/
inductive ConfigAt (a : Arguments) : Path → Prop where
  | named {p : Path} (config : Names a.config p) : ConfigAt a p
  | beside {p : Path} (config : NamesNothing a.config) (input : Names a.input p) (file : p ≠ standardInput) :
      ConfigAt a { root := p.root, parts := p.parts.dropLast ++ [configFilename] }
  | here (config : NamesNothing a.config) (input : NamesNothing a.input ∨ Names a.input standardInput) :
      ConfigAt a { root := [], parts := [configFilename] }

/-- The path of the configuration is where it is. -/
theorem configAt_iff {p : Path} : ConfigAt a p ↔ configPath a = p := by
  unfold configPath
  cases hc : path? a.config with
  | some q =>
    have config := path?_eq_some_iff.mp hc
    constructor
    · intro h
      rcases h with config' | ⟨nothing, -, -⟩ | ⟨nothing, -⟩
      · exact config.unique config'
      · exact absurd nothing config.not_nothing
      · exact absurd nothing config.not_nothing
    · rintro rfl
      exact .named config
  | none =>
    have config := path?_eq_none_iff.mp hc
    cases hi : path? a.input with
    | none =>
      have input := path?_eq_none_iff.mp hi
      constructor
      · intro h
        rcases h with config' | ⟨-, input', -⟩ | -
        · exact absurd config config'.not_nothing
        · exact absurd input input'.not_nothing
        · rfl
      · rintro rfl
        exact .here config (Or.inl input)
    | some q =>
      have input := path?_eq_some_iff.mp hi
      by_cases hq : q = standardInput
      · simp only [hq, if_true]
        subst hq
        constructor
        · intro h
          rcases h with config' | ⟨-, input', file⟩ | -
          · exact absurd config config'.not_nothing
          · exact absurd (input'.unique input) file
          · rfl
        · rintro rfl
          exact .here config (Or.inr input)
      · simp only [hq, if_false]
        constructor
        · intro h
          rcases h with config' | ⟨-, input', -⟩ | ⟨-, nothing | hyphen⟩
          · exact absurd config config'.not_nothing
          · rw [input.unique input']
            rfl
          · exact absurd nothing input.not_nothing
          · exact absurd (input.unique hyphen) hq
        · rintro rfl
          exact .beside config input hq

/-- The configuration of a run is in one place. -/
theorem ConfigAt.unique {p q : Path} (h : ConfigAt a p) (h' : ConfigAt a q) : p = q :=
  (configAt_iff.mp h).symm.trans (configAt_iff.mp h')

/-! ## The configuration -/

/-- The configuration of a run: empty if there is no such file, or the table in the file. -/
inductive Configured (a : Arguments) (disk : Disk) (host : Host) : Table → Prop where
  | absent {p : Path} (place : ConfigAt a p) (absent : disk.Absent p) : Configured a disk host []
  | file {p : Path} {document : Text} {config : Table} (place : ConfigAt a p) (present : ¬ disk.Absent p)
      (holds : disk.Holds p document) (able : host.readFault document = none)
      (parse : Toml.parse document = .ok config) : Configured a disk host config

/-- The configuration of a run cannot be had: there is a file that is no text, the machine fails at reading it, or it is
no document. -/
inductive Unconfigured (a : Arguments) (disk : Disk) (host : Host) : ConfigError → Prop where
  | file {p : Path} {e : ReadError} (place : ConfigAt a p) (present : ¬ disk.Absent p) (lacks : disk.Lacks p e) :
      Unconfigured a disk host (.file e)
  | host {p : Path} {document fault : Text} (place : ConfigAt a p) (present : ¬ disk.Absent p)
      (holds : disk.Holds p document) (fails : host.readFault document = some fault) :
      Unconfigured a disk host (.host fault)
  | document {p : Path} {document : Text} {f : Toml.Fault} (place : ConfigAt a p) (present : ¬ disk.Absent p)
      (holds : disk.Holds p document) (able : host.readFault document = none)
      (parse : Toml.parse document = .error f) : Unconfigured a disk host (.document f)

/-- The configuration is loaded exactly if it can be had. -/
theorem loadConfig_ok_iff : loadConfig disk host (configPath a) = .ok config ↔ Configured a disk host config := by
  constructor
  · intro h
    have place : ConfigAt a (configPath a) := configAt_iff.mpr rfl
    unfold loadConfig at h
    split at h
    case h_1 => cases h
    case h_2 read =>
      cases h
      exact .absent place (Disk.readText?_none_iff.mp read)
    case h_3 document read =>
      obtain ⟨present, holds⟩ := Disk.readText?_some_iff.mp read
      split at h
      case h_1 => cases h
      case h_2 able =>
        split at h
        case h_1 => cases h
        case h_2 parse =>
          cases h
          exact .file place present holds able parse
  · intro h
    rcases h with ⟨place, absent⟩ | ⟨place, present, holds, able, parse⟩
    · rw [configAt_iff.mp place, loadConfig, Disk.readText?_none_iff.mpr absent]
    · rw [configAt_iff.mp place, loadConfig, Disk.readText?_some_iff.mpr ⟨present, holds⟩]
      simp only [able, parse]

/-- The configuration is not loaded exactly if it cannot be had. -/
theorem loadConfig_error_iff {e : ConfigError} :
    loadConfig disk host (configPath a) = .error e ↔ Unconfigured a disk host e := by
  constructor
  · intro h
    have place : ConfigAt a (configPath a) := configAt_iff.mpr rfl
    unfold loadConfig at h
    split at h
    case h_1 read =>
      cases h
      obtain ⟨present, lacks⟩ := Disk.readText?_error_iff.mp read
      exact .file place present lacks
    case h_2 => cases h
    case h_3 document read =>
      obtain ⟨present, holds⟩ := Disk.readText?_some_iff.mp read
      split at h
      case h_1 fails =>
        cases h
        exact .host place present holds fails
      case h_2 able =>
        split at h
        case h_1 parse =>
          cases h
          exact .document place present holds able parse
        case h_2 => cases h
  · intro h
    rcases h with ⟨place, present, lacks⟩ | ⟨place, present, holds, fails⟩ | ⟨place, present, holds, able, parse⟩
    · rw [configAt_iff.mp place, loadConfig, Disk.readText?_error_iff.mpr ⟨present, lacks⟩]
    · rw [configAt_iff.mp place, loadConfig, Disk.readText?_some_iff.mpr ⟨present, holds⟩]
      simp only [fails]
    · rw [configAt_iff.mp place, loadConfig, Disk.readText?_some_iff.mpr ⟨present, holds⟩]
      simp only [able, parse]

/-- A run has one configuration. -/
theorem Configured.unique {config' : Table} (h : Configured a disk host config)
    (h' : Configured a disk host config') : config = config' := by
  have both := (loadConfig_ok_iff.mpr h).symm.trans (loadConfig_ok_iff.mpr h')
  exact Except.ok.inj both

/-! ## The depth -/

/-- The value that a run takes for its depth: that of the command line, or else that of the configuration, or else the
default. -/
inductive InEffect (a : Arguments) (config : Table) : Setting → Prop where
  | given {v : Setting} (given : a.maxDepth = some v) : InEffect a config v
  | configured {v : Setting} (given : a.maxDepth = none) (configured : config.GivesDepth v) : InEffect a config v
  | default (given : a.maxDepth = none) (configured : ∀ v, ¬ config.GivesDepth v) :
      InEffect a config (.integer Nesting.defaultDepth)

/-- All depths that a run is given are sound, also one that is not in effect, and this one is. -/
structure Sound (a : Arguments) (config : Table) (depth : Int) : Prop where
  configured : ∀ v, config.GivesDepth v → v.IsDepth
  given : ∀ v, a.maxDepth = some v → v.IsDepth
  inEffect : InEffect a config (.integer depth)

/-- The first value that a run is given for a depth and that is none. -/
inductive FirstBad (a : Arguments) (config : Table) : Setting → Prop where
  | configured {v : Setting} (configured : config.GivesDepth v) (bad : ¬ v.IsDepth) : FirstBad a config v
  | given {v : Setting} (configured : ∀ w, config.GivesDepth w → w.IsDepth) (given : a.maxDepth = some v)
      (bad : ¬ v.IsDepth) : FirstBad a config v

/-- One value is in effect. -/
theorem InEffect.unique {w : Setting} (h : InEffect a config v) (h' : InEffect a config w) : v = w := by
  cases h with
  | given given =>
    cases h' with
    | given given' => exact Option.some.inj (given.symm.trans given')
    | configured given' | default given' => cases given.symm.trans given'
  | configured given configured =>
    cases h' with
    | given given' => cases given.symm.trans given'
    | configured _ configured' => exact Table.GivesDepth.unique configured configured'
    | default _ none => exact absurd configured (none v)
  | default given none =>
    cases h' with
    | given given' => cases given.symm.trans given'
    | configured _ configured' => exact absurd configured' (none w)
    | default => rfl

/-- The depth in effect is positive if all depths are sound. -/
theorem Sound.positive (h : Sound a config depth) : 1 ≤ depth := by
  have counts : ∀ {v : Setting}, v = .integer depth → v.IsDepth → 1 ≤ depth := by
    rintro v rfl ⟨i, hi, positive⟩
    cases hi
    exact positive
  obtain ⟨configured, given, inEffect⟩ := h
  generalize hv : Setting.integer depth = v at inEffect
  cases inEffect with
  | given hg => exact counts hv.symm (given v hg)
  | configured _ hc => exact counts hv.symm (configured v hc)
  | default =>
    cases hv
    decide

/-- The depth of a configuration. -/
def configuredDepth (config : Table) : Except DepthError Int :=
  match config.depth? with
  | none => .ok Nesting.defaultDepth
  | some v => v.depth "config"

/-- The depth of the configuration is found first, and then the one of the command line. -/
theorem depthOf_eq (a : Arguments) (config : Table) :
    depthOf a config = (configuredDepth config).bind fun d =>
      match a.maxDepth with
      | none => .ok d
      | some v => v.depth "--max-depth" := by
  unfold depthOf configuredDepth
  cases config.depth? <;> rfl

/-- A configuration without a depth that is bad has the depth that it gives, or else the default. -/
theorem configuredDepth_ok_iff : configuredDepth config = .ok depth ↔ (∀ v, config.GivesDepth v → v.IsDepth) ∧
    (config.GivesDepth (.integer depth) ∨ (∀ v, ¬ config.GivesDepth v) ∧ depth = Nesting.defaultDepth) := by
  simp only [← Table.depth?_eq_some_iff]
  unfold configuredDepth
  cases config.depth? with
  | none => simp [eq_comm]
  | some v =>
    simp only [Setting.depth_ok_iff, Option.some.injEq]
    constructor
    · intro h
      obtain ⟨rfl, positive⟩ := h
      refine ⟨?_, Or.inl rfl⟩
      rintro _ rfl
      exact ⟨depth, rfl, positive⟩
    · intro h
      rcases h with ⟨sound, rfl | ⟨none, -⟩⟩
      · obtain ⟨i, ⟨⟩, positive⟩ := sound _ rfl
        exact ⟨rfl, positive⟩
      · exact absurd rfl (none v)

/-- The depth of a configuration is refused exactly if it gives one that is bad. -/
theorem configuredDepth_error_iff {e : DepthError} :
    configuredDepth config = .error e ↔ ∃ v, config.GivesDepth v ∧ ¬ v.IsDepth ∧ e = ⟨"config", v⟩ := by
  simp only [← Table.depth?_eq_some_iff]
  unfold configuredDepth
  cases config.depth? with
  | none => simp
  | some v => simp [Setting.depth_error_iff]

/-- A depth is in effect exactly if all depths are sound. -/
theorem depthOf_ok_iff : depthOf a config = .ok depth ↔ Sound a config depth := by
  rw [depthOf_eq]
  cases hc : configuredDepth config with
  | error e =>
    obtain ⟨v, gives, bad, -⟩ := configuredDepth_error_iff.mp hc
    exact ⟨nofun, fun sound => absurd (sound.configured v gives) bad⟩
  | ok c =>
    obtain ⟨configured, counts⟩ := configuredDepth_ok_iff.mp hc
    cases ha : a.maxDepth with
    | none =>
      have inEffect : InEffect a config (.integer c) := by
        rcases counts with gives | ⟨none, rfl⟩
        · exact .configured ha gives
        · exact .default ha none
      constructor
      · rintro ⟨⟩
        exact ⟨configured, fun v hv => (nomatch ha.symm.trans hv), inEffect⟩
      · intro sound
        rw [Setting.integer.inj (sound.inEffect.unique inEffect)]
        rfl
    | some v =>
      -- The depth of the configuration is not in effect, but has been checked.
      refine Iff.trans Setting.depth_ok_iff ⟨?_, ?_⟩
      · intro h
        obtain ⟨rfl, positive⟩ := h
        refine ⟨configured, ?_, .given ha⟩
        intro w hw
        cases ha.symm.trans hw
        exact ⟨depth, rfl, positive⟩
      · intro sound
        exact ⟨(InEffect.given ha).unique sound.inEffect, sound.positive⟩

/-- Where a depth is refused, that is the first that is bad. -/
theorem firstBad_of_error {e : DepthError} (h : depthOf a config = .error e) : FirstBad a config e.value := by
  rw [depthOf_eq] at h
  cases hc : configuredDepth config with
  | error e' =>
    obtain ⟨v, gives, bad, rfl⟩ := configuredDepth_error_iff.mp hc
    rw [hc] at h
    cases h
    exact .configured gives bad
  | ok c =>
    obtain ⟨configured, -⟩ := configuredDepth_ok_iff.mp hc
    rw [hc] at h
    cases ha : a.maxDepth with
    | none =>
      rw [ha] at h
      cases h
    | some v =>
      rw [ha] at h
      obtain ⟨bad, rfl⟩ := Setting.depth_error_iff.mp h
      exact .given configured ha bad

/-- A depth is refused exactly if there is a first one that is bad. -/
theorem depthOf_error_iff : (∃ e, depthOf a config = .error e ∧ e.value = v) ↔ FirstBad a config v := by
  constructor
  · intro h
    obtain ⟨e, h, rfl⟩ := h
    exact firstBad_of_error h
  · intro h
    cases hd : depthOf a config with
    | ok depth =>
      obtain ⟨configured, given, -⟩ := depthOf_ok_iff.mp hd
      cases h with
      | configured gives bad => exact absurd (configured v gives) bad
      | given _ ha bad => exact absurd (given v ha) bad
    | error e =>
      refine ⟨e, rfl, ?_⟩
      cases firstBad_of_error hd with
      | configured gives bad =>
        cases h with
        | configured gives' => exact gives.unique gives'
        | given configured => exact absurd (configured _ gives) bad
      | given configured ha =>
        cases h with
        | configured gives bad => exact absurd (configured _ gives) bad
        | given _ ha' => exact Option.some.inj (ha.symm.trans ha')

/-! ## Options -/

/-- The options in effect, at a depth. -/
def Arguments.optionsAt (a : Arguments) (depth : Int) : Options where
  input := path? a.input
  templates := a.templates
  output := path? a.output
  maxDepth := depth
  check := a.check
  debug := a.debug
  verbose := a.verbose

/-- A run has options in effect at a depth: its configuration can be had, and all depths are sound. -/
def Resolved (a : Arguments) (disk : Disk) (host : Host) (depth : Int) : Prop :=
  ∃ config, Configured a disk host config ∧ Sound a config depth

/-- One depth is in effect. -/
theorem Resolved.unique {depth' : Int} (h : Resolved a disk host depth) (h' : Resolved a disk host depth') :
    depth = depth' := by
  obtain ⟨config, configured, sound⟩ := h
  obtain ⟨config', configured', sound'⟩ := h'
  cases configured.unique configured'
  exact Setting.integer.inj (sound.inEffect.unique sound'.inEffect)

/-- The depth in effect is positive. -/
theorem Resolved.positive (h : Resolved a disk host depth) : 1 ≤ depth := by
  obtain ⟨config, -, sound⟩ := h
  exact sound.positive

/-- There are options in effect exactly if they are at a depth. -/
theorem resolve_ok_iff : a.resolve disk host = .ok o ↔ ∃ depth, Resolved a disk host depth ∧ o = a.optionsAt depth := by
  unfold Arguments.resolve
  constructor
  · intro h
    split at h
    case h_1 => cases h
    case h_2 config load =>
      split at h
      case h_1 => cases h
      case h_2 depth hd =>
        cases h
        exact ⟨depth, ⟨config, loadConfig_ok_iff.mp load, depthOf_ok_iff.mp hd⟩, rfl⟩
  · intro h
    obtain ⟨depth, ⟨config, configured, sound⟩, rfl⟩ := h
    rw [loadConfig_ok_iff.mpr configured]
    simp only [depthOf_ok_iff.mpr sound]
    rfl

/-- There are none exactly if the configuration cannot be had, or a depth is refused. -/
theorem resolve_error_iff {e : ConfigError} : a.resolve disk host = .error e ↔ Unconfigured a disk host e ∨
    ∃ config d, Configured a disk host config ∧ depthOf a config = .error d ∧ e = .ofDepth host d := by
  unfold Arguments.resolve
  constructor
  · intro h
    split at h
    case h_1 load =>
      cases h
      exact Or.inl (loadConfig_error_iff.mp load)
    case h_2 config load =>
      split at h
      case h_1 d hd =>
        cases h
        exact Or.inr ⟨config, d, loadConfig_ok_iff.mp load, hd, rfl⟩
      case h_2 => cases h
  · intro h
    rcases h with unconfigured | ⟨config, d, configured, hd, rfl⟩
    · rw [loadConfig_error_iff.mpr unconfigured]
    · rw [loadConfig_ok_iff.mpr configured]
      simp only [hd]

end Command

end BarTemplate
