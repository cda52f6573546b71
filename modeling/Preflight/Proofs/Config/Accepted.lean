import Preflight.Command.Settings
import Preflight.Proofs.Action

/-!
# Accepted configurations

A configuration is put together by hand, from a mapping, from a file, or from a file and a command
line.  Each of these ways ends with the same rules, or falls back on the standard configuration,
which keeps them, so whoever holds a configuration can rely on the rules without knowing where it
comes from.
-/

namespace Preflight

/-! ## The rules -/

namespace Config

/-- The rules of `Config.validate`, as facts about the settings. -/
structure Accepted (c : Config) : Prop where
  format : c.output ∈ outputFormats
  time : c.timeout.isSpent = false
  workers : 1 ≤ c.maxWorkers
  versions : c.target.isSome → c.current.isSome
  selectors : Selector.validateAll c.selectors = .ok ()

variable {c : Config}

theorem requireFormat_eq_ok_iff {output : String} :
    requireFormat output = .ok () ↔ output ∈ outputFormats := by
  rw [requireFormat]
  split <;> simp_all

theorem requireTime_eq_ok_iff : c.requireTime = .ok () ↔ c.timeout.isSpent = false := by
  rw [requireTime]
  cases c.timeout.isSpent <;> simp

theorem requireWorkers_eq_ok_iff : c.requireWorkers = .ok () ↔ 1 ≤ c.maxWorkers := by
  rw [requireWorkers]
  by_cases hfew : c.maxWorkers < 1
  · rw [if_pos hfew]
    constructor
    · intro hok
      obtain ⟨shown, -, hthrown⟩ := Fault.bind_eq_ok_iff.1 hok
      cases hthrown
    · intro henough
      exact absurd hfew (Int.not_lt.2 henough)
  · rw [if_neg hfew]
    exact iff_of_true rfl (Int.not_lt.1 hfew)

theorem requireVersions_eq_ok_iff :
    c.requireVersions = .ok () ↔ (c.target.isSome → c.current.isSome) := by
  rw [requireVersions]
  cases c.target <;> cases c.current <;> simp

theorem requireSelectors_eq_ok_iff :
    c.requireSelectors = .ok () ↔ Selector.validateAll c.selectors = .ok () :=
  Fault.mapError_eq_ok_iff

theorem validate_eq_ok_iff : c.validate = .ok () ↔ c.Accepted := by
  constructor
  · intro hvalid
    obtain ⟨⟨⟩, hformat, hvalid⟩ := Fault.bind_eq_ok_iff.1 hvalid
    obtain ⟨⟨⟩, htime, hvalid⟩ := Fault.bind_eq_ok_iff.1 hvalid
    obtain ⟨⟨⟩, hworkers, hvalid⟩ := Fault.bind_eq_ok_iff.1 hvalid
    obtain ⟨⟨⟩, hversions, hselectors⟩ := Fault.bind_eq_ok_iff.1 hvalid
    exact ⟨requireFormat_eq_ok_iff.1 hformat, requireTime_eq_ok_iff.1 htime,
      requireWorkers_eq_ok_iff.1 hworkers, requireVersions_eq_ok_iff.1 hversions,
      requireSelectors_eq_ok_iff.1 hselectors⟩
  · intro haccepted
    have hformat := requireFormat_eq_ok_iff.2 haccepted.format
    have htime := requireTime_eq_ok_iff.2 haccepted.time
    have hworkers := requireWorkers_eq_ok_iff.2 haccepted.workers
    have hversions := requireVersions_eq_ok_iff.2 haccepted.versions
    rw [validate, hformat, htime, hworkers, hversions]
    exact requireSelectors_eq_ok_iff.2 haccepted.selectors

theorem accepted_standard : standard.Accepted where
  format := by decide
  time := by decide +kernel
  workers := by decide
  versions := by decide
  selectors := rfl

/-- Any timeout that is not spent can take the place of an accepted one. -/
theorem Accepted.retime (haccepted : c.Accepted) {duration : Duration}
    (hunspent : duration.isSpent = false) : Accepted { c with timeout := duration } where
  format := haccepted.format
  time := hunspent
  workers := haccepted.workers
  versions := haccepted.versions
  selectors := haccepted.selectors

/-! ## Mappings and files -/

theorem accepted_of_withOutput {output : Document} {settings : Config}
    (hread : withOutput output settings = .ok c) : c.Accepted := by
  cases output with
  | text s =>
    obtain ⟨⟨⟩, hvalid, hreturned⟩ := Fault.bind_eq_ok_iff.1 hread
    cases hreturned
    exact validate_eq_ok_iff.1 hvalid
  | _ =>
    obtain ⟨shown, -, hthrown⟩ := Fault.bind_eq_ok_iff.1 hread
    cases hthrown

theorem accepted_of_ofEntries {entries : List (Document × Document)}
    (hread : ofEntries entries = .ok c) : c.Accepted := by
  obtain ⟨-, -, hread⟩ := Fault.bind_eq_ok_iff.1 hread
  obtain ⟨⟨output, settings⟩, -, hread⟩ := Fault.bind_eq_ok_iff.1 hread
  exact accepted_of_withOutput (Fault.mapError_eq_ok_iff.1 hread)

theorem accepted_of_ofText {path : Path} {text : String} (hread : ofText path text = .ok c) :
    c.Accepted := by
  rw [ofText] at hread
  split at hread
  · cases hread
  · cases hread
  · cases hread
    exact accepted_standard
  · split at hread
    · exact accepted_of_ofEntries (Fault.mapError_eq_ok_iff.1 hread)
    · cases hread

theorem accepted_of_load {files : Files} {path : Path} (hread : load files path = .ok c) :
    c.Accepted := by
  obtain ⟨entry, -, hread⟩ := Fault.bind_eq_ok_iff.1 hread
  match entry with
  | none => cases hread
  | some .directory => cases hread
  | some (.file content) => exact accepted_of_ofText hread

end Config

/-! ## Command lines -/

namespace Command

open Config (Accepted)

variable {c : Config} {settings : List Setting}

theorem validateAll_of_requireSelectors {asked : List (Option String)}
    (hrequired : requireSelectors asked c = .ok ()) : Selector.validateAll c.selectors = .ok () := by
  rw [requireSelectors] at hrequired
  split at hrequired
  · exact Config.requireSelectors_eq_ok_iff.1 hrequired
  · obtain ⟨-, -, hthrown⟩ := Fault.bind_eq_ok_iff.1 hrequired
    cases hthrown

theorem accepted_of_requireValid (hrequired : requireValid settings c = .ok ()) : c.Accepted := by
  obtain ⟨⟨⟩, hformat, hrequired⟩ := Fault.bind_eq_ok_iff.1 hrequired
  obtain ⟨⟨⟩, -, hrequired⟩ := Fault.bind_eq_ok_iff.1 hrequired
  obtain ⟨⟨⟩, htime, hrequired⟩ := Fault.bind_eq_ok_iff.1 hrequired
  obtain ⟨⟨⟩, -, hrequired⟩ := Fault.bind_eq_ok_iff.1 hrequired
  obtain ⟨⟨⟩, hworkers, hrequired⟩ := Fault.bind_eq_ok_iff.1 hrequired
  obtain ⟨⟨⟩, hversions, hselectors⟩ := Fault.bind_eq_ok_iff.1 hrequired
  exact {
    format := Config.requireFormat_eq_ok_iff.1 (Fault.mapError_eq_ok_iff.1 hformat)
    time := Config.requireTime_eq_ok_iff.1 (Fault.mapError_eq_ok_iff.1 htime)
    workers := Config.requireWorkers_eq_ok_iff.1 (Fault.mapError_eq_ok_iff.1 hworkers)
    versions := Config.requireVersions_eq_ok_iff.1 (Fault.mapError_eq_ok_iff.1 hversions)
    selectors := validateAll_of_requireSelectors (Fault.mapError_eq_ok_iff.1 hselectors) }

theorem accepted_of_override {before : Config} (hover : override before settings = .ok c) :
    c.Accepted := by
  obtain ⟨category, -, hover⟩ := Fault.bind_eq_ok_iff.1 hover
  obtain ⟨minimum, -, hover⟩ := Fault.bind_eq_ok_iff.1 hover
  obtain ⟨current, -, hover⟩ := Fault.bind_eq_ok_iff.1 hover
  obtain ⟨target, -, hover⟩ := Fault.bind_eq_ok_iff.1 hover
  obtain ⟨⟨⟩, hrequired, hreturned⟩ := Fault.bind_eq_ok_iff.1 hover
  cases hreturned
  exact accepted_of_requireValid hrequired

/-- Whichever file is found, the command line is put over what it says. -/
theorem override_of_effectiveConfig {files : Files}
    (hread : effectiveConfig files settings = .ok c) :
    ∃ before, override before settings = .ok c := by
  rw [effectiveConfig] at hread
  dsimp only at hread
  split at hread
  all_goals
    obtain ⟨path, -, hread⟩ := Fault.bind_eq_ok_iff.1 hread
    cases path with
    | none => exact ⟨Config.standard, hread⟩
    | some path =>
      obtain ⟨before, -, hover⟩ := Fault.bind_eq_ok_iff.1 hread
      exact ⟨before, hover⟩

theorem accepted_of_effectiveConfig {files : Files}
    (hread : effectiveConfig files settings = .ok c) : c.Accepted := by
  obtain ⟨before, hover⟩ := override_of_effectiveConfig hread
  exact accepted_of_override hover

end Command

/-! ## All the ways together -/

/-- The ways in which a configuration is put together. -/
inductive Config.Constructed : Config → Prop where
  | direct {c : Config} (hvalid : c.validate = .ok ()) : Constructed c
  | ofEntries {c : Config} {entries : List (Document × Document)}
      (hread : ofEntries entries = .ok c) : Constructed c
  | load {c : Config} {files : Files} {path : Path} (hread : load files path = .ok c) :
      Constructed c
  | override {c before : Config} {settings : List Command.Setting}
      (hover : Command.override before settings = .ok c) : Constructed c
  | effective {c : Config} {files : Files} {settings : List Command.Setting}
      (hread : Command.effectiveConfig files settings = .ok c) : Constructed c

theorem Config.Constructed.accepted {c : Config} (hconstructed : c.Constructed) : c.Accepted := by
  cases hconstructed with
  | direct hvalid => exact validate_eq_ok_iff.1 hvalid
  | ofEntries hread => exact accepted_of_ofEntries hread
  | load hread => exact accepted_of_load hread
  | override hover => exact Command.accepted_of_override hover
  | effective hread => exact Command.accepted_of_effectiveConfig hread

end Preflight
