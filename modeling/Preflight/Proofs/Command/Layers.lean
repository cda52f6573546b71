import Preflight.Proofs.Command.Overwrites

/-!
# Command lines over files

Putting a command line over the configuration of a file and writing it into the mapping of the file
make the same configuration, and one is refused where the other is.  Only a deadline or a count that
is withheld is not reported like the value that stands for it in the mapping.
-/

namespace Preflight

namespace Command

open Config (Means)

variable {files : Files} {settings : List Setting} {entries : List (Document × Document)}
variable {before c : Config} {fault : Fault}

/-! ## Settings before they are accepted -/

/-- A configuration with the settings over it, not yet accepted. -/
def layered (before : Config) (settings : List Setting) : Except Fault Config := do
  let asked := settings.filterMap selector?
  let category ← (lastGiven categoryWord? settings).elim (.ok before.category)
    fun word => (requireCategory word).map some
  let minimum ← (lastOf minimumWord? settings).elim (.ok before.minimum)
    fun word => (Config.Field.minimumOfText (word.getD "")).mapError Fault.value
  let current ← versionOr before.current (lastGiven currentText? settings)
  let target ← versionOr before.target (lastGiven targetText? settings)
  return {
    selectors := if asked.isEmpty then before.selectors else givenSelectors asked
    category := category
    output := (lastOf outputFormat? settings).join.getD before.output
    minimum := minimum
    failOnCritical := if settings.any setsPassOnCritical then false else before.failOnCritical
    failOnWarning := if settings.any setsFailOnWarning then true else before.failOnWarning
    timeout := ((lastOf timeoutSeconds? settings).join.map Duration.exact).getD before.timeout
    maxWorkers := (lastOf workerCount? settings).join.getD before.maxWorkers
    verbose := if settings.any setsVerbose then true else before.verbose
    showDescription := if settings.any setsDescribe then true else before.showDescription
    current := current
    target := target }

/-- Applying switches sets a field exactly when one of them sets it. -/
theorem foldl_applySwitch (get : Config → Bool) (sets : Setting → Bool) (value : Bool)
    (hstep : ∀ c s, get (applySwitch c s) = if sets s then value else get c) (c : Config)
    (settings : List Setting) :
    get (settings.foldl applySwitch c) = if settings.any sets then value else get c := by
  induction settings generalizing c with
  | nil => rfl
  | cons s rest ih =>
    rw [List.foldl_cons, ih, hstep, List.any_cons]
    cases sets s <;> simp

theorem bind_read_or {α β : Type} {found : Option α} {compute : α → Except Fault β}
    {old : Option β} {γ : Type} (next : Option β → Except Fault γ) :
    (found.mapM compute >>= fun value => next (value.or old)) =
      found.elim (.ok old) (fun a => (compute a).map some) >>= next := by
  cases found with
  | none => rfl
  | some a =>
    rw [Option.mapM_some]
    show _ = (compute a).map some >>= next
    cases compute a <;> rfl

theorem bind_read_getD {α β : Type} {found : Option α} {compute : α → Except Fault β} {old : β}
    {γ : Type} (next : β → Except Fault γ) :
    (found.mapM compute >>= fun value => next (value.getD old)) =
      found.elim (.ok old) compute >>= next := by
  cases found with
  | none => rfl
  | some a =>
    rw [Option.mapM_some]
    show _ = compute a >>= next
    cases compute a <;> rfl

theorem override_eq (before : Config) (settings : List Setting) :
    override before settings =
      layered before settings >>= fun c => requireValid settings c >>= fun _ => .ok c := by
  have hcritical := foldl_applySwitch Config.failOnCritical setsPassOnCritical false
    (fun c s => by cases s <;> rfl) before settings
  have hwarning := foldl_applySwitch Config.failOnWarning setsFailOnWarning true
    (fun c s => by cases s <;> rfl) before settings
  have hverbose := foldl_applySwitch Config.verbose setsVerbose true
    (fun c s => by cases s <;> rfl) before settings
  have hdescribe := foldl_applySwitch Config.showDescription setsDescribe true
    (fun c s => by cases s <;> rfl) before settings
  rw [override, layered]
  simp only [bind_assoc]
  rw [← bind_read_or]
  congr 1
  funext category
  rw [← bind_read_getD]
  congr 1
  funext minimum
  rw [← hcritical, ← hwarning, ← hverbose, ← hdescribe]
  rfl

/-- The settings over a file, each as it is read. -/
structure Layered (before : Config) (settings : List Setting) (c : Config) : Prop where
  selectors : c.selectors = if (settings.filterMap selector?).isEmpty then before.selectors
    else givenSelectors (settings.filterMap selector?)
  category : (lastGiven categoryWord? settings).elim (.ok before.category)
    (fun word => (requireCategory word).map some) = .ok c.category
  output : c.output = (lastOf outputFormat? settings).join.getD before.output
  minimum : (lastOf minimumWord? settings).elim (.ok before.minimum)
    (fun word => (Config.Field.minimumOfText (word.getD "")).mapError Fault.value) = .ok c.minimum
  failOnCritical : c.failOnCritical =
    if settings.any setsPassOnCritical then false else before.failOnCritical
  failOnWarning : c.failOnWarning =
    if settings.any setsFailOnWarning then true else before.failOnWarning
  timeout : c.timeout =
    ((lastOf timeoutSeconds? settings).join.map Duration.exact).getD before.timeout
  maxWorkers : c.maxWorkers = (lastOf workerCount? settings).join.getD before.maxWorkers
  verbose : c.verbose = if settings.any setsVerbose then true else before.verbose
  showDescription : c.showDescription =
    if settings.any setsDescribe then true else before.showDescription
  current : versionOr before.current (lastGiven currentText? settings) = .ok c.current
  target : versionOr before.target (lastGiven targetText? settings) = .ok c.target

theorem layered_eq_ok_iff : layered before settings = .ok c ↔ Layered before settings c := by
  constructor
  · intro hread
    obtain ⟨category, hcategory, hread⟩ := Fault.bind_eq_ok_iff.1 hread
    obtain ⟨minimum, hminimum, hread⟩ := Fault.bind_eq_ok_iff.1 hread
    obtain ⟨current, hcurrent, hread⟩ := Fault.bind_eq_ok_iff.1 hread
    obtain ⟨target, htarget, hread⟩ := Fault.bind_eq_ok_iff.1 hread
    cases hread
    exact ⟨rfl, hcategory, rfl, hminimum, rfl, rfl, rfl, rfl, rfl, rfl, hcurrent, htarget⟩
  · intro hlayered
    apply Fault.bind_eq_ok_iff.2 ⟨_, hlayered.category, ?_⟩
    apply Fault.bind_eq_ok_iff.2 ⟨_, hlayered.minimum, ?_⟩
    apply Fault.bind_eq_ok_iff.2 ⟨_, hlayered.current, ?_⟩
    apply Fault.bind_eq_ok_iff.2 ⟨_, hlayered.target, ?_⟩
    rw [← hlayered.selectors, ← hlayered.output, ← hlayered.failOnCritical,
      ← hlayered.failOnWarning, ← hlayered.timeout, ← hlayered.maxWorkers, ← hlayered.verbose,
      ← hlayered.showDescription]
    rfl

/-! ## What is withheld -/

/-- No value that the command line needs is withheld. -/
structure Given (settings : List Setting) : Prop where
  selectors : (settings.filterMap selector?).all Option.isSome
  timeout : lastOf timeoutSeconds? settings ≠ some none
  workers : lastOf workerCount? settings ≠ some none

theorem requireGiven_eq_ok_iff {α : Type} {option : String} {found : Option (Option α)} :
    requireGiven option found = .ok () ↔ found ≠ some none := by
  match found with
  | none => simp [requireGiven]
  | some none => simp [requireGiven]
  | some (some value) => simp [requireGiven]

theorem requireSelectors_eq_ok_iff {asked : List (Option String)} :
    requireSelectors asked c = .ok () ↔
      asked.all Option.isSome ∧ Selector.validateAll c.selectors = .ok () := by
  constructor
  · intro hrequired
    refine ⟨?_, validateAll_of_requireSelectors hrequired⟩
    by_contra hwithheld
    rw [requireSelectors, if_neg hwithheld] at hrequired
    obtain ⟨-, -, hthrown⟩ := Fault.bind_eq_ok_iff.1 hrequired
    cases hthrown
  · rintro ⟨hgiven, hvalid⟩
    rw [requireSelectors, if_pos hgiven]
    exact Config.requireSelectors_eq_ok_iff.2 hvalid

theorem requireValid_eq_ok_iff :
    requireValid settings c = .ok () ↔ c.Accepted ∧ Given settings := by
  constructor
  · intro hrequired
    have haccepted : c.Accepted := accepted_of_requireValid hrequired
    obtain ⟨⟨⟩, -, hrequired⟩ := Fault.bind_eq_ok_iff.1 hrequired
    obtain ⟨⟨⟩, htimeout, hrequired⟩ := Fault.bind_eq_ok_iff.1 hrequired
    obtain ⟨⟨⟩, -, hrequired⟩ := Fault.bind_eq_ok_iff.1 hrequired
    obtain ⟨⟨⟩, hworkers, hrequired⟩ := Fault.bind_eq_ok_iff.1 hrequired
    obtain ⟨⟨⟩, -, hrequired⟩ := Fault.bind_eq_ok_iff.1 hrequired
    obtain ⟨⟨⟩, -, hselectors⟩ := Fault.bind_eq_ok_iff.1 hrequired
    exact ⟨haccepted, (requireSelectors_eq_ok_iff.1 (Fault.mapError_eq_ok_iff.1 hselectors)).1,
      requireGiven_eq_ok_iff.1 htimeout, requireGiven_eq_ok_iff.1 hworkers⟩
  · rintro ⟨haccepted, hgiven⟩
    have hformat := Config.requireFormat_eq_ok_iff.2 haccepted.format
    have htime := Config.requireTime_eq_ok_iff.2 haccepted.time
    have hworkers := Config.requireWorkers_eq_ok_iff.2 haccepted.workers
    have hversions := Config.requireVersions_eq_ok_iff.2 haccepted.versions
    have hselectors := requireSelectors_eq_ok_iff.2 ⟨hgiven.selectors, haccepted.selectors⟩
    rw [requireValid, hformat, requireGiven_eq_ok_iff.2 hgiven.timeout, htime,
      requireGiven_eq_ok_iff.2 hgiven.workers, hworkers, hversions, hselectors]
    rfl

theorem override_eq_ok_iff :
    override before settings = .ok c ↔ Layered before settings c ∧ Given settings ∧ c.Accepted := by
  rw [override_eq, Fault.bind_eq_ok_iff]
  constructor
  · rintro ⟨found, hlayered, hread⟩
    obtain ⟨⟨⟩, hvalid, hreturned⟩ := Fault.bind_eq_ok_iff.1 hread
    cases hreturned
    obtain ⟨haccepted, hgiven⟩ := requireValid_eq_ok_iff.1 hvalid
    exact ⟨layered_eq_ok_iff.1 hlayered, hgiven, haccepted⟩
  · rintro ⟨hlayered, hgiven, haccepted⟩
    have hvalid := requireValid_eq_ok_iff.2 ⟨haccepted, hgiven⟩
    exact ⟨c, layered_eq_ok_iff.2 hlayered, Fault.bind_eq_ok_iff.2 ⟨(), hvalid, rfl⟩⟩

/-- The mapping with the settings in it means what the settings over a file are, unless a value is
withheld. -/
theorem means_overlay_iff (hmeans : Means entries before) :
    Means (overlay entries settings) c ↔ Layered before settings c ∧ Given settings := by
  have hcritical : ("fail_on_critical", switched setsPassOnCritical false settings) ∈
      overwrites settings := by simp [overwrites]
  have hwarning : ("fail_on_warning", switched setsFailOnWarning true settings) ∈
      overwrites settings := by simp [overwrites]
  have hverbose : ("verbose", switched setsVerbose true settings) ∈ overwrites settings := by
    simp [overwrites]
  have hdescribe : ("show_description", switched setsDescribe true settings) ∈
      overwrites settings := by simp [overwrites]
  have hcurrent : ("current_version", (lastGiven currentText? settings).map .text) ∈
      overwrites settings := by simp [overwrites]
  have htarget : ("target_version", (lastGiven targetText? settings).map .text) ∈
      overwrites settings := by simp [overwrites]
  constructor
  · intro hover
    obtain ⟨hasked, hselectors⟩ := (selectors_overlay_iff hmeans).1 hover.selectors
    obtain ⟨hseconds, htimeout⟩ := (timeout_overlay_iff hmeans).1 hover.timeout
    obtain ⟨hcount, hworkers⟩ := (workers_overlay_iff hmeans).1 hover.maxWorkers
    refine ⟨?_, hasked, hseconds, hcount⟩
    exact {
      selectors := hselectors
      category := (category_overlay hmeans).symm.trans hover.category
      output := (output_overlay_iff hmeans).1 hover.output
      minimum := (minimum_overlay hmeans).symm.trans hover.minimum
      failOnCritical := (flag_overlay_iff _ _ hmeans.failOnCritical hcritical).1 hover.failOnCritical
      failOnWarning := (flag_overlay_iff _ _ hmeans.failOnWarning hwarning).1 hover.failOnWarning
      timeout := htimeout
      maxWorkers := hworkers
      verbose := (flag_overlay_iff _ _ hmeans.verbose hverbose).1 hover.verbose
      showDescription :=
        (flag_overlay_iff _ _ hmeans.showDescription hdescribe).1 hover.showDescription
      current := (version_overlay _ hmeans.current hcurrent).symm.trans hover.current
      target := (version_overlay _ hmeans.target htarget).symm.trans hover.target }
  · rintro ⟨hlayered, hgiven⟩
    exact {
      selectors := (selectors_overlay_iff hmeans).2 ⟨hgiven.selectors, hlayered.selectors⟩
      category := (category_overlay hmeans).trans hlayered.category
      output := (output_overlay_iff hmeans).2 hlayered.output
      minimum := (minimum_overlay hmeans).trans hlayered.minimum
      failOnCritical :=
        (flag_overlay_iff _ _ hmeans.failOnCritical hcritical).2 hlayered.failOnCritical
      failOnWarning := (flag_overlay_iff _ _ hmeans.failOnWarning hwarning).2 hlayered.failOnWarning
      timeout := (timeout_overlay_iff hmeans).2 ⟨hgiven.timeout, hlayered.timeout⟩
      maxWorkers := (workers_overlay_iff hmeans).2 ⟨hgiven.workers, hlayered.maxWorkers⟩
      verbose := (flag_overlay_iff _ _ hmeans.verbose hverbose).2 hlayered.verbose
      showDescription :=
        (flag_overlay_iff _ _ hmeans.showDescription hdescribe).2 hlayered.showDescription
      current := (version_overlay _ hmeans.current hcurrent).trans hlayered.current
      target := (version_overlay _ hmeans.target htarget).trans hlayered.target }

/-- The settings over an accepted mapping are the mapping with the settings in it. -/
theorem override_eq_ok_iff_ofEntries (hread : Config.ofEntries entries = .ok before) :
    override before settings = .ok c ↔ Config.ofEntries (overlay entries settings) = .ok c := by
  obtain ⟨hknown, hmeans, -⟩ := Config.ofEntries_eq_ok_iff.1 hread
  rw [override_eq_ok_iff, Config.ofEntries_eq_ok_iff, means_overlay_iff hmeans, and_assoc]
  exact (and_iff_right (knownKeys_overlay hknown)).symm

/-! ## Failures -/

/-- A deadline or a count that is withheld and has to be compared. -/
inductive Withheld (settings : List Setting) (c : Config) : Fault → Prop where
  | timeout (hformat : c.output ∈ outputFormats)
      (hwithheld : lastOf timeoutSeconds? settings = some none) :
      Withheld settings c (.kind (.valueWithheld "timeout"))
  | workers (hformat : c.output ∈ outputFormats)
      (hgiven : lastOf timeoutSeconds? settings ≠ some none) (htime : c.timeout.isSpent = false)
      (hwithheld : lastOf workerCount? settings = some none) :
      Withheld settings c (.kind (.valueWithheld "workers"))

theorem requireGiven_eq_error_iff {α : Type} {option : String} {found : Option (Option α)} :
    requireGiven option found = .error fault ↔
      found = some none ∧ fault = .kind (.valueWithheld option) := by
  match found with
  | none => simp [requireGiven]
  | some none => simp [requireGiven, eq_comm]
  | some (some value) => simp [requireGiven]

theorem isConfigDefect_of_mapError {α : Type} {result : Except ConfigDefect α}
    (hfailed : result.mapError Fault.config = .error fault) : fault.IsConfigDefect := by
  cases result with
  | ok value => cases hfailed
  | error defect =>
    cases hfailed
    exact ⟨defect, rfl⟩

theorem withheld_of_requireValid (hfailed : requireValid settings c = .error fault)
    (hescapes : ¬fault.IsConfigDefect) : Withheld settings c fault := by
  have hpassed {α : Type} {result : Except ConfigDefect α} :
      ¬result.mapError Fault.config = .error fault :=
    fun hrefused => hescapes (isConfigDefect_of_mapError hrefused)
  obtain ⟨⟨⟩, hformat, hfailed⟩ := (Fault.bind_eq_error_iff.1 hfailed).resolve_left hpassed
  have hformat := Config.requireFormat_eq_ok_iff.1 (Fault.mapError_eq_ok_iff.1 hformat)
  rcases Fault.bind_eq_error_iff.1 hfailed with hrefused | ⟨⟨⟩, hseconds, hfailed⟩
  · obtain ⟨hwithheld, rfl⟩ := requireGiven_eq_error_iff.1 hrefused
    exact .timeout hformat hwithheld
  obtain ⟨⟨⟩, htime, hfailed⟩ := (Fault.bind_eq_error_iff.1 hfailed).resolve_left hpassed
  have htime := Config.requireTime_eq_ok_iff.1 (Fault.mapError_eq_ok_iff.1 htime)
  rcases Fault.bind_eq_error_iff.1 hfailed with hrefused | ⟨⟨⟩, hcount, hfailed⟩
  · obtain ⟨hwithheld, rfl⟩ := requireGiven_eq_error_iff.1 hrefused
    exact .workers hformat (requireGiven_eq_ok_iff.1 hseconds) htime hwithheld
  obtain ⟨⟨⟩, hworkers, hfailed⟩ := (Fault.bind_eq_error_iff.1 hfailed).resolve_left hpassed
  obtain ⟨⟨⟩, hversions, hfailed⟩ := (Fault.bind_eq_error_iff.1 hfailed).resolve_left hpassed
  exact absurd hfailed hpassed

theorem Withheld.requireValid_eq (hwithheld : Withheld settings c fault) :
    requireValid settings c = .error fault := by
  cases hwithheld with
  | timeout hformat hwithheld =>
    rw [requireValid, Config.requireFormat_eq_ok_iff.2 hformat,
      requireGiven_eq_error_iff.2 ⟨hwithheld, rfl⟩]
    rfl
  | workers hformat hgiven htime hwithheld =>
    rw [requireValid, Config.requireFormat_eq_ok_iff.2 hformat, requireGiven_eq_ok_iff.2 hgiven,
      Config.requireTime_eq_ok_iff.2 htime, requireGiven_eq_error_iff.2 ⟨hwithheld, rfl⟩]
    rfl

theorem Withheld.escapes (hwithheld : Withheld settings c fault) :
    ¬fault.IsConfigDefect ∧ ¬fault.isValueFault := by
  cases hwithheld <;> simp [Fault.IsConfigDefect, Fault.isValueFault]

theorem within_value {α : Type} (result : Except ValueDefect α) :
    Fault.Within (Fault.isValueFault ·) (result.mapError Fault.value) := by
  cases result with
  | error defect => exact Fault.within_error rfl
  | ok value => exact Fault.within_ok value

theorem within_elim {α β : Type} {allowed : Fault → Prop} {compute : α → Except Fault β}
    (hcompute : ∀ a, Fault.Within allowed (compute a)) (found : Option α) (old : β) :
    Fault.Within allowed (found.elim (.ok old) compute) := by
  cases found with
  | none => exact Fault.within_ok old
  | some a => exact hcompute a

theorem within_requireCategory (word : String) :
    Fault.Within (Fault.isValueFault ·) (requireCategory word) := by
  rw [requireCategory]
  split
  · exact Fault.within_ok _
  · exact Fault.within_error rfl

theorem within_versionOr (before : Option Version) (text : Option String) :
    Fault.Within (Fault.isValueFault ·) (versionOr before text) := by
  cases text with
  | none => exact Fault.within_ok before
  | some word => exact within_value _

/-- What cannot be read on a command line is a failure of a value. -/
theorem within_layered (before : Config) (settings : List Setting) :
    Fault.Within (Fault.isValueFault ·) (layered before settings) := by
  apply (within_elim (fun word => (within_requireCategory word).map some) _ _).bind
  intro category
  apply (within_elim (fun word => within_value _) _ _).bind
  intro minimum
  apply (within_versionOr _ _).bind
  intro current
  apply (within_versionOr _ _).bind
  intro target
  exact Fault.within_ok _

/-- Settings over a file fail in another way than with a defect or a value exactly where a value
that is withheld has to be compared. -/
theorem override_escapes_iff :
    (override before settings = .error fault ∧ ¬fault.IsConfigDefect ∧ ¬fault.isValueFault) ↔
      ∃ c, Layered before settings c ∧ Withheld settings c fault := by
  rw [override_eq]
  constructor
  · rintro ⟨hfailed, hdefect, hvalue⟩
    rcases Fault.bind_eq_error_iff.1 hfailed with hunread | ⟨c, hlayered, hfailed⟩
    · exact absurd (within_layered before settings fault hunread) hvalue
    · rcases Fault.bind_eq_error_iff.1 hfailed with hrefused | ⟨⟨⟩, -, hreturned⟩
      · exact ⟨c, layered_eq_ok_iff.1 hlayered, withheld_of_requireValid hrefused hdefect⟩
      · cases hreturned
  · rintro ⟨c, hlayered, hwithheld⟩
    refine ⟨?_, hwithheld.escapes⟩
    apply Fault.bind_eq_error_iff.2 (.inr ⟨c, layered_eq_ok_iff.2 hlayered, ?_⟩)
    exact Fault.bind_eq_error_iff.2 (.inl hwithheld.requireValid_eq)

/-! ## Files -/

/-- The file that a command line names, or else the first known one. -/
def configFile (files : Files) (settings : List Setting) : Except Fault (Option Path) :=
  match lastGiven configPath? settings with
  | some path => .ok (some (Path.ofString path))
  | none => Config.find files none

/-- The mapping that a command works with.  No file and an empty one stand for an empty mapping. -/
inductive Configured (files : Files) (settings : List Setting) :
    List (Document × Document) → Prop where
  | unnamed (hfile : configFile files settings = .ok none) : Configured files settings []
  | empty {path : Path} (hfile : configFile files settings = .ok (some path))
      (hholds : Config.Holds files path .null) : Configured files settings []
  | mapping {path : Path} {d : Document} {entries : List (Document × Document)}
      (hfile : configFile files settings = .ok (some path)) (hholds : Config.Holds files path d)
      (hentries : d.entries? = some entries) : Configured files settings entries

theorem effectiveConfig_eq (files : Files) (settings : List Setting) :
    effectiveConfig files settings = configFile files settings >>= fun path =>
      path.elim (.ok Config.standard) (Config.load files) >>= fun c => override c settings := by
  rw [effectiveConfig, configFile]
  cases lastGiven configPath? settings with
  | none =>
    dsimp only
    congr 1
    funext path
    cases path <;> rfl
  | some path => rfl

theorem load_of_holds {path : Path} {d : Document} (hholds : Config.Holds files path d) :
    ∃ text, Yaml.readSingle text = .ok d ∧ Config.load files path = Config.ofText path text := by
  obtain ⟨content, hentry, hread⟩ := hholds
  refine ⟨_, hread, ?_⟩
  rw [Config.load, hentry]
  rfl

theorem effectiveConfig_of_configured (hconfigured : Configured files settings entries)
    (hread : Config.ofEntries entries = .ok before) :
    effectiveConfig files settings = override before settings := by
  rw [effectiveConfig_eq]
  cases hconfigured with
  | unnamed hfile =>
    cases Config.ofEntries_nil.symm.trans hread
    rw [hfile]
    rfl
  | @empty path hfile hholds =>
    cases Config.ofEntries_nil.symm.trans hread
    obtain ⟨text, hnull, hload⟩ := load_of_holds hholds
    rw [hfile]
    show Config.load files path >>= _ = _
    rw [hload, Config.ofText, hnull]
    rfl
  | @mapping path d entries hfile hholds hentries =>
    obtain ⟨text, hd, hload⟩ := load_of_holds hholds
    rw [hfile]
    show Config.load files path >>= _ = _
    rw [hload, Config.ofText_of_mapping hd hentries, hread]
    rfl

/-- A command line over an accepted mapping makes the configuration of the mapping with the settings
in it, and none where that is refused.  It fails with a defect or for a value, except where a value
that has to be compared is withheld. -/
theorem effectiveConfig_layers (hconfigured : Configured files settings entries)
    (hread : Config.ofEntries entries = .ok before) :
    (∀ c, effectiveConfig files settings = .ok c ↔
      Config.ofEntries (overlay entries settings) = .ok c) ∧
    ∀ fault, (effectiveConfig files settings = .error fault ∧ ¬fault.IsConfigDefect ∧
        ¬fault.isValueFault) ↔
      ∃ c, Layered before settings c ∧ Withheld settings c fault := by
  rw [effectiveConfig_of_configured hconfigured hread]
  exact ⟨fun c => override_eq_ok_iff_ofEntries hread, fun fault => override_escapes_iff⟩

/-- A deadline that is withheld is compared with zero, where there is no file at all. -/
theorem effectiveConfig_withheld :
    ∃ files settings, Configured files settings [] ∧ Config.ofEntries [] = .ok Config.standard ∧
      effectiveConfig files settings = .error (.kind (.valueWithheld "timeout")) ∧
      ¬(Fault.kind (.valueWithheld "timeout")).IsConfigDefect ∧
      ¬(Fault.kind (.valueWithheld "timeout")).isValueFault := by
  let files : Files := ⟨Path.ofString "/work", fun _ => .ok none⟩
  have hconfigured : Configured files [.timeout none] [] := .unnamed rfl
  have hlayered : Layered Config.standard [.timeout none] Config.standard :=
    ⟨rfl, rfl, rfl, rfl, rfl, rfl, rfl, rfl, rfl, rfl, rfl, rfl⟩
  have hwithheld : Withheld [.timeout none] Config.standard (.kind (.valueWithheld "timeout")) :=
    .timeout Config.accepted_standard.format rfl
  refine ⟨files, [.timeout none], hconfigured, Config.ofEntries_nil, ?_⟩
  rw [effectiveConfig_of_configured hconfigured Config.ofEntries_nil]
  exact override_escapes_iff.2 ⟨Config.standard, hlayered, hwithheld⟩

/-- A file with a number of workers, and a command line with two versions. -/
theorem effectiveConfig_layers_versions :
    ∃ files settings entries c, Configured files settings entries ∧
      effectiveConfig files settings = .ok c ∧
      Config.ofEntries (overlay entries settings) = .ok c ∧ c.maxWorkers = 2 ∧ c.isUpgrade := by
  let files : Files := ⟨Path.ofString "/work", fun _ => .ok (some (.file "max_workers: 2\n"))⟩
  let settings : List Setting :=
    [.config (some "lint.yaml"), .current (some "2.16"), .target (some "3.0")]
  generalize hdocument : Yaml.readSingle (Files.textOf "max_workers: 2\n") = document
  have hmapping : (document.toOption.bind Document.entries?).map
      (fun entries => ((Config.ofEntries entries).toOption.isSome,
        (Config.ofEntries (overlay entries settings)).toOption.map
          fun c => (c.maxWorkers, c.isUpgrade))) = some (true, some (2, true)) := by
    rw [← hdocument]
    decide +kernel
  cases document with
  | error flaw => cases hmapping
  | ok d =>
    obtain ⟨entries, hentries, hmade⟩ := Option.map_eq_some_iff.1 hmapping
    have hconfigured : Configured files settings entries :=
      .mapping rfl ⟨_, rfl, hdocument⟩ hentries
    obtain ⟨hbefore, hover⟩ := Prod.mk.inj hmade
    cases hread : Config.ofEntries entries with
    | error fault =>
      rw [hread] at hbefore
      cases hbefore
    | ok before =>
      cases hlayered : Config.ofEntries (overlay entries settings) with
      | error fault =>
        rw [hlayered] at hover
        cases hover
      | ok c =>
        rw [hlayered] at hover
        obtain ⟨hworkers, hupgrade⟩ := Prod.mk.inj (Option.some.inj hover)
        have hmade := ((effectiveConfig_layers hconfigured hread).1 c).2 hlayered
        exact ⟨files, settings, entries, c, hconfigured, hmade, hlayered, hworkers, hupgrade⟩

end Command

end Preflight
