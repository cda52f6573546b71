import Preflight.Command.Basic
import Preflight.Proofs.Config.Accepted
import Preflight.Proofs.Manifest.Foreign
import Preflight.Proofs.Run.History

/-!
# Accepted configurations can be used

Whoever uses a configuration looks at its settings once more: resolving compiles every selector, a
run wants a worker, and rendering wants a format.  What was accepted is not refused by any of them.
A run can still fail, where an object cannot be described or a number is too large, but none of
these failures is of the program's own domain.
-/

namespace Preflight

open Fault (Within within_ok within_error within_mapM)

theorem Target.foreign_describe (target : Target) : Within Fault.IsForeign target.describe := by
  rw [describe]
  cases target.resource with
  | none => exact within_ok none
  | some m => exact m.foreign_describe.map some

/-! ## Runs -/

theorem Context.foreign_withTimeout (timeout : Option Duration) (now : Binary64) :
    Within Fault.IsForeign (withTimeout timeout now) := by
  rw [withTimeout.eq_def]
  split
  · exact within_ok _
  rename_i duration
  split
  · exact within_ok _
  · have hseconds : Within Fault.IsForeign duration.seconds := by
      rw [Duration.seconds.eq_def]
      split
      · split
        · exact within_error rfl
        · exact within_ok _
      · exact within_ok _
    exact hseconds.bind fun _ => within_ok _

namespace Run

open Preflight.Action

variable {registry : Registry} {reader : Reader} {request : Request}

theorem requireWorkers_eq_ok_iff {count : Int} : requireWorkers count = .ok () ↔ 1 ≤ count := by
  rw [requireWorkers]
  split <;> simp_all

theorem Collection.foreign_ofAttempts (sequence : Nat) (attempts : List Attempt) :
    Within Fault.IsForeign (ofAttempts sequence attempts) := by
  induction attempts generalizing sequence with
  | nil => exact within_ok empty
  | cons attempt rest ih =>
    rw [ofAttempts]
    cases hplace : attempt.invocation.target.describe with
    | error fault =>
      exact within_error (attempt.invocation.target.foreign_describe fault hplace)
    | ok place =>
      dsimp only
      cases hlater : ofAttempts (sequence + 1) rest with
      | error fault => exact within_error (ih (sequence + 1) fault hlater)
      | ok later => exact within_ok _

theorem foreign_milliseconds (started finished : Binary64) :
    Within Fault.IsForeign (milliseconds started finished) := by
  rw [milliseconds]
  split
  · exact within_ok _
  · split
    · exact within_error rfl
    · exact within_error rfl

theorem History.foreign_conclude (history : History) (request : Request) (start : Binary64) :
    Within Fault.IsForeign (history.conclude request start) := by
  rw [conclude]
  split
  · split
    · rename_i fault hfault
      exact within_error (Collection.foreign_ofAttempts 0 history.attempts fault hfault)
    · exact (foreign_milliseconds start history.finish.now).map _
  · exact (foreign_milliseconds start history.finish.now).map _

/-- A run of selectors that were accepted does not fail in the program's own domain. -/
theorem foreign_execute (registry : Registry) (reader : Reader)
    (hvalid : Selector.validateAll request.selectors = .ok ()) (clock : Clock) :
    Within Fault.IsForeign ((execute registry reader request).runAt clock).1 := by
  rw [execute_runAt, History.ofRun]
  cases hcontext : Context.withTimeout request.timeout clock.now with
  | error fault =>
    exact within_error (Context.foreign_withTimeout request.timeout clock.now fault hcontext)
  | ok context =>
    obtain ⟨checks, hresolved⟩ := resolve_isOk registry request.category hvalid
    rw [hresolved]
    exact History.foreign_conclude _ request clock.now

theorem dryRun_returns (registry : Registry) (filter : Option Category)
    {selectors : List String} (hvalid : Selector.validateAll selectors = .ok ())
    (current target : Option Version) (clock : Clock) :
    ∃ plan, (dryRun registry selectors filter current target).ReturnsAt clock plan := by
  obtain ⟨checks, hresolved⟩ := resolve_isOk registry filter hvalid
  refine ⟨((DryRun.ofChecks current target checks).run clock).1, ?_⟩
  rw [ReturnsAt, dryRun, hresolved, runAt_bind]
  rfl

end Run

/-! ## Rendering -/

/-- Whether a failure says that there is no such format. -/
def Fault.IsFormatRefusal (fault : Fault) : Prop := ∃ shown, fault = .value (.outputFormat shown)

theorem Table.rows_not_refused (executions : List Execution) :
    Within (¬·.IsFormatRefusal) (rows executions) := by
  have hglyph (label : StatusLabel) : Within (¬·.IsFormatRefusal) (glyph label) := by
    rw [glyph]
    split
    · exact within_ok _
    · apply within_error
      rintro ⟨shown, hrefusal⟩
      cases hrefusal
  have hrow (r : Result) (c : Condition) : Within (¬·.IsFormatRefusal) (row r c) :=
    (hglyph c.status).bind fun _ => within_ok _
  have hgroup (e : Execution) :
      Within (¬·.IsFormatRefusal) (e.result.conditions.mapM (row e.result)) :=
    within_mapM (hrow e.result) e.result.conditions
  exact (within_mapM hgroup executions).bind fun _ => within_ok _

theorem Table.summary_not_refused (r : Report) (rows : List Row) :
    Within (¬·.IsFormatRefusal) (summary r rows) := by
  have hduration : Within (¬·.IsFormatRefusal) (durationText r.durationMs) := by
    rw [durationText]
    split
    · apply within_error
      rintro ⟨shown, hrefusal⟩
      cases hrefusal
    · exact within_ok _
  exact hduration.bind fun _ => within_ok _

theorem Result.entry_not_refused (r : Result) : Within (¬·.IsFormatRefusal) r.entry := by
  have hannotation (pair : String × Document) :
      Within (¬·.IsFormatRefusal) (annotationText pair) := by
    rw [annotationText]
    split
    · exact within_ok _
    · apply within_error
      rintro ⟨shown, hrefusal⟩
      cases hrefusal
  have hcondition (c : Condition) : Within (¬·.IsFormatRefusal) c.entry := by
    rw [Condition.entry]
    split
    · exact within_ok _
    · apply within_error
      rintro ⟨shown, hrefusal⟩
      cases hrefusal
  apply (within_mapM hannotation r.annotations).bind
  intro annotations
  exact (within_mapM hcondition r.conditions).bind fun _ => within_ok _

namespace Report

theorem tableLines_not_refused (r : Report) (options : RenderOptions) :
    Within (¬·.IsFormatRefusal) (r.tableLines options) := by
  apply (Table.rows_not_refused (r.displayed options.minimum)).bind
  intro rows
  exact (Table.summary_not_refused r rows).bind fun _ => within_ok _

theorem listing_not_refused (r : Report) (minimum : MinimumSeverity) :
    Within (¬·.IsFormatRefusal) (r.listing minimum) :=
  (within_mapM (fun e : Execution => e.result.entry_not_refused) (r.displayed minimum)).bind
    fun _ => within_ok _

/-- Rendering refuses the formats that are not offered, and no others. -/
theorem render_not_refused_iff {r : Report} {options : RenderOptions} :
    Within (¬·.IsFormatRefusal) (r.render options) ↔ options.format ∈ outputFormats := by
  rw [render]
  by_cases htable : options.format = "table"
  · rw [if_pos htable]
    refine iff_of_true ((r.tableLines_not_refused options).map _) ?_
    simp [htable, outputFormats]
  rw [if_neg htable]
  by_cases hjson : options.format = "json"
  · rw [if_pos hjson]
    refine iff_of_true ((r.listing_not_refused options.minimum).map _) ?_
    simp [hjson, outputFormats]
  rw [if_neg hjson]
  by_cases hyaml : options.format = "yaml"
  · rw [if_pos hyaml]
    refine iff_of_true ((r.listing_not_refused options.minimum).map _) ?_
    simp [hyaml, outputFormats]
  rw [if_neg hyaml]
  refine iff_of_false ?_ (by simp [outputFormats, htable, hjson, hyaml])
  intro hwithin
  exact hwithin _ rfl ⟨options.format, rfl⟩

end Report

/-! ## Configurations -/

/-- Nothing that is done with the settings of a configuration ends in a usage error. -/
structure Config.Usable (c : Config) : Prop where
  versions : c.target.isSome → c.current.isSome
  workers : Run.requireWorkers c.maxWorkers = .ok ()
  resolves : ∀ (registry : Registry) (filter : Option Category),
    ∃ checks, Run.resolve registry c.selectors filter = .ok checks
  plans : ∀ (registry : Registry) (filter : Option Category) (current target : Option Version)
    (clock : Clock),
    ∃ plan, (Run.dryRun registry c.selectors filter current target).ReturnsAt clock plan
  executes : ∀ (registry : Registry) (reader : Reader) (request : Run.Request) (clock : Clock),
    request.selectors = c.selectors →
      Within Fault.IsForeign ((Run.execute registry reader request).runAt clock).1
  renders : ∀ (report : Report) (options : RenderOptions), options.format = c.output →
    Within (¬·.IsFormatRefusal) (report.render options)

theorem Config.Accepted.usable {c : Config} (haccepted : c.Accepted) : c.Usable where
  versions := haccepted.versions
  workers := Run.requireWorkers_eq_ok_iff.2 haccepted.workers
  resolves registry filter := Run.resolve_isOk registry filter haccepted.selectors
  plans registry filter := Run.dryRun_returns registry filter haccepted.selectors
  executes registry reader request clock hselectors := by
    have hvalid := haccepted.selectors
    rw [← hselectors] at hvalid
    exact Run.foreign_execute registry reader hvalid clock
  renders report options hformat := by
    rw [Report.render_not_refused_iff, hformat]
    exact haccepted.format

/-- However a configuration is put together, it can be used. -/
theorem Config.usable_of_constructed {c : Config} (hconstructed : c.Constructed) : c.Usable :=
  hconstructed.accepted.usable

/-- A mapping with two selectors and two versions makes a configuration that can be used. -/
theorem Config.usable_upgrade :
    ∃ c, Config.ofEntries [(.text "checks", .list [.text "workloads", .text "components.*"]),
        (.text "current_version", .text "2.16"), (.text "target_version", .text "v3.0")] = .ok c ∧
      c.isUpgrade ∧ c.Usable := by
  generalize hread : Config.ofEntries _ = result
  have hupgrade : result.toOption.any Config.isUpgrade := by
    rw [← hread]
    decide +kernel
  cases result with
  | error fault => cases hupgrade
  | ok c => exact ⟨c, rfl, hupgrade, usable_of_constructed (.ofEntries hread)⟩

namespace Command

/-- Once the configuration and the objects are there, a run is not answered as misused. -/
theorem runChecks_not_misused {files : Files} {clock : Clock} {settings : List Setting}
    {c : Config} {snapshot : Snapshot} {outcome : Outcome}
    (hprepared : prepareRun files settings = .ok (c, snapshot))
    (hanswered : runChecks files clock settings = .ok outcome) :
    outcome.exitCode ≠ Outcome.misused := by
  obtain ⟨found, hconfig, hloaded⟩ := Fault.bind_eq_ok_iff.1 hprepared
  obtain ⟨⟨⟩, -, hloaded⟩ := Fault.bind_eq_ok_iff.1 hloaded
  obtain ⟨loaded, -, hreturned⟩ := Fault.bind_eq_ok_iff.1 hloaded
  cases hreturned
  have husable := (accepted_of_effectiveConfig hconfig).usable
  have hforeign : Within Fault.IsForeign (executeCatalog clock c snapshot) :=
    (husable.executes _ (.ofSnapshot snapshot) (requestOf c) clock rfl).map Run.Outcome.report
  rw [runChecks, hprepared] at hanswered
  dsimp only [reporting] at hanswered
  cases hexecuted : executeCatalog clock c snapshot with
  | error fault =>
    have hno : ¬fault.isDomainFault := Bool.eq_false_iff.1 (hforeign fault hexecuted)
    rw [hexecuted] at hanswered
    dsimp only at hanswered
    rw [if_neg hno] at hanswered
    cases hanswered
  | ok report =>
    rw [hexecuted] at hanswered
    obtain ⟨text, -, hreturned⟩ := Fault.bind_eq_ok_iff.1 hanswered
    cases hreturned
    dsimp only [exitCodeOf]
    split <;> decide

end Command

end Preflight
