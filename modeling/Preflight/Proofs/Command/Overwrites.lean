import Preflight.Proofs.Config.Overlay

/-!
# Command lines as mappings

What a command line sets may as well be written into the mapping of a file: each option overwrites
its key.  Reading a key of that mapping reads the option, or what the file says where the option is
not given.
-/

namespace Preflight

namespace Command

open Config (Means KnownKeys valueOf)
open Document (Overwrite overwrite)

variable {settings : List Setting} {entries : List (Document × Document)} {before c : Config}

/-! ## The keys that a command line overwrites -/

def setsVerbose : Setting → Bool
  | .verbose => true
  | _ => false

def setsFailOnWarning : Setting → Bool
  | .failOnWarning => true
  | _ => false

def setsPassOnCritical : Setting → Bool
  | .passOnCritical => true
  | _ => false

def setsDescribe : Setting → Bool
  | .describe => true
  | _ => false

/-- A value of the command line.  For one that is withheld an empty list stands. -/
def written {α : Type} (write : α → Document) (found : Option α) : Document :=
  found.elim (.list []) write

/-- A switch of the command line. -/
def switched (sets : Setting → Bool) (value : Bool) (settings : List Setting) : Option Document :=
  if settings.any sets then some (.bool value) else none

/-- The selectors that are asked for, as one value. -/
def askedSelectors (asked : List (Option String)) : Option Document :=
  if asked.isEmpty then none else some (.list (asked.map (written .text)))

/-- What a command line overwrites each key with. -/
def overwrites (settings : List Setting) : List Overwrite :=
  [("checks", askedSelectors (settings.filterMap selector?)),
   ("category", (lastGiven categoryWord? settings).map .text),
   ("output", (lastOf outputFormat? settings).join.map .text),
   ("min_severity", (lastOf minimumWord? settings).map (written .text)),
   ("fail_on_critical", switched setsPassOnCritical false settings),
   ("fail_on_warning", switched setsFailOnWarning true settings),
   ("timeout", (lastOf timeoutSeconds? settings).map (written .float)),
   ("max_workers", (lastOf workerCount? settings).map (written .int)),
   ("verbose", switched setsVerbose true settings),
   ("show_description", switched setsDescribe true settings),
   ("current_version", (lastGiven currentText? settings).map .text),
   ("target_version", (lastGiven targetText? settings).map .text)]

/-- The mapping of a file with what a command line sets. -/
def overlay (entries : List (Document × Document)) (settings : List Setting) :
    List (Document × Document) :=
  overwrite entries (overwrites settings)

theorem knownKeys_overlay (hknown : KnownKeys entries) : KnownKeys (overlay entries settings) := by
  apply hknown.overwrite
  intro row hmem
  have hkeys : (overwrites settings).map Prod.fst = Config.keys := rfl
  rw [← hkeys]
  exact List.mem_map_of_mem hmem

theorem valueOf_overlay {key : String} {found : Option Document}
    (hmem : (key, found) ∈ overwrites settings) (fallback : Document) :
    valueOf (overlay entries settings) key fallback =
      found.getD (valueOf entries key fallback) := by
  have hdistinct : ((overwrites settings).map Prod.fst).Nodup := by
    show Config.keys.Nodup
    decide
  rw [valueOf, overlay, Document.field?_overwrite hdistinct hmem]
  cases found <;> rfl

/-- Reading a key of the mapping reads what the command line says, or else what the file says. -/
theorem read_overlay {α : Type} {reader : Document → Except Fault α} {key : String}
    {found : Option Document} {fallback : Document} {old : α}
    (hold : reader (valueOf entries key fallback) = .ok old)
    (hmem : (key, found) ∈ overwrites settings) :
    reader (valueOf (overlay entries settings) key fallback) = found.elim (.ok old) reader := by
  rw [valueOf_overlay hmem]
  cases found with
  | none => exact hold
  | some d => rfl

/-! ## What the mapping means for each setting -/

theorem ne_empty_of_lastGiven {get : Setting → Option (Option String)} {word : String}
    (hword : lastGiven get settings = some word) : word ≠ "" := by
  rw [lastGiven] at hword
  split at hword
  · rintro rfl
    simp at hword
  · cases hword

theorem texts?_written (asked : List (Option String)) :
    Config.Field.texts? (asked.map (written .text)) =
      if asked.all Option.isSome then some (givenSelectors asked) else none := by
  induction asked with
  | nil => rfl
  | cons first rest ih =>
    cases first with
    | none => rfl
    | some selector =>
      show (Config.Field.texts? (rest.map (written .text))).map (selector :: ·) = _
      rw [ih, List.all_cons, Option.isSome_some, Bool.true_and]
      split <;> rfl

theorem selectors_written_eq_ok_iff {asked : List (Option String)} {found : List String} :
    Config.Field.selectors (.list (asked.map (written .text))) = .ok found ↔
      asked.all Option.isSome ∧ found = givenSelectors asked := by
  have hitems : (Document.list (asked.map (written .text))).items?.bind Config.Field.texts? =
      if asked.all Option.isSome then some (givenSelectors asked) else none := texts?_written asked
  rw [Config.Field.selectors.eq_def]
  dsimp only
  rw [hitems]
  by_cases hgiven : asked.all Option.isSome
  · rw [if_pos hgiven]
    simp [hgiven, eq_comm]
  · rw [if_neg hgiven]
    apply iff_of_false
    · intro hread
      obtain ⟨shown, -, hthrown⟩ := Fault.bind_eq_ok_iff.1 hread
      cases hthrown
    · intro hread
      exact hgiven hread.1

theorem category_of_word {word : String} (hword : word ≠ "") :
    Config.Field.category (.text word) = (requireCategory word).map some := by
  rw [Config.Field.category, requireCategory, Document.isGiven, if_neg (by simpa using hword)]
  cases Category.parse? word <;> rfl

theorem minimum_written (word : Option String) :
    Config.Field.minimum (written .text word) =
      (Config.Field.minimumOfText (word.getD "")).mapError Fault.value := by
  have hempty : Config.Field.minimumOfText "" = .ok .all := rfl
  match word with
  | none =>
    rw [Option.getD_none, hempty]
    rfl
  | some word =>
    rw [Option.getD_some, written, Option.elim_some, Config.Field.minimum, Document.isGiven]
    by_cases hword : word = ""
    · rw [hword, hempty]
      rfl
    · rw [if_neg (by simpa using hword)]

section

variable (hmeans : Means entries before)
include hmeans

theorem selectors_overlay_iff : Config.Field.selectors
    (valueOf (overlay entries settings) "checks" (.list [.text Selector.wildcard])) =
      .ok c.selectors ↔
    (settings.filterMap selector?).all Option.isSome ∧
      c.selectors = if (settings.filterMap selector?).isEmpty then before.selectors
        else givenSelectors (settings.filterMap selector?) := by
  have hmem : ("checks", askedSelectors (settings.filterMap selector?)) ∈ overwrites settings := by
    simp [overwrites]
  rw [read_overlay hmeans.selectors hmem]
  cases settings.filterMap selector? with
  | nil => simp [askedSelectors, eq_comm]
  | cons first rest => exact selectors_written_eq_ok_iff

theorem category_overlay :
    Config.Field.category (valueOf (overlay entries settings) "category" .null) =
      (lastGiven categoryWord? settings).elim (.ok before.category)
        fun word => (requireCategory word).map some := by
  have hmem : ("category", (lastGiven categoryWord? settings).map .text) ∈ overwrites settings := by
    simp [overwrites]
  rw [read_overlay hmeans.category hmem]
  cases hword : lastGiven categoryWord? settings with
  | none => rfl
  | some word =>
    rw [Option.map_some, Option.elim_some, Option.elim_some]
    exact category_of_word (ne_empty_of_lastGiven hword)

theorem output_overlay_iff :
    valueOf (overlay entries settings) "output" (.text Config.standard.output) = .text c.output ↔
      c.output = (lastOf outputFormat? settings).join.getD before.output := by
  have hmem : ("output", (lastOf outputFormat? settings).join.map .text) ∈ overwrites settings := by
    simp [overwrites]
  rw [valueOf_overlay hmem, hmeans.output]
  cases (lastOf outputFormat? settings).join <;> simp [eq_comm]

theorem minimum_overlay :
    Config.Field.minimum (valueOf (overlay entries settings) "min_severity" .null) =
      (lastOf minimumWord? settings).elim (.ok before.minimum)
        fun word => (Config.Field.minimumOfText (word.getD "")).mapError Fault.value := by
  have hmem : ("min_severity", (lastOf minimumWord? settings).map (written .text)) ∈
      overwrites settings := by simp [overwrites]
  rw [read_overlay hmeans.minimum hmem]
  cases lastOf minimumWord? settings with
  | none => rfl
  | some word =>
    rw [Option.map_some, Option.elim_some, Option.elim_some]
    exact minimum_written word

theorem timeout_overlay_iff : (Config.Field.seconds
    (valueOf (overlay entries settings) "timeout" (.float (.ofInt 300)))).map Duration.exact =
      .ok c.timeout ↔
    lastOf timeoutSeconds? settings ≠ some none ∧
      c.timeout = ((lastOf timeoutSeconds? settings).join.map Duration.exact).getD before.timeout := by
  have hmem : ("timeout", (lastOf timeoutSeconds? settings).map (written .float)) ∈
      overwrites settings := by simp [overwrites]
  rw [valueOf_overlay hmem]
  match lastOf timeoutSeconds? settings with
  | none => simp [hmeans.timeout, eq_comm]
  | some none => simp [written, Config.Field.seconds, Except.map]
  | some (some x) => simp [written, Config.Field.seconds, Except.map, eq_comm]

theorem workers_overlay_iff : Config.Field.whole
    (valueOf (overlay entries settings) "max_workers" (.int 1)) = .ok c.maxWorkers ↔
    lastOf workerCount? settings ≠ some none ∧
      c.maxWorkers = (lastOf workerCount? settings).join.getD before.maxWorkers := by
  have hmem : ("max_workers", (lastOf workerCount? settings).map (written .int)) ∈
      overwrites settings := by simp [overwrites]
  rw [valueOf_overlay hmem]
  match lastOf workerCount? settings with
  | none => simp [hmeans.maxWorkers, eq_comm]
  | some none => simp [written, Config.Field.whole]
  | some (some n) => simp [written, Config.Field.whole, eq_comm]

end

theorem flag_overlay_iff (sets : Setting → Bool) (value : Bool) {key : String} {old new : Bool}
    {fallback : Document} (hold : Config.Field.flag key (valueOf entries key fallback) = .ok old)
    (hmem : (key, switched sets value settings) ∈ overwrites settings) :
    Config.Field.flag key (valueOf (overlay entries settings) key fallback) = .ok new ↔
      new = if settings.any sets then value else old := by
  rw [read_overlay hold hmem, switched]
  cases settings.any sets <;> simp [Config.Field.flag, eq_comm]

theorem version_overlay (get : Setting → Option (Option String)) {key : String}
    {old : Option Version}
    (hold : (Config.Field.version (valueOf entries key .null)).mapError Fault.value = .ok old)
    (hmem : (key, (lastGiven get settings).map .text) ∈ overwrites settings) :
    (Config.Field.version (valueOf (overlay entries settings) key .null)).mapError Fault.value =
      versionOr old (lastGiven get settings) := by
  rw [valueOf_overlay hmem]
  cases lastGiven get settings with
  | none => exact hold
  | some word => rfl

end Command

end Preflight
