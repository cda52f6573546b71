import Preflight.Proofs.Config.Accepted
import Preflight.Proofs.Config.Reported
import Preflight.Proofs.Document.Entries

/-!
# Mappings with overwritten keys

A mapping makes a configuration if its keys are known, each value can be read, and the result keeps
the rules.  So overwriting keys of a mapping changes the settings of these keys alone.
-/

namespace Preflight

namespace Config

open Document (Overwrite overwrite overwriteOne field?)

variable {entries : List (Document × Document)} {c : Config}

theorem KnownKeys.overwrite (hknown : KnownKeys entries) {rows : List Overwrite}
    (hrows : ∀ row ∈ rows, row.1 ∈ keys) : KnownKeys (overwrite entries rows) := by
  induction rows generalizing entries with
  | nil => exact hknown
  | cons row rest ih =>
    obtain ⟨hrow, hrest⟩ := List.forall_mem_cons.1 hrows
    apply ih _ hrest
    obtain ⟨key, found⟩ := row
    cases found with
    | none => exact hknown
    | some d =>
      intro entry hmem
      rcases Document.key_of_mem_insertEntry hmem with hkey | ⟨before, hbefore, hkey⟩
      · exact ⟨key, hrow, hkey⟩
      · rw [hkey]
        exact hknown before hbefore

/-! ## What a mapping means -/

/-- The value of a key, or what stands for it where it is absent. -/
def valueOf (entries : List (Document × Document)) (key : String) (fallback : Document) : Document :=
  (field? entries key).getD fallback

/-- Each value of a mapping, read, is the setting of a configuration. -/
structure Means (entries : List (Document × Document)) (c : Config) : Prop where
  selectors : Field.selectors (valueOf entries "checks" (.list [.text Selector.wildcard])) =
    .ok c.selectors
  category : Field.category (valueOf entries "category" .null) = .ok c.category
  output : valueOf entries "output" (.text standard.output) = .text c.output
  minimum : Field.minimum (valueOf entries "min_severity" .null) = .ok c.minimum
  failOnCritical : Field.flag "fail_on_critical" (valueOf entries "fail_on_critical" (.bool true)) =
    .ok c.failOnCritical
  failOnWarning : Field.flag "fail_on_warning" (valueOf entries "fail_on_warning" (.bool false)) =
    .ok c.failOnWarning
  timeout : (Field.seconds (valueOf entries "timeout" (.float (.ofInt 300)))).map Duration.exact =
    .ok c.timeout
  maxWorkers : Field.whole (valueOf entries "max_workers" (.int 1)) = .ok c.maxWorkers
  verbose : Field.flag "verbose" (valueOf entries "verbose" (.bool false)) = .ok c.verbose
  showDescription : Field.flag "show_description" (valueOf entries "show_description" (.bool false)) =
    .ok c.showDescription
  current : (Field.version (valueOf entries "current_version" .null)).mapError Fault.value =
    .ok c.current
  target : (Field.version (valueOf entries "target_version" .null)).mapError Fault.value =
    .ok c.target

theorem means_of_fields {settings : Config} (hread : fields entries = .ok (.text c.output, settings))
    (hsettings : { settings with output := c.output } = c) : Means entries c := by
  obtain ⟨selectors, hselectors, hread⟩ := Fault.bind_eq_ok_iff.1 hread
  obtain ⟨category, hcategory, hread⟩ := Fault.bind_eq_ok_iff.1 hread
  obtain ⟨minimum, hminimum, hread⟩ := Fault.bind_eq_ok_iff.1 hread
  obtain ⟨failOnCritical, hcritical, hread⟩ := Fault.bind_eq_ok_iff.1 hread
  obtain ⟨failOnWarning, hwarning, hread⟩ := Fault.bind_eq_ok_iff.1 hread
  obtain ⟨timeout, htimeout, hread⟩ := Fault.bind_eq_ok_iff.1 hread
  obtain ⟨maxWorkers, hworkers, hread⟩ := Fault.bind_eq_ok_iff.1 hread
  obtain ⟨verbose, hverbose, hread⟩ := Fault.bind_eq_ok_iff.1 hread
  obtain ⟨describe, hdescribe, hread⟩ := Fault.bind_eq_ok_iff.1 hread
  obtain ⟨current, hcurrent, hread⟩ := Fault.bind_eq_ok_iff.1 hread
  obtain ⟨target, htarget, hread⟩ := Fault.bind_eq_ok_iff.1 hread
  obtain ⟨houtput, hmade⟩ := Prod.mk.inj (Except.ok.inj hread)
  rw [← hmade] at hsettings
  rw [← hsettings] at houtput ⊢
  exact {
    selectors := hselectors
    category := hcategory
    output := houtput
    minimum := hminimum
    failOnCritical := hcritical
    failOnWarning := hwarning
    timeout := Fault.map_eq_ok_iff.2 ⟨timeout, htimeout, rfl⟩
    maxWorkers := hworkers
    verbose := hverbose
    showDescription := hdescribe
    current := hcurrent
    target := htarget }

theorem Means.fields_eq (hmeans : Means entries c) :
    fields entries = .ok (.text c.output, { c with output := standard.output }) := by
  obtain ⟨seconds, hseconds, htimeout⟩ := Fault.map_eq_ok_iff.1 hmeans.timeout
  apply Fault.bind_eq_ok_iff.2 ⟨_, hmeans.selectors, ?_⟩
  apply Fault.bind_eq_ok_iff.2 ⟨_, hmeans.category, ?_⟩
  apply Fault.bind_eq_ok_iff.2 ⟨_, hmeans.minimum, ?_⟩
  apply Fault.bind_eq_ok_iff.2 ⟨_, hmeans.failOnCritical, ?_⟩
  apply Fault.bind_eq_ok_iff.2 ⟨_, hmeans.failOnWarning, ?_⟩
  apply Fault.bind_eq_ok_iff.2 ⟨_, hseconds, ?_⟩
  apply Fault.bind_eq_ok_iff.2 ⟨_, hmeans.maxWorkers, ?_⟩
  apply Fault.bind_eq_ok_iff.2 ⟨_, hmeans.verbose, ?_⟩
  apply Fault.bind_eq_ok_iff.2 ⟨_, hmeans.showDescription, ?_⟩
  apply Fault.bind_eq_ok_iff.2 ⟨_, hmeans.current, ?_⟩
  apply Fault.bind_eq_ok_iff.2 ⟨_, hmeans.target, ?_⟩
  rw [← htimeout, ← hmeans.output]
  rfl

theorem requireKnownKeys_eq_ok_iff : requireKnownKeys entries = .ok () ↔ KnownKeys entries := by
  rcases requireKnownKeys_cases entries with ⟨hodd, hkeys⟩ | ⟨hknown, hkeys⟩ |
    ⟨⟨-, hunknown⟩, defect, hkeys⟩
  · rw [hkeys]
    apply iff_of_false
    · intro hok
      cases hok
    · intro hknown
      exact hknown.not_hasOddKey hodd
  · exact iff_of_true hkeys hknown
  · rw [hkeys]
    apply iff_of_false
    · intro hok
      cases hok
    · exact hunknown

theorem withOutput_eq_ok_iff {output : Document} {settings : Config} :
    withOutput output settings = .ok c ↔
      output = .text c.output ∧ { settings with output := c.output } = c ∧ c.Accepted := by
  constructor
  · intro hread
    have haccepted : c.Accepted := accepted_of_withOutput hread
    cases output with
    | text s =>
      obtain ⟨⟨⟩, -, hreturned⟩ := Fault.bind_eq_ok_iff.1 hread
      cases hreturned
      exact ⟨rfl, rfl, haccepted⟩
    | _ =>
      obtain ⟨shown, -, hthrown⟩ := Fault.bind_eq_ok_iff.1 hread
      cases hthrown
  · rintro ⟨rfl, hsettings, haccepted⟩
    have hvalid : c.validate = .ok () := validate_eq_ok_iff.2 haccepted
    rw [withOutput, hsettings, hvalid]
    rfl

/-- A mapping makes a configuration exactly when its keys are known, it means the configuration, and
the configuration is accepted. -/
theorem ofEntries_eq_ok_iff :
    ofEntries entries = .ok c ↔ KnownKeys entries ∧ Means entries c ∧ c.Accepted := by
  constructor
  · intro hread
    obtain ⟨⟨⟩, hkeys, hread⟩ := Fault.bind_eq_ok_iff.1 hread
    obtain ⟨⟨output, settings⟩, hfields, hread⟩ := Fault.bind_eq_ok_iff.1 hread
    obtain ⟨rfl, hsettings, haccepted⟩ := withOutput_eq_ok_iff.1 (Fault.mapError_eq_ok_iff.1 hread)
    have hmeans := means_of_fields (Fault.mapError_eq_ok_iff.1 hfields) hsettings
    exact ⟨requireKnownKeys_eq_ok_iff.1 hkeys, hmeans, haccepted⟩
  · rintro ⟨hknown, hmeans, haccepted⟩
    apply Fault.bind_eq_ok_iff.2 ⟨(), requireKnownKeys_eq_ok_iff.2 hknown, ?_⟩
    apply Fault.bind_eq_ok_iff.2 ⟨_, Fault.mapError_eq_ok_iff.2 hmeans.fields_eq, ?_⟩
    exact Fault.mapError_eq_ok_iff.2 (withOutput_eq_ok_iff.2 ⟨rfl, rfl, haccepted⟩)

theorem ofEntries_nil : ofEntries [] = .ok standard := by
  apply ofEntries_eq_ok_iff.2 ⟨List.forall_mem_nil _, ?_, accepted_standard⟩
  exact ⟨rfl, rfl, rfl, rfl, rfl, rfl, rfl, rfl, rfl, rfl, rfl, rfl⟩

end Config

end Preflight
