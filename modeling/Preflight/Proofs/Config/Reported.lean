import Mathlib.Data.List.Basic
import Preflight.Config.Read
import Preflight.Proofs.Fault

/-!
# What is reported of a configuration

Reading a configuration puts what is wrong with its values as defects of the configuration, but not
everything: four kinds of values, and keys that are no texts, make it fail in some other way.  Which
failure comes out is decided by the first key, in the order of reading, of which the value is
refused.
-/

namespace Preflight

namespace Config

/-! ## Reading the values in order -/

/-- A key, with the failure that the value of the key leads to if it is refused. -/
structure Reading where
  key : String
  refusal? : Document → Option Fault

def readings : List Reading :=
  [⟨"checks", fun d => Fault.of? (Field.selectors d)⟩,
   ⟨"category", fun d => Fault.of? (Field.category d)⟩,
   ⟨"min_severity", fun d => Fault.of? (Field.minimum d)⟩,
   ⟨"fail_on_critical", fun d => Fault.of? (Field.flag "fail_on_critical" d)⟩,
   ⟨"fail_on_warning", fun d => Fault.of? (Field.flag "fail_on_warning" d)⟩,
   ⟨"timeout", fun d => Fault.of? (Field.seconds d)⟩,
   ⟨"max_workers", fun d => Fault.of? (Field.whole d)⟩,
   ⟨"verbose", fun d => Fault.of? (Field.flag "verbose" d)⟩,
   ⟨"show_description", fun d => Fault.of? (Field.flag "show_description" d)⟩,
   ⟨"current_version", fun d => Fault.of? ((Field.version d).mapError .value)⟩,
   ⟨"target_version", fun d => Fault.of? ((Field.version d).mapError .value)⟩]

/-- The failure that a reading leads to in a mapping; a key that is absent leads to none. -/
def Reading.fault? (entries : List (Document × Document)) (reading : Reading) : Option Fault :=
  (Document.field? entries reading.key).bind reading.refusal?

/-- Reading one value after the other: what comes later fails in the same way, whatever is read. -/
theorem of?_read_bind {α β : Type} {entries : List (Document × Document)} {key : String}
    {reader : Document → Except Fault α} {fallback : Document} {next : α → Except Fault β}
    {rest : List Reading} (hfallback : Fault.of? (reader fallback) = none)
    (hnext : ∀ value, Fault.of? (next value) = rest.findSome? (Reading.fault? entries)) :
    Fault.of? (reader ((Document.field? entries key).getD fallback) >>= next) =
      (⟨key, fun d => Fault.of? (reader d)⟩ :: rest).findSome? (Reading.fault? entries) := by
  have hread : Fault.of? (reader ((Document.field? entries key).getD fallback)) =
      Reading.fault? entries ⟨key, fun d => Fault.of? (reader d)⟩ := by
    rw [Reading.fault?]
    cases Document.field? entries key with
    | none => exact hfallback
    | some d => rfl
  rw [Fault.of?_bind hnext, hread, List.findSome?_cons]
  cases Reading.fault? entries ⟨key, fun d => Fault.of? (reader d)⟩ <;> rfl

/-- Reading a mapping fails with the first refusal. -/
theorem of?_fields (entries : List (Document × Document)) :
    Fault.of? (fields entries) = readings.findSome? (Reading.fault? entries) := by
  -- One reading after the other is taken off; the defaults are never refused.
  let version (d : Document) : Except Fault (Option Version) := (Field.version d).mapError .value
  apply of?_read_bind rfl fun selectors => ?_
  apply of?_read_bind rfl fun category => ?_
  apply of?_read_bind rfl fun minimum => ?_
  apply of?_read_bind rfl fun failOnCritical => ?_
  apply of?_read_bind rfl fun failOnWarning => ?_
  apply of?_read_bind rfl fun timeout => ?_
  apply of?_read_bind rfl fun maxWorkers => ?_
  apply of?_read_bind rfl fun verbose => ?_
  apply of?_read_bind rfl fun describe => ?_
  apply @of?_read_bind _ _ _ _ version .null _ _ rfl fun current => ?_
  apply @of?_read_bind _ _ _ _ version .null _ _ rfl fun target => ?_
  rfl

/-! ## Refusals that are not put as defects -/

end Config

/-- Words are written as texts or as bytes. -/
def Document.isWord : Document → Bool
  | text _ => true
  | bytes _ => true
  | _ => false

namespace Config

/-- The values whose refusal is not put as a defect of the configuration, with what comes out in its
place. -/
inductive Unhandled (key : String) (d : Document) : Fault → Prop where
  /-- A value that is given for a word and is none. -/
  | word (hkey : key = "category" ∨ key = "min_severity") (hgiven : d.isGiven) (hkind : ¬d.isWord) :
      Unhandled key d (.noField d.qualifiedKindName "strip")
  /-- A whole number of seconds that no floating-point number comes near. -/
  | seconds {n : Int} (hkey : key = "timeout") (hvalue : d = .int n)
      (hlarge : (Binary64.ofInt n).isInfinite) : Unhandled key d (.range .floatOfInt)
  /-- An infinity in the place of a whole number. -/
  | whole {negative : Bool} (hkey : key = "max_workers")
      (hvalue : d = .float (.infinity negative)) : Unhandled key d (.range .wholeOfInfinity)

/-- Failures that are put as defects, where the value of a key leads to them. -/
def isHandled : Fault → Bool
  | .config _ => true
  | .value _ => true
  | .kind _ => true
  | _ => false

/-- Failures pass a step that puts some of them as defects and leaves the others as they are. -/
theorem mapError_escapes_iff {α : Type} {report : Fault → Fault}
    (hsame : ∀ fault, ¬(report fault).IsConfigDefect → report fault = fault)
    {result : Except Fault α} {fault : Fault} :
    (result.mapError report = .error fault ∧ ¬fault.IsConfigDefect) ↔
      result = .error fault ∧ ¬(report fault).IsConfigDefect := by
  cases result with
  | ok value =>
    constructor
    · rintro ⟨hfault, -⟩
      cases hfault
    · rintro ⟨hfault, -⟩
      cases hfault
  | error found =>
    constructor
    · rintro ⟨hfault, hescapes⟩
      have hreport : report found = fault := Except.error.inj hfault
      rw [← hreport] at hescapes
      have hfound : found = fault := (hsame found hescapes).symm.trans hreport
      rw [← hfound]
      exact ⟨rfl, hescapes⟩
    · rintro ⟨hfault, hescapes⟩
      have hfound : found = fault := Except.error.inj hfault
      rw [hfound]
      have hreport := hsame fault hescapes
      rw [hreport] at hescapes
      exact ⟨congrArg Except.error hreport, hescapes⟩

theorem isConfigDefect_asDefect_iff {fault : Fault} :
    (asDefect fault).IsConfigDefect ↔ isHandled fault := by
  cases fault <;> simp [asDefect, isHandled, Fault.IsConfigDefect]

theorem asDefect_of_escapes (fault : Fault) (hescapes : ¬(asDefect fault).IsConfigDefect) :
    asDefect fault = fault := by
  rw [isConfigDefect_asDefect_iff] at hescapes
  cases fault <;> first | rfl | exact absurd rfl hescapes

variable {α : Type} {d : Document} {fault : Fault}

theorem isHandled_of_mapError {result : Except ValueDefect α}
    (hrefused : result.mapError Fault.value = .error fault) : isHandled fault := by
  cases result with
  | ok value => cases hrefused
  | error defect =>
    cases hrefused
    rfl

/-- The failure of a message that shows a value. -/
theorem isHandled_of_showing {describe : String → ConfigDefect}
    (hrefused : (do throw (.config (describe (← d.shown.mapError .value))) : Except Fault α) =
      .error fault) : isHandled fault := by
  cases hshown : d.shown with
  | error defect =>
    rw [hshown] at hrefused
    cases hrefused
    rfl
  | ok shown =>
    rw [hshown] at hrefused
    cases hrefused
    rfl

theorem isHandled_of_selectors (hrefused : Field.selectors d = .error fault) :
    isHandled fault := by
  rw [Field.selectors.eq_def] at hrefused
  split at hrefused
  · cases hrefused
  split at hrefused
  · cases hrefused
  · exact isHandled_of_showing hrefused

theorem isHandled_of_flag {key : String} (hrefused : Field.flag key d = .error fault) :
    isHandled fault := by
  rw [Field.flag.eq_def] at hrefused
  split at hrefused
  · cases hrefused
  · exact isHandled_of_showing hrefused

/-- A reader of words takes what is not given for no word at all, and says of texts and bytes what
is wrong with them; of everything else it asks what only a text can do. -/
theorem word_unhandled_iff {read : Except Fault α}
    (habsent : ¬d.isGiven → ∃ value, read = .ok value)
    (hword : d.isGiven → d.isWord → ∀ fault, read = .error fault → isHandled fault)
    (hother : d.isGiven → ¬d.isWord → read = .error (.noField d.qualifiedKindName "strip")) :
    (read = .error fault ∧ ¬isHandled fault) ↔
      d.isGiven ∧ ¬d.isWord ∧ fault = .noField d.qualifiedKindName "strip" := by
  by_cases hgiven : d.isGiven
  · by_cases hkind : d.isWord
    · constructor
      · rintro ⟨hrefused, hunhandled⟩
        exact absurd (hword hgiven hkind fault hrefused) hunhandled
      · rintro ⟨-, hno, -⟩
        exact absurd hkind hno
    · rw [hother hgiven hkind]
      constructor
      · rintro ⟨hrefused, -⟩
        exact ⟨hgiven, hkind, (Except.error.inj hrefused).symm⟩
      · rintro ⟨-, -, rfl⟩
        exact ⟨rfl, Bool.false_ne_true⟩
  · obtain ⟨value, hvalue⟩ := habsent hgiven
    constructor
    · rintro ⟨hrefused, -⟩
      cases hvalue.symm.trans hrefused
    · rintro ⟨hyes, -⟩
      exact absurd hyes hgiven

theorem category_unhandled_iff : (Field.category d = .error fault ∧ ¬isHandled fault) ↔
    d.isGiven ∧ ¬d.isWord ∧ fault = .noField d.qualifiedKindName "strip" := by
  apply word_unhandled_iff
  · intro habsent
    exact ⟨none, by rw [Field.category.eq_def, if_pos (by simpa using habsent)]⟩
  · intro hgiven hword found hrefused
    rw [Field.category.eq_def, if_neg (by simpa using hgiven)] at hrefused
    cases d with
    | text s =>
      dsimp only at hrefused
      split at hrefused
      · cases hrefused
      · cases hrefused
        rfl
    | bytes content =>
      cases hrefused
      rfl
    | _ => cases hword
  · intro hgiven hkind
    rw [Field.category.eq_def, if_neg (by simpa using hgiven)]
    cases d <;> first | exact absurd rfl hkind | rfl

theorem minimum_unhandled_iff : (Field.minimum d = .error fault ∧ ¬isHandled fault) ↔
    d.isGiven ∧ ¬d.isWord ∧ fault = .noField d.qualifiedKindName "strip" := by
  apply word_unhandled_iff
  · intro habsent
    exact ⟨.all, by rw [Field.minimum.eq_def, if_pos (by simpa using habsent)]⟩
  · intro hgiven hword found hrefused
    rw [Field.minimum.eq_def, if_neg (by simpa using hgiven)] at hrefused
    cases d with
    | text s => exact isHandled_of_mapError hrefused
    | bytes content =>
      cases hrefused
      rfl
    | _ => cases hword
  · intro hgiven hkind
    rw [Field.minimum.eq_def, if_neg (by simpa using hgiven)]
    cases d <;> first | exact absurd rfl hkind | rfl

theorem isHandled_of_exact {cs : List Char} {shown : String}
    (hrefused : Field.seconds.exact cs shown = .error fault) : isHandled fault := by
  rw [Field.seconds.exact] at hrefused
  split at hrefused
  · cases hrefused
  · cases hrefused
    rfl

theorem seconds_unhandled_iff : (Field.seconds d = .error fault ∧ ¬isHandled fault) ↔
    ∃ n, d = .int n ∧ (Binary64.ofInt n).isInfinite ∧ fault = .range .floatOfInt := by
  constructor
  · rintro ⟨hrefused, hunhandled⟩
    cases d with
    | int n =>
      have hseconds : (Duration.whole n).seconds = .error fault := hrefused
      rw [Duration.seconds] at hseconds
      split at hseconds
      · rename_i hlarge
        cases hseconds
        exact ⟨n, rfl, hlarge, rfl⟩
      · cases hseconds
    | text s => exact absurd (isHandled_of_exact hrefused) hunhandled
    | bytes content => exact absurd (isHandled_of_exact hrefused) hunhandled
    | float x => cases hrefused
    | bool b => cases hrefused
    | _ =>
      cases hrefused
      exact absurd rfl hunhandled
  · rintro ⟨n, rfl, hlarge, rfl⟩
    have hseconds : (Duration.whole n).seconds = .error (.range .floatOfInt) := by
      rw [Duration.seconds, if_pos hlarge]
    exact ⟨hseconds, Bool.false_ne_true⟩

theorem whole_unhandled_iff : (Field.whole d = .error fault ∧ ¬isHandled fault) ↔
    ∃ negative, d = .float (.infinity negative) ∧ fault = .range .wholeOfInfinity := by
  constructor
  · rintro ⟨hrefused, hunhandled⟩
    cases d with
    | float x =>
      cases x with
      | nan =>
        cases hrefused
        exact absurd rfl hunhandled
      | infinity negative =>
        cases hrefused
        exact ⟨negative, rfl, rfl⟩
      | finite negative units hunits => cases hrefused
    | text s => exact absurd (isHandled_of_mapError hrefused) hunhandled
    | bytes content => exact absurd (isHandled_of_mapError hrefused) hunhandled
    | int n => cases hrefused
    | bool b => cases hrefused
    | _ =>
      cases hrefused
      exact absurd rfl hunhandled
  · rintro ⟨negative, rfl, rfl⟩
    exact ⟨rfl, Bool.false_ne_true⟩

/-- What a reading refuses without its being put as a defect. -/
def Reading.Unreported (reading : Reading) : Prop :=
  ∀ d fault, (reading.refusal? d = some fault ∧ ¬isHandled fault) ↔ Unhandled reading.key d fault

theorem Reading.unreported_of_isHandled {reading : Reading}
    (hkey : reading.key ∉ ["category", "min_severity", "timeout", "max_workers"])
    (hhandled : ∀ d fault, reading.refusal? d = some fault → isHandled fault) :
    reading.Unreported := by
  intro d fault
  constructor
  · rintro ⟨hrefused, hunhandled⟩
    exact absurd (hhandled d fault hrefused) hunhandled
  · intro hunhandled
    apply absurd _ hkey
    cases hunhandled with
    | word hword hgiven hkind => rcases hword with hword | hword <;> simp [hword]
    | seconds hseconds hvalue hlarge => simp [hseconds]
    | whole hwhole hvalue => simp [hwhole]

theorem unhandled_word_iff {key : String} (hkey : key = "category" ∨ key = "min_severity") :
    Unhandled key d fault ↔
      d.isGiven ∧ ¬d.isWord ∧ fault = .noField d.qualifiedKindName "strip" := by
  constructor
  · intro hunhandled
    cases hunhandled with
    | word hword hgiven hkind => exact ⟨hgiven, hkind, rfl⟩
    | seconds hseconds hvalue hlarge =>
      rw [hseconds] at hkey
      exact absurd hkey (by decide)
    | whole hwhole hvalue =>
      rw [hwhole] at hkey
      exact absurd hkey (by decide)
  · rintro ⟨hgiven, hkind, rfl⟩
    exact .word hkey hgiven hkind

theorem unreported_readings : ∀ reading ∈ readings, reading.Unreported := by
  have hflag (key : String) (hkey : key ∉ ["category", "min_severity", "timeout", "max_workers"]) :
      Reading.Unreported ⟨key, fun d => Fault.of? (Field.flag key d)⟩ :=
    Reading.unreported_of_isHandled hkey fun d fault hrefused =>
      isHandled_of_flag (Fault.of?_eq_some_iff.1 hrefused)
  have hversion (key : String)
      (hkey : key ∉ ["category", "min_severity", "timeout", "max_workers"]) :
      Reading.Unreported ⟨key, fun d => Fault.of? ((Field.version d).mapError .value)⟩ :=
    Reading.unreported_of_isHandled hkey fun d fault hrefused =>
      isHandled_of_mapError (Fault.of?_eq_some_iff.1 hrefused)
  simp only [readings, List.forall_mem_cons]
  refine ⟨?checks, ?category, ?minimum, hflag _ (by decide), hflag _ (by decide), ?timeout,
    ?workers, hflag _ (by decide), hflag _ (by decide), hversion _ (by decide),
    hversion _ (by decide), List.forall_mem_nil _⟩
  case checks =>
    exact Reading.unreported_of_isHandled (by decide) fun d fault hrefused =>
      isHandled_of_selectors (Fault.of?_eq_some_iff.1 hrefused)
  case category =>
    intro d fault
    rw [Fault.of?_eq_some_iff, category_unhandled_iff, unhandled_word_iff (.inl rfl)]
  case minimum =>
    intro d fault
    rw [Fault.of?_eq_some_iff, minimum_unhandled_iff, unhandled_word_iff (.inr rfl)]
  case timeout =>
    intro d fault
    rw [Fault.of?_eq_some_iff, seconds_unhandled_iff]
    constructor
    · rintro ⟨n, rfl, hlarge, rfl⟩
      exact .seconds rfl rfl hlarge
    · intro hunhandled
      cases hunhandled with
      | word hword hgiven hkind => exact absurd hword (by decide)
      | seconds hseconds hvalue hlarge => exact ⟨_, hvalue, hlarge, rfl⟩
      | whole hwhole hvalue => exact absurd hwhole (by decide)
  case workers =>
    intro d fault
    rw [Fault.of?_eq_some_iff, whole_unhandled_iff]
    constructor
    · rintro ⟨negative, rfl, rfl⟩
      exact .whole rfl rfl
    · intro hunhandled
      cases hunhandled with
      | word hword hgiven hkind => exact absurd hword (by decide)
      | seconds hseconds hvalue hlarge => exact absurd hseconds (by decide)
      | whole hwhole hvalue => exact ⟨_, hvalue, rfl⟩

/-! ## Keys -/

/-- A row of optional items either lacks one or is a row of items. -/
theorem mapM_id_cases (row : List (Option α)) :
    none ∈ row ∧ row.mapM id = none ∨ ∃ items, row = items.map some ∧ row.mapM id = some items := by
  induction row with
  | nil => exact .inr ⟨[], rfl, rfl⟩
  | cons first rest ih =>
    cases first with
    | none => exact .inl ⟨List.mem_cons_self, by simp⟩
    | some item =>
      rcases ih with ⟨hmem, hnone⟩ | ⟨items, hitems, hsome⟩
      · exact .inl ⟨List.mem_cons_of_mem _ hmem, by simp [hnone]⟩
      · exact .inr ⟨item :: items, by rw [hitems, List.map_cons], by simp [hsome]⟩

/-- What a key adds to the unknown ones; none of them can be told if it is no text. -/
def unknownKey? (key : Document) : Option (Option String) :=
  match key with
  | .text s => if keys.contains s then none else some (some s)
  | _ => some none

theorem unknownKey?_eq_none_iff {key : Document} :
    unknownKey? key = none ↔ ∃ name ∈ keys, key = .text name := by
  rw [unknownKey?.eq_def]
  split
  · simp
  · rename_i hkind
    simpa using fun name _ => hkind name

theorem unknownKey?_eq_some_none_iff {key : Document} :
    unknownKey? key = some none ↔ ∀ name, key ≠ .text name := by
  rw [unknownKey?.eq_def]
  split
  · simp
  · rename_i hkind
    simpa using hkind

/-- What the keys of a mapping add to the unknown ones, in order. -/
def unknownRow (entries : List (Document × Document)) : List (Option String) :=
  entries.filterMap fun entry => unknownKey? entry.1

theorem unknownKeys_eq (entries : List (Document × Document)) :
    unknownKeys entries =
      ((unknownRow entries).mapM id).elim (.error (.kind .keysNotText)) .ok := by
  rw [unknownKeys.eq_def]
  dsimp only
  split
  · rename_i found hfound
    have hrow : (unknownRow entries).mapM id = some found := hfound
    rw [hrow]
    rfl
  · rename_i hnone
    have hrow : (unknownRow entries).mapM id = none := hnone
    rw [hrow]
    rfl

/-- Every key of a mapping is one that is known. -/
def KnownKeys (entries : List (Document × Document)) : Prop :=
  ∀ entry ∈ entries, ∃ name ∈ keys, entry.1 = .text name

/-- Some key of a mapping is no text. -/
def HasOddKey (entries : List (Document × Document)) : Prop :=
  ∃ entry ∈ entries, ∀ name, entry.1 ≠ .text name

theorem knownKeys_iff {entries : List (Document × Document)} :
    KnownKeys entries ↔ unknownRow entries = [] := by
  rw [unknownRow, List.filterMap_eq_nil_iff]
  exact forall₂_congr fun _ _ => unknownKey?_eq_none_iff.symm

theorem hasOddKey_iff {entries : List (Document × Document)} :
    HasOddKey entries ↔ none ∈ unknownRow entries := by
  rw [unknownRow, List.mem_filterMap]
  exact exists_congr fun _ => and_congr_right fun _ => unknownKey?_eq_some_none_iff.symm

/-- The three ways in which the keys of a mapping are taken. -/
theorem requireKnownKeys_cases (entries : List (Document × Document)) :
    HasOddKey entries ∧ requireKnownKeys entries = .error (.kind .keysNotText) ∨
      KnownKeys entries ∧ requireKnownKeys entries = .ok () ∨
      (¬HasOddKey entries ∧ ¬KnownKeys entries) ∧
        ∃ defect, requireKnownKeys entries = .error (.config defect) := by
  rw [hasOddKey_iff, knownKeys_iff, requireKnownKeys, unknownKeys_eq]
  rcases mapM_id_cases (unknownRow entries) with ⟨hodd, hnone⟩ | ⟨found, hfound, hsome⟩
  · rw [hnone]
    exact .inl ⟨hodd, rfl⟩
  rw [hsome, hfound]
  right
  cases found with
  | nil => exact .inl ⟨rfl, rfl⟩
  | cons first rest => exact .inr ⟨⟨by simp, by simp⟩, _, rfl⟩

/-! ## Failures that come out -/

/-- The failures of a mapping that are no defects of a configuration. -/
inductive Escapes (entries : List (Document × Document)) : Fault → Prop where
  | oddKey (hodd : HasOddKey entries) : Escapes entries (.kind .keysNotText)
  /-- With keys that are all known, the first value that is refused decides. -/
  | value {before after : List Reading} {reading : Reading} {d : Document} {fault : Fault}
      (hknown : KnownKeys entries) (horder : readings = before ++ reading :: after)
      (hbefore : ∀ earlier ∈ before, earlier.fault? entries = none)
      (hvalue : Document.field? entries reading.key = some d)
      (hunhandled : Unhandled reading.key d fault) : Escapes entries fault

theorem KnownKeys.not_hasOddKey {entries : List (Document × Document)}
    (hknown : KnownKeys entries) : ¬HasOddKey entries := by
  rintro ⟨entry, hmem, hodd⟩
  obtain ⟨name, -, hname⟩ := hknown entry hmem
  exact hodd name hname

/-- With keys that are all known, the first refusal decides which failure comes out. -/
theorem fields_escapes_iff {entries : List (Document × Document)} (hknown : KnownKeys entries) :
    (fields entries = .error fault ∧ ¬isHandled fault) ↔ Escapes entries fault := by
  rw [← Fault.of?_eq_some_iff, of?_fields, List.findSome?_eq_some_iff]
  constructor
  · rintro ⟨⟨before, reading, after, horder, hfault, hbefore⟩, hunhandled⟩
    have hmem : reading ∈ readings := by
      rw [horder]
      exact List.mem_append_right _ List.mem_cons_self
    obtain ⟨d, hvalue, hrefused⟩ := Option.bind_eq_some_iff.1 hfault
    have hvalued := (unreported_readings reading hmem d fault).1 ⟨hrefused, hunhandled⟩
    exact .value hknown horder hbefore hvalue hvalued
  · intro hescapes
    cases hescapes with
    | oddKey hodd => exact absurd hodd hknown.not_hasOddKey
    | @value before after reading d fault hknown horder hbefore hvalue hvalued =>
      have hmem : reading ∈ readings := by
        rw [horder]
        exact List.mem_append_right _ List.mem_cons_self
      obtain ⟨hrefused, hunhandled⟩ := (unreported_readings reading hmem d fault).2 hvalued
      have hfault : reading.fault? entries = some fault :=
        Option.bind_eq_some_iff.2 ⟨d, hvalue, hrefused⟩
      exact ⟨⟨before, reading, after, horder, hfault, hbefore⟩, hunhandled⟩

/-- What is found out once the values are read is put as a defect. -/
theorem ofEntries_of_knownKeys {entries : List (Document × Document)}
    (hkeys : requireKnownKeys entries = .ok ()) :
    (ofEntries entries = .error fault ∧ ¬fault.IsConfigDefect) ↔
      (fields entries).mapError asDefect = .error fault ∧ ¬fault.IsConfigDefect := by
  have hofEntries : ofEntries entries = (fields entries).mapError asDefect >>= fun found =>
      (withOutput found.1 found.2).mapError .config := by
    rw [ofEntries, hkeys]
    rfl
  rw [hofEntries]
  cases (fields entries).mapError asDefect with
  | error found =>
    constructor
    · rintro ⟨hfault, hescapes⟩
      cases hfault
      exact ⟨rfl, hescapes⟩
    · rintro ⟨hfault, hescapes⟩
      cases hfault
      exact ⟨rfl, hescapes⟩
  | ok found =>
    constructor
    · rintro ⟨hfault, hescapes⟩
      have hfault : (withOutput found.1 found.2).mapError Fault.config = .error fault := hfault
      cases houtput : withOutput found.1 found.2 with
      | error defect =>
        rw [houtput] at hfault
        exact absurd ⟨defect, (Except.error.inj hfault).symm⟩ hescapes
      | ok config =>
        rw [houtput] at hfault
        cases hfault
    · rintro ⟨hfault, -⟩
      cases hfault

/-- A mapping makes reading fail in another way than with a defect exactly when one of its keys is
no text, or when a value that no defect is put for is the first to be refused. -/
theorem ofEntries_escapes_iff {entries : List (Document × Document)} :
    (ofEntries entries = .error fault ∧ ¬fault.IsConfigDefect) ↔ Escapes entries fault := by
  rcases requireKnownKeys_cases entries with ⟨hodd, hkeys⟩ | ⟨hknown, hkeys⟩ |
    ⟨⟨hnormal, hunknown⟩, defect, hkeys⟩
  · have hofEntries : ofEntries entries = .error (.kind .keysNotText) := by
      rw [ofEntries, hkeys]
      rfl
    constructor
    · rintro ⟨hfault, -⟩
      rw [hofEntries] at hfault
      cases hfault
      exact .oddKey hodd
    · intro hescapes
      cases hescapes with
      | oddKey hodd =>
        refine ⟨hofEntries, ?_⟩
        rintro ⟨defect, hdefect⟩
        cases hdefect
      | value hknown horder hbefore hvalue hunhandled =>
        exact absurd hodd hknown.not_hasOddKey
  · rw [ofEntries_of_knownKeys hkeys, mapError_escapes_iff asDefect_of_escapes,
      isConfigDefect_asDefect_iff, fields_escapes_iff hknown]
  · have hofEntries : ofEntries entries = .error (.config defect) := by
      rw [ofEntries, hkeys]
      rfl
    constructor
    · rintro ⟨hfault, hescapes⟩
      rw [hofEntries] at hfault
      exact absurd ⟨defect, (Except.error.inj hfault).symm⟩ hescapes
    · intro hescapes
      cases hescapes with
      | oddKey hodd => exact absurd hodd hnormal
      | value hknown horder hbefore hvalue hunhandled => exact absurd hknown hunknown

/-! ## Files -/

/-- A file stands at a path, and the document in it can be read. -/
def Holds (files : Files) (path : Path) (d : Document) : Prop :=
  ∃ content, files.entryAt path = .ok (some (.file content)) ∧
    Yaml.readSingle (Files.textOf content) = .ok d

theorem isConfigDefect_inFile_iff {path : Path} :
    (inFile path fault).IsConfigDefect ↔ fault.IsConfigDefect := by
  cases fault <;> simp [inFile, Fault.IsConfigDefect]

theorem inFile_of_escapes {path : Path} (fault : Fault)
    (hescapes : ¬(inFile path fault).IsConfigDefect) : inFile path fault = fault := by
  rw [isConfigDefect_inFile_iff] at hescapes
  cases fault <;> first | rfl | exact absurd ⟨_, rfl⟩ hescapes

theorem ofText_of_mapping {path : Path} {text : String} {d : Document}
    {entries : List (Document × Document)} (hread : Yaml.readSingle text = .ok d)
    (hentries : d.entries? = some entries) :
    ofText path text = (ofEntries entries).mapError (inFile path) := by
  rw [ofText, hread]
  cases d with
  | null => cases hentries
  | map found =>
    cases hentries
    rfl
  | _ => simp only [hentries]

/-- A document that is no mapping is the standard configuration or a defect. -/
theorem ofText_of_not_mapping {path : Path} {text : String} {d : Document}
    (hread : Yaml.readSingle text = .ok d) (hentries : d.entries? = none) :
    ofText path text = .ok standard ∨ ∃ defect, ofText path text = .error (.config defect) := by
  rw [ofText, hread]
  cases d with
  | null => exact .inl rfl
  | _ => exact .inr ⟨.notMapping path.text, by simp only [hentries]⟩

theorem load_escapes_iff {files : Files} {path : Path} {d : Document}
    (hholds : Holds files path d) :
    (load files path = .error fault ∧ ¬fault.IsConfigDefect) ↔
      ∃ entries, d.entries? = some entries ∧ Escapes entries fault := by
  obtain ⟨content, hentry, hread⟩ := hholds
  have hload : load files path = ofText path (Files.textOf content) := by
    rw [load, hentry]
    rfl
  rw [hload]
  cases hentries : d.entries? with
  | some entries =>
    simp only [Option.some.injEq, exists_eq_left']
    rw [ofText_of_mapping hread hentries, mapError_escapes_iff inFile_of_escapes,
      isConfigDefect_inFile_iff, ofEntries_escapes_iff]
  | none =>
    constructor
    · rintro ⟨hfault, hescapes⟩
      rcases ofText_of_not_mapping hread hentries with hstandard | ⟨defect, hdefect⟩
      · cases hstandard.symm.trans hfault
      · cases hdefect.symm.trans hfault
        exact absurd ⟨defect, rfl⟩ hescapes
    · rintro ⟨entries, hsome, -⟩
      cases hsome

/-- Which failures that are no defects of a configuration come out, of a mapping and of a file that
holds a document. -/
theorem escapes_iff (fault : Fault) :
    (∀ entries, (ofEntries entries = .error fault ∧ ¬fault.IsConfigDefect) ↔
      Escapes entries fault) ∧
    ∀ files path d, (Holds files path d ∧ load files path = .error fault ∧
        ¬fault.IsConfigDefect) ↔
      Holds files path d ∧ ∃ entries, d.entries? = some entries ∧ Escapes entries fault :=
  ⟨fun _ => ofEntries_escapes_iff, fun _ _ _ => and_congr_right load_escapes_iff⟩

/-- A number in the place of a category is asked to strip its blanks. -/
theorem category_escapes :
    ofEntries [(.text "category", .int 5)] = .error (.noField "int" "strip") ∧
      ¬(Fault.noField "int" "strip").IsConfigDefect := by
  refine ⟨rfl, ?_⟩
  rintro ⟨defect, hdefect⟩
  cases hdefect

end Config

end Preflight
