import Preflight.Proofs.Action
import Preflight.Severity

/-!
# Well-formed results

What is accepted as the result of a check.  An accepted result names its target and its check, and
has at least one condition, each with a proper status, so that it has a severity.
-/

namespace Preflight

namespace Condition

/-- The status is a proper one, and nothing else that a reader relies on is missing. -/
structure WellFormed (c : Condition) : Prop where
  type : c.type ≠ ""
  status : ∃ status, c.status = .known status
  reason : c.reason ≠ ""

end Condition

namespace Result

structure WellFormed (r : Result) : Prop where
  group : r.group ≠ ""
  kind : r.kind ≠ ""
  name : r.name ≠ ""
  keys : ∀ pair ∈ r.annotations, isAnnotationKey pair.1 = true
  nonempty : r.conditions ≠ []
  conditions : ∀ c ∈ r.conditions, c.WellFormed

theorem checkKeys_eq_ok_iff {annotations : List (String × Document)} :
    checkKeys annotations = .ok () ↔
      ∀ pair ∈ annotations, isAnnotationKey pair.1 = true := by
  induction annotations with
  | nil => simp [checkKeys]
  | cons pair rest ih =>
    obtain ⟨key, value⟩ := pair
    by_cases hkey : isAnnotationKey key <;> simp [checkKeys, hkey, ih]

theorem checkCondition_eq_ok_iff {c : Condition} : checkCondition c = .ok () ↔ c.WellFormed := by
  constructor
  · intro haccepted
    rw [checkCondition] at haccepted
    split at haccepted
    · cases haccepted
    rename_i htype
    split at haccepted
    · cases haccepted
    rename_i status hstatus
    split at haccepted
    · cases haccepted
    rename_i hreason
    exact ⟨htype, ⟨status, hstatus⟩, hreason⟩
  · rintro ⟨htype, ⟨status, hstatus⟩, hreason⟩
    rw [checkCondition, if_neg htype, hstatus]
    exact if_neg hreason

theorem checkConditions_eq_ok_iff {conditions : List Condition} :
    checkConditions conditions = .ok () ↔ ∀ c ∈ conditions, c.WellFormed := by
  induction conditions with
  | nil => simp [checkConditions]
  | cons c rest ih =>
    rw [List.forall_mem_cons, ← ih, ← checkCondition_eq_ok_iff, checkConditions]
    cases checkCondition c <;> simp

/-- The rules in the order in which they are looked at. -/
theorem validate_eq (r : Result) : r.validate =
    if r.group = "" then .error .emptyGroup
    else if r.kind = "" then .error .emptyKind
    else if r.name = "" then .error .emptyName
    else
      match checkKeys r.annotations with
      | .error defect => .error defect
      | .ok () =>
        if r.conditions.isEmpty then .error .noConditions else checkConditions r.conditions := by
  rw [validate]
  by_cases hgroup : r.group = ""
  · rw [if_pos hgroup, if_pos hgroup]
    rfl
  rw [if_neg hgroup, if_neg hgroup]
  by_cases hkind : r.kind = ""
  · simp only [if_pos hkind]
    rfl
  simp only [if_neg hkind]
  by_cases hname : r.name = ""
  · simp only [if_pos hname]
    rfl
  simp only [if_neg hname]
  cases checkKeys r.annotations with
  | error defect => rfl
  | ok accepted => cases r.conditions <;> rfl

theorem validate_eq_ok_iff {r : Result} : r.validate = .ok () ↔ r.WellFormed := by
  rw [validate_eq]
  constructor
  · intro haccepted
    split at haccepted
    · cases haccepted
    rename_i hgroup
    split at haccepted
    · cases haccepted
    rename_i hkind
    split at haccepted
    · cases haccepted
    rename_i hname
    split at haccepted
    · cases haccepted
    rename_i hkeys
    split at haccepted
    · cases haccepted
    rename_i hnonempty
    exact ⟨hgroup, hkind, hname, checkKeys_eq_ok_iff.1 hkeys, by simpa using hnonempty,
      checkConditions_eq_ok_iff.1 haccepted⟩
  · intro hwell
    have hkeys := checkKeys_eq_ok_iff.2 hwell.keys
    have hnonempty : ¬r.conditions.isEmpty := by simpa using hwell.nonempty
    rw [if_neg hwell.group, if_neg hwell.kind, if_neg hwell.name, hkeys]
    rw [if_neg hnonempty]
    exact checkConditions_eq_ok_iff.2 hwell.conditions

/-- A well-formed result has conditions, so it has a severity. -/
theorem WellFormed.severity_ne_none {r : Result} (hwell : r.WellFormed) :
    Severity.ofConditions r.conditions ≠ none := by
  have hnonempty : ¬r.conditions.isEmpty := by simpa using hwell.nonempty
  rw [Severity.ofConditions, if_neg hnonempty]
  split
  · exact Option.some_ne_none _
  · split <;> exact Option.some_ne_none _

/-- A result with one annotation and one condition. -/
def single (value : Document) (status : ConditionStatus) : Result where
  group := "components"
  kind := "test"
  name := "check"
  description := ""
  annotations := [("check.example.io/count", value)]
  conditions := [⟨"Ready", .known status, "Reason", "", none, default⟩]
  impacted := []

theorem isAnnotationKey_single : isAnnotationKey "check.example.io/count" = true := by
  decide +kernel

theorem wellFormed_single (value : Document) (status : ConditionStatus) :
    (single value status).WellFormed where
  group := by simp [single]
  kind := by simp [single]
  name := by simp [single]
  keys := List.forall_mem_singleton.2 isAnnotationKey_single
  nonempty := by simp [single]
  conditions := List.forall_mem_singleton.2 ⟨by simp, ⟨status, rfl⟩, by simp⟩

end Result

end Preflight
