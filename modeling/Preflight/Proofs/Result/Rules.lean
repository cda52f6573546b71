import Preflight.Proofs.Result.WellFormed

/-!
# The rules for results

What is asked of a result stands in one row of rules: those for the names, one for each annotation
key, one for the conditions together, and three for each condition.  Validation goes through the row
and stops at the first rule that is broken, so what it reports is the same for every reader.  A
result that keeps all the rules has a verdict, and passes exactly if none of its conditions fails.
-/

namespace Preflight

/-! ## Verdicts -/

namespace Condition

/-- A proper status is met if it is neither violated nor undetermined. -/
theorem WellFormed.met_iff {c : Condition} (hwell : c.WellFormed) :
    c.status.spells .met = true ↔
      c.status.spells .violated = false ∧ c.status.spells .undetermined = false := by
  obtain ⟨status, hstatus⟩ := hwell.status
  rw [hstatus]
  cases status <;> decide

end Condition

theorem Verdict.ofConditions_eq_pass_iff {conditions : List Condition} :
    Verdict.ofConditions conditions = some .pass ↔ conditions ≠ [] ∧
      ∀ c ∈ conditions,
        c.status.spells .violated = false ∧ c.status.spells .undetermined = false := by
  have hpass (severity : Severity) : severity.verdict = .pass ↔ severity = .info := by
    cases severity <;> decide
  rw [ofConditions, Option.map_eq_some_iff, Severity.ofConditions]
  simp only [hpass, exists_eq_right]
  by_cases hempty : conditions = []
  · simp [hempty]
  have hnonempty : conditions.isEmpty = false := by simpa using hempty
  rw [hnonempty, if_neg Bool.false_ne_true]
  by_cases hviolated : conditions.any (·.status.spells .violated)
  · rw [if_pos hviolated]
    obtain ⟨c, hmem, hc⟩ := List.any_eq_true.1 hviolated
    apply iff_of_false
    · simp
    · rintro ⟨-, hall⟩
      exact Bool.eq_false_iff.1 (hall c hmem).1 hc
  rw [if_neg hviolated]
  by_cases hundetermined : conditions.any (·.status.spells .undetermined)
  · rw [if_pos hundetermined]
    obtain ⟨c, hmem, hc⟩ := List.any_eq_true.1 hundetermined
    apply iff_of_false
    · simp
    · rintro ⟨-, hall⟩
      exact Bool.eq_false_iff.1 (hall c hmem).2 hc
  rw [if_neg hundetermined]
  refine iff_of_true rfl ⟨hempty, fun c hmem => ⟨?_, ?_⟩⟩
  · exact Bool.eq_false_iff.2 fun hc => hviolated (List.any_eq_true.2 ⟨c, hmem, hc⟩)
  · exact Bool.eq_false_iff.2 fun hc => hundetermined (List.any_eq_true.2 ⟨c, hmem, hc⟩)

namespace Result

/-- Of conditions that are well formed the verdict is a pass if none of them fails. -/
theorem WellFormed.passes_iff {r : Result} (hwell : r.WellFormed) :
    Verdict.ofConditions r.conditions = some .pass ↔ r.isFailing = false := by
  have hmet : (∀ c ∈ r.conditions, c.status.spells .violated = false ∧
      c.status.spells .undetermined = false) ↔
      ∀ c ∈ r.conditions, c.status.spells .met = true :=
    forall₂_congr fun c hmem => (hwell.conditions c hmem).met_iff.symm
  rw [Verdict.ofConditions_eq_pass_iff, and_iff_right hwell.nonempty, hmet, isFailing,
    List.any_eq_false]
  simp

/-! ## Annotation keys -/

/-- A domain with a point in it and a name, parted by the only slash. -/
def IsQualifiedKey (key : String) : Prop :=
  ∃ domain name : String, key = domain ++ "/" ++ name ∧ '/' ∉ domain.toList ∧
    '/' ∉ name.toList ∧ '.' ∈ domain.toList ∧ name ≠ ""

theorem isAnnotationKey_iff {key : String} : isAnnotationKey key = true ↔ IsQualifiedKey key := by
  constructor
  · intro haccepted
    rw [isAnnotationKey] at haccepted
    split at haccepted
    · rename_i domain name hsplit
      obtain ⟨hkey, hdomain, hname⟩ := Text.split_eq_pair_iff.1 hsplit
      simp only [Bool.and_eq_true, Bool.not_eq_true', List.contains_iff_mem] at haccepted
      obtain ⟨⟨-, hnonempty⟩, hpoint⟩ := haccepted
      refine ⟨String.ofList domain, String.ofList name, ?_, ?_, ?_, ?_, ?_⟩
      · rw [← String.toList_inj]
        simpa using hkey
      · simpa using hdomain
      · simpa using hname
      · simpa using hpoint
      · intro hempty
        simp [List.isEmpty_eq_false_iff, String.ofList_eq_empty_iff] at hnonempty hempty
        exact hnonempty hempty
    · cases haccepted
  · rintro ⟨domain, name, rfl, hdomain, hname, hpoint, hnonempty⟩
    have hsplit : Text.split '/' (domain ++ "/" ++ name).toList = [domain.toList, name.toList] :=
      Text.split_eq_pair_iff.2 ⟨by simp, hdomain, hname⟩
    have hdomain : domain.toList ≠ [] := List.ne_nil_of_mem hpoint
    rw [isAnnotationKey, hsplit]
    simp [hpoint, hnonempty, hdomain]

/-! ## Rows of rules -/

/-- One thing that is asked of a result, and what is reported where it is missing. -/
structure Rule where
  Holds : Prop
  defect : ResultDefect

/-- The defect belongs to the first rule of the row that does not hold. -/
def FirstBroken (rules : List Rule) (defect : ResultDefect) : Prop :=
  ∃ before rule after, rules = before ++ rule :: after ∧ (∀ earlier ∈ before, earlier.Holds) ∧
    ¬rule.Holds ∧ rule.defect = defect

/-- What going through a row of rules comes to. -/
inductive Judged : List Rule → Except ResultDefect Unit → Prop where
  | accepted : Judged [] (.ok ())
  | kept {rule : Rule} {rest : List Rule} {outcome : Except ResultDefect Unit}
      (hholds : rule.Holds) (hrest : Judged rest outcome) : Judged (rule :: rest) outcome
  | broken {rule : Rule} {rest : List Rule} (hbroken : ¬rule.Holds) :
      Judged (rule :: rest) (.error rule.defect)

namespace Judged

variable {rules more : List Rule} {outcome later : Except ResultDefect Unit}

/-- A second row is gone through when the first has been accepted. -/
theorem append : Judged rules outcome → Judged more later →
    Judged (rules ++ more)
      (match outcome with
      | .error defect => .error defect
      | .ok () => later) := by
  intro hfirst hlater
  induction hfirst with
  | accepted => exact hlater
  | kept hholds hrest ih => exact .kept hholds ih
  | broken hbroken => exact .broken hbroken

theorem eq_ok_iff (hjudged : Judged rules outcome) :
    outcome = .ok () ↔ ∀ rule ∈ rules, rule.Holds := by
  induction hjudged with
  | accepted => simp
  | kept hholds hrest ih => rw [ih, List.forall_mem_cons, and_iff_right hholds]
  | broken hbroken => simp [hbroken]

theorem eq_error_iff (hjudged : Judged rules outcome) {defect : ResultDefect} :
    outcome = .error defect ↔ FirstBroken rules defect := by
  induction hjudged with
  | accepted =>
    refine iff_of_false (by simp) ?_
    rintro ⟨before, rule, after, hrow, -⟩
    simp at hrow
  | @kept rule rest outcome hholds hrest ih =>
    rw [ih]
    constructor
    · rintro ⟨before, first, after, rfl, hbefore, hfirst⟩
      exact ⟨rule :: before, first, after, rfl, List.forall_mem_cons.2 ⟨hholds, hbefore⟩, hfirst⟩
    · rintro ⟨before, first, after, hrow, hbefore, hbroken, hdefect⟩
      cases before with
      | nil =>
        cases hrow
        exact absurd hholds hbroken
      | cons earlier before =>
        cases hrow
        exact ⟨before, first, after, rfl, (List.forall_mem_cons.1 hbefore).2, hbroken, hdefect⟩
  | @broken rule rest hbroken =>
    constructor
    · intro hdefect
      exact ⟨[], rule, rest, rfl, List.forall_mem_nil _, hbroken, Except.error.inj hdefect⟩
    · rintro ⟨before, first, after, hrow, hbefore, -, hdefect⟩
      cases before with
      | nil =>
        cases hrow
        rw [hdefect]
      | cons earlier before =>
        cases hrow
        exact absurd (List.forall_mem_cons.1 hbefore).1 hbroken

end Judged

/-! ## The row of a result -/

def keyRule (pair : String × Document) : Rule :=
  ⟨IsQualifiedKey pair.1, .malformedAnnotationKey pair.1⟩

def conditionRules (c : Condition) : List Rule :=
  [⟨c.type ≠ "", .emptyConditionType⟩,
   ⟨∃ status, c.status = .known status, .bareStatus c.type⟩,
   ⟨c.reason ≠ "", .emptyReason c.type⟩]

/-- The rules for a result in the order in which they are looked at. -/
def rules (r : Result) : List Rule :=
  ⟨r.group ≠ "", .emptyGroup⟩ :: ⟨r.kind ≠ "", .emptyKind⟩ :: ⟨r.name ≠ "", .emptyName⟩ ::
    (r.annotations.map keyRule ++
      ⟨r.conditions ≠ [], .noConditions⟩ :: r.conditions.flatMap conditionRules)

theorem forall_mem_rules_iff {r : Result} : (∀ rule ∈ r.rules, rule.Holds) ↔
    r.group ≠ "" ∧ r.kind ≠ "" ∧ r.name ≠ "" ∧
      (∀ pair ∈ r.annotations, IsQualifiedKey pair.1) ∧ r.conditions ≠ [] ∧
      ∀ c ∈ r.conditions, c.type ≠ "" ∧ (∃ status, c.status = .known status) ∧ c.reason ≠ "" := by
  simp only [rules, List.forall_mem_cons, List.forall_mem_append, List.forall_mem_map,
    List.forall_mem_flatMap, keyRule, conditionRules, List.not_mem_nil, false_implies,
    implies_true, and_true]

theorem judged_checkKeys (annotations : List (String × Document)) :
    Judged (annotations.map keyRule) (checkKeys annotations) := by
  induction annotations with
  | nil => exact .accepted
  | cons pair rest ih =>
    rw [checkKeys]
    split
    · rename_i hkey
      exact .kept (isAnnotationKey_iff.1 hkey) ih
    · rename_i hkey
      exact .broken (mt isAnnotationKey_iff.2 hkey)

theorem judged_checkCondition (c : Condition) : Judged (conditionRules c) (checkCondition c) := by
  rw [checkCondition]
  split
  · rename_i htype
    exact .broken (not_not.2 htype)
  rename_i htype
  refine .kept htype ?_
  split
  · rename_i text hstatus
    refine .broken ?_
    rintro ⟨status, hknown⟩
    cases hstatus.symm.trans hknown
  · rename_i status hstatus
    refine .kept ⟨status, hstatus⟩ ?_
    split
    · rename_i hreason
      exact .broken (not_not.2 hreason)
    · rename_i hreason
      exact .kept hreason .accepted

theorem judged_checkConditions (conditions : List Condition) :
    Judged (conditions.flatMap conditionRules) (checkConditions conditions) := by
  induction conditions with
  | nil => exact .accepted
  | cons c rest ih =>
    rw [List.flatMap_cons, checkConditions]
    exact (judged_checkCondition c).append ih

/-- Validation goes through the rules in their order. -/
theorem judged_validate (r : Result) : Judged r.rules r.validate := by
  rw [validate_eq]
  split
  · rename_i hgroup
    exact .broken (not_not.2 hgroup)
  rename_i hgroup
  refine .kept hgroup ?_
  split
  · rename_i hkind
    exact .broken (not_not.2 hkind)
  rename_i hkind
  refine .kept hkind ?_
  split
  · rename_i hname
    exact .broken (not_not.2 hname)
  rename_i hname
  refine .kept hname ?_
  apply (judged_checkKeys r.annotations).append
  split
  · rename_i hempty
    exact .broken (not_not.2 (List.isEmpty_iff.1 hempty))
  · rename_i hnonempty
    exact .kept (mt List.isEmpty_iff.2 hnonempty) (judged_checkConditions r.conditions)

/-- Validation accepts the results that are complete and speak of proper keys and statuses, reports
the first broken rule of all others, and what it accepts passes exactly if nothing in it fails. -/
theorem validate_enforces (r : Result) :
    (r.validate = .ok () ↔ r.group ≠ "" ∧ r.kind ≠ "" ∧ r.name ≠ "" ∧
      (∀ pair ∈ r.annotations, IsQualifiedKey pair.1) ∧ r.conditions ≠ [] ∧
      ∀ c ∈ r.conditions, c.type ≠ "" ∧ (∃ status, c.status = .known status) ∧ c.reason ≠ "") ∧
    (∀ defect, r.validate = .error defect ↔ FirstBroken r.rules defect) ∧
    (r.validate = .ok () → (Verdict.ofConditions r.conditions = some .pass ↔
      r.isFailing = false)) := by
  have hjudged := judged_validate r
  refine ⟨?_, fun defect => hjudged.eq_error_iff, fun haccepted => ?_⟩
  · exact hjudged.eq_ok_iff.trans forall_mem_rules_iff
  · exact (validate_eq_ok_iff.1 haccepted).passes_iff

/-- A result with an undetermined condition is accepted, and does not pass. -/
theorem validate_enforces_single :
    (single .null .undetermined).validate = .ok () ∧
      (Verdict.ofConditions (single .null .undetermined).conditions = some .pass ↔
        (single .null .undetermined).isFailing = false) := by
  have haccepted := validate_eq_ok_iff.2 (wellFormed_single .null .undetermined)
  exact ⟨haccepted, (validate_enforces (single .null .undetermined)).2.2 haccepted⟩

end Result

end Preflight
