import Preflight.Proofs.Command.ExitCode
import Preflight.Proofs.Report.Agreement

/-!
# Severities are maxima

The severity of some conditions is the highest of what each of them comes to alone.  So it does not
matter how the conditions are put together, in which order and how often they occur, and a reader
of the table can tell the severity of a result, and whether a threshold leaves it out, from the
severities in its rows.
-/

namespace Preflight

/-- What a condition with this label comes to alone.  A label that spells no status is no finding. -/
def StatusLabel.severity (label : StatusLabel) : Severity :=
  (label.spelled?.map ConditionStatus.severity).getD .info

namespace Severity

/-! ## The order of severities -/

/-- The height of a severity; no severity is lower than any. -/
def level : Option Severity → Nat
  | none => 0
  | some severity => severity.rank + 1

/-- The one of two severities with the higher rank, where none is lower than any. -/
def higher (a b : Option Severity) : Option Severity := if level a < level b then b else a

theorem rank_injective : Function.Injective rank := by
  intro left right hrank
  cases left <;> cases right <;> first | rfl | exact absurd hrank (by decide)

theorem level_injective : Function.Injective level := by
  intro left right hlevel
  cases left <;> cases right <;> simp [level, rank_injective.eq_iff] at hlevel ⊢
  exact hlevel

theorem level_higher (a b : Option Severity) : level (higher a b) = max (level a) (level b) := by
  rw [higher]
  split
  · omega
  · omega

/-! ## Conditions put together -/

variable {conditions : List Condition}

theorem ofConditions_alone (c : Condition) : ofConditions [c] = some c.status.severity := by
  rw [ofConditions, StatusLabel.severity]
  simp only [List.any_cons, List.any_nil, Bool.or_false, StatusLabel.spells]
  cases c.status.spelled? with
  | none => rfl
  | some status => cases status <;> rfl

/-- A further condition counts for what it comes to alone. -/
theorem level_ofConditions_cons (c : Condition) (rest : List Condition) :
    level (ofConditions (c :: rest)) = max (level (some c.status.severity))
      (level (ofConditions rest)) := by
  rw [← ofConditions_alone]
  by_cases hempty : rest = []
  · simp [hempty, level, ofConditions]
  by_cases hviolated : c.status.spells .violated <;>
    by_cases hundetermined : c.status.spells .undetermined <;>
    by_cases hlaterViolated : rest.any (·.status.spells .violated) <;>
    by_cases hlaterUndetermined : rest.any (·.status.spells .undetermined) <;>
    simp [ofConditions, hempty, hviolated, hundetermined, hlaterViolated, hlaterUndetermined,
      level, rank]

/-- The severity is the least one that no condition exceeds. -/
theorem level_ofConditions_le_iff {bound : Nat} :
    level (ofConditions conditions) ≤ bound ↔
      ∀ c ∈ conditions, level (some c.status.severity) ≤ bound := by
  induction conditions with
  | nil => simp [ofConditions, level]
  | cons c rest ih => rw [level_ofConditions_cons, Nat.max_le, ih, List.forall_mem_cons]

/-- Conditions that are added never lower the severity. -/
theorem level_le_of_subset {earlier later : List Condition} (hsubset : earlier ⊆ later) :
    level (ofConditions earlier) ≤ level (ofConditions later) := by
  have hall := level_ofConditions_le_iff.1 (Nat.le_refl (level (ofConditions later)))
  exact level_ofConditions_le_iff.2 fun c hmem => hall c (hsubset hmem)

theorem ofConditions_append (left right : List Condition) :
    ofConditions (left ++ right) = higher (ofConditions left) (ofConditions right) := by
  apply level_injective
  rw [level_higher]
  induction left with
  | nil => exact (Nat.zero_max _).symm
  | cons c rest ih =>
    rw [List.cons_append, level_ofConditions_cons, level_ofConditions_cons, ih, Nat.max_assoc]

/-- The order of conditions and how often they occur make no difference. -/
theorem ofConditions_eq_of_mem_iff {left right : List Condition}
    (hsame : ∀ c, c ∈ left ↔ c ∈ right) : ofConditions left = ofConditions right := by
  apply level_injective
  apply Nat.le_antisymm
  · exact level_le_of_subset fun c hmem => (hsame c).1 hmem
  · exact level_le_of_subset fun c hmem => (hsame c).2 hmem

/-- Some condition alone has the severity of all, and none exceeds it. -/
theorem ofConditions_eq_some_iff {severity : Severity} :
    ofConditions conditions = some severity ↔ (∃ c ∈ conditions, c.status.severity = severity) ∧
      ∀ c ∈ conditions, c.status.severity.rank ≤ severity.rank := by
  have hbounded : level (ofConditions conditions) ≤ level (some severity) ↔
      ∀ c ∈ conditions, c.status.severity.rank ≤ severity.rank := by
    rw [level_ofConditions_le_iff]
    simp [level]
  constructor
  · intro hall
    have hnone := hbounded.1 (hall ▸ Nat.le_refl _)
    refine ⟨?_, hnone⟩
    -- Were all of them lower, so would be the severity of all.
    by_contra hother
    push Not at hother
    have hlower : level (ofConditions conditions) ≤ severity.rank := by
      rw [level_ofConditions_le_iff]
      intro c hmem
      exact Nat.lt_of_le_of_ne (hnone c hmem) (rank_injective.ne (hother c hmem))
    rw [hall] at hlower
    exact Nat.not_succ_le_self _ hlower
  · rintro ⟨⟨c, hmem, rfl⟩, hnone⟩
    apply level_injective
    apply Nat.le_antisymm
    · exact hbounded.2 hnone
    · exact level_ofConditions_le_iff.1 (Nat.le_refl _) c hmem

theorem name_injective : Function.Injective name := by
  intro left right hname
  cases left <;> cases right <;> first | rfl | exact absurd hname (by decide)

end Severity

/-! ## Thresholds -/

/-- The severity that a threshold is named after, if it leaves anything out. -/
theorem MinimumSeverity.exists_least {minimum : MinimumSeverity} (hall : minimum ≠ .all)
    (hinfo : minimum ≠ .info) : ∃ least : Severity, least.name = minimum.name ∧
      ∀ severity : Severity, minimum.includes (some severity) = true ↔
        least.rank ≤ severity.rank := by
  cases minimum with
  | all => exact absurd rfl hall
  | info => exact absurd rfl hinfo
  | warning => exact ⟨.warning, rfl, fun severity => decide_eq_true_iff⟩
  | critical => exact ⟨.critical, rfl, fun severity => decide_eq_true_iff⟩

/-! ## Severities in rows -/

namespace Table

/-- The rows of an execution say how severe it is: as severe as the most severe of them, and a
threshold that leaves anything out leaves it in when some row is at or above the threshold. -/
structure Weighed (execution : Execution) (rows : List Row) : Prop where
  highest : ∃ severity, execution.severity = some severity ∧
    (∃ row ∈ rows, row.severity = severity.name) ∧
    ∀ row ∈ rows, ∃ found : Severity, row.severity = found.name ∧ found.rank ≤ severity.rank
  includes_iff : ∀ minimum : MinimumSeverity, minimum ≠ .all → minimum ≠ .info →
    ∃ least : Severity, least.name = minimum.name ∧
      (minimum.includes execution.severity = true ↔
        ∃ row ∈ rows, ∃ found : Severity, row.severity = found.name ∧ least.rank ≤ found.rank)

variable {execution : Execution} {rows : List Row}

theorem severity_of_row {r : Result} {c : Condition} {found : Row} (hrow : row r c = .ok found) :
    found.severity = c.status.severity.name := by
  obtain ⟨glyph, -, hvalue⟩ := Fault.bind_eq_ok_iff.1 hrow
  cases hvalue
  rw [Severity.ofConditions_alone]
  rfl

/-- What the cells of the rows say is what the conditions come to, each alone. -/
theorem map_severity_of_rows {r : Result} (hrows : r.conditions.mapM (row r) = .ok rows) :
    rows.map (·.severity) = r.conditions.map (·.status.severity.name) := by
  have hfound := Fault.mapM_eq_ok_iff.1 hrows
  clear hrows
  generalize r.conditions = conditions at hfound
  induction hfound with
  | nil => rfl
  | cons hfirst hrest ih => rw [List.map_cons, List.map_cons, severity_of_row hfirst, ih]

theorem weighed_of_rows (hwell : execution.result.WellFormed)
    (hrows : execution.result.conditions.mapM (row execution.result) = .ok rows) :
    Weighed execution rows := by
  have hcells := map_severity_of_rows hrows
  have hexists (p : Severity → Prop) : (∃ c ∈ execution.result.conditions, p c.status.severity) ↔
      ∃ row ∈ rows, ∃ found : Severity, row.severity = found.name ∧ p found := by
    have hcell : (∃ cell ∈ execution.result.conditions.map (·.status.severity.name),
        ∃ found : Severity, cell = found.name ∧ p found) ↔
          ∃ c ∈ execution.result.conditions, p c.status.severity := by
      simp [Severity.name_injective.eq_iff]
    rw [← hcell, ← hcells]
    simp only [List.mem_map, exists_exists_and_eq_and]
  have hforall : ∀ row ∈ rows, ∃ c ∈ execution.result.conditions,
      row.severity = c.status.severity.name := by
    intro row hmem
    have hcell := List.mem_map_of_mem (f := Row.severity) hmem
    rw [hcells] at hcell
    obtain ⟨c, hcondition, hname⟩ := List.mem_map.1 hcell
    exact ⟨c, hcondition, hname.symm⟩
  obtain ⟨severity, hseverity⟩ := Option.ne_none_iff_exists'.1 hwell.severity_ne_none
  have hexecution : execution.severity = some severity := hseverity
  obtain ⟨hattained, hnone⟩ := Severity.ofConditions_eq_some_iff.1 hseverity
  constructor
  · refine ⟨severity, hexecution, ?_, ?_⟩
    · obtain ⟨row, hmem, same, hcell, rfl⟩ := (hexists (· = severity)).1 hattained
      exact ⟨row, hmem, hcell⟩
    · intro row hmem
      obtain ⟨c, hcondition, hcell⟩ := hforall row hmem
      exact ⟨_, hcell, hnone c hcondition⟩
  · intro minimum hall hinfo
    obtain ⟨least, hname, hincludes⟩ := MinimumSeverity.exists_least hall hinfo
    refine ⟨least, hname, ?_⟩
    rw [hexecution, hincludes, ← hexists (least.rank ≤ ·.rank)]
    constructor
    · intro hleast
      obtain ⟨c, hcondition, hsame⟩ := hattained
      exact ⟨c, hcondition, hsame ▸ hleast⟩
    · rintro ⟨c, hcondition, hleast⟩
      exact Nat.le_trans hleast (hnone c hcondition)

theorem rows_singleton_iff : Table.rows [execution] = .ok rows ↔
    execution.result.conditions.mapM (row execution.result) = .ok rows := by
  have hnone : Table.rows [] = .ok [] := rfl
  rw [rows_cons_eq_ok_iff]
  constructor
  · rintro ⟨group, later, hgroup, hlater, rfl⟩
    cases hnone.symm.trans hlater
    rwa [List.append_nil]
  · intro hrows
    exact ⟨rows, [], hrows, hnone, (List.append_nil rows).symm⟩

/-- The rows of an execution stand together in every table that has them. -/
theorem infix_of_rows {executions : List Execution} {all : List Row}
    (hall : Table.rows executions = .ok all) (hmem : execution ∈ executions)
    (hrows : Table.rows [execution] = .ok rows) : rows <:+: all := by
  induction executions generalizing all with
  | nil => cases hmem
  | cons first rest ih =>
    obtain ⟨group, later, hgroup, hlater, rfl⟩ := rows_cons_eq_ok_iff.1 hall
    rcases List.mem_cons.1 hmem with rfl | hrest
    · cases (rows_singleton_iff.1 hrows).symm.trans hgroup
      exact (List.prefix_append rows later).isInfix
    · exact (ih hlater hrest).trans (List.suffix_append group later).isInfix

end Table

/-- The severity of conditions put together is the higher one of the parts, so neither order nor
repetition matters and no addition lowers it.  A result that is accepted has rows in every table
that displays it, and they say how severe it is and which thresholds leave it in. -/
theorem Severity.ofConditions_isMaximum :
    (∀ left right : List Condition,
      ofConditions (left ++ right) = higher (ofConditions left) (ofConditions right)) ∧
    (∀ left right : List Condition, (∀ c, c ∈ left ↔ c ∈ right) →
      ofConditions left = ofConditions right) ∧
    (∀ earlier later : List Condition, earlier ⊆ later →
      level (ofConditions earlier) ≤ level (ofConditions later)) ∧
    ∀ execution : Execution, execution.result.validate = .ok () →
      ∃ rows, Table.rows [execution] = .ok rows ∧ Table.Weighed execution rows ∧
        ∀ (report : Report) (minimum : MinimumSeverity) (table : List Table.Row),
          report.rows minimum = .ok table → execution ∈ report.displayed minimum →
            rows <:+: table := by
  refine ⟨ofConditions_append, fun _ _ => ofConditions_eq_of_mem_iff,
    fun _ _ => level_le_of_subset, fun execution hvalid => ?_⟩
  have hwell := Result.validate_eq_ok_iff.1 hvalid
  obtain ⟨rows, hrows⟩ := Table.rows_isOk (List.forall_mem_singleton.2 hwell)
  refine ⟨rows, hrows, Table.weighed_of_rows hwell (Table.rows_singleton_iff.1 hrows), ?_⟩
  intro report minimum table htable hmem
  exact Table.infix_of_rows htable hmem hrows

/-- A result with a condition of each status, in a report with others. -/
def assorted : Execution where
  checkId := "d"
  category := .service
  sequence := 3
  result := { Result.single (.text "6") .met with
    conditions := [ConditionStatus.met, .violated, .undetermined].map fun status =>
      ⟨status.name, .known status, "Reason", "", none, default⟩ }

theorem wellFormed_assorted : assorted.result.WellFormed :=
  { Result.wellFormed_single (.text "6") .met with
    nonempty := List.cons_ne_nil _ _
    conditions := by
      simp only [assorted, List.map_cons, List.map_nil, List.forall_mem_cons]
      exact ⟨⟨by decide, ⟨_, rfl⟩, by decide⟩, ⟨by decide, ⟨_, rfl⟩, by decide⟩,
        ⟨by decide, ⟨_, rfl⟩, by decide⟩, List.forall_mem_nil _⟩ }

theorem Severity.ofConditions_isMaximum_assorted :
    let conditions := assorted.result.conditions
    let report := { Report.shuffled with executions := Report.shuffled.executions ++ [assorted] }
    ofConditions conditions.reverse = ofConditions conditions ∧
    level (ofConditions (conditions.take 1)) ≤ level (ofConditions conditions) ∧
    assorted.result.validate = .ok () ∧ assorted ∈ report.displayed .critical ∧
    ∃ rows table, Table.rows [assorted] = .ok rows ∧
      rows.map (·.severity) = ["info", "critical", "warning"] ∧ Table.Weighed assorted rows ∧
      report.rows .critical = .ok table ∧ table.length = 4 ∧ rows <:+: table := by
  intro conditions report
  obtain ⟨-, hsame, hadded, hweighed⟩ := ofConditions_isMaximum
  have hvalid : assorted.result.validate = .ok () := Result.validate_eq_ok_iff.2 wellFormed_assorted
  have hdisplayed : assorted ∈ report.displayed .critical :=
    Report.mem_displayed.2 ⟨List.mem_append_right _ (List.mem_singleton.2 rfl), rfl⟩
  obtain ⟨rows, hrows, hall, hinfix⟩ := hweighed assorted hvalid
  have hcells : (Table.rows [assorted]).map (List.map (·.severity)) =
      .ok ["info", "critical", "warning"] := rfl
  rw [hrows] at hcells
  have htable : (report.rows .critical).map List.length = .ok 4 := rfl
  obtain ⟨table, htable, hlength⟩ := Fault.map_eq_ok_iff.1 htable
  exact ⟨hsame _ _ fun c => List.mem_reverse, hadded _ _ (List.take_subset 1 conditions), hvalid,
    hdisplayed, rows, table, hrows, Except.ok.inj hcells, hall, htable, hlength.symm,
    hinfix report .critical table htable hdisplayed⟩

end Preflight
