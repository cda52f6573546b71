import Mathlib.Data.List.Nodup
import Preflight.Proofs.Result.WellFormed
import Preflight.Result.Assertion

/-!
# Histories of assertions

Whatever row of assertions is made, one that is refused leaves no trace.  The types of the
conditions stay where they are, and new ones follow in the order in which they are first asserted;
the first condition of an asserted type is what was asserted of it last, and every other condition
is still the one that it was.

Each law is proved for one condition that is set (`setConditionIn`) and from there, by induction,
for a row of them; `Result.conditions_after` then says that a row of assertions is one of these.
-/

namespace Preflight

/-- A label spells the status that its text is the name of. -/
theorem StatusLabel.spelled?_eq_some_iff {label : StatusLabel} {status : ConditionStatus} :
    label.spelled? = some status ↔ label.text = status.name := by
  cases label with
  | known own => cases own <;> cases status <;> decide
  | bare text =>
    simp only [StatusLabel.spelled?, StatusLabel.text, ConditionStatus.ofName?, List.find?_cons,
      List.find?_nil]
    cases status <;> simp [ConditionStatus.name] <;> grind

namespace Assertion

/-- The status text is the name of no status. -/
def Refused (a : Assertion) : Prop := ∀ status : ConditionStatus, a.status.text ≠ status.name

/-- What is asserted at a time, with the status that is spelled. -/
def stated (a : Assertion) (status : ConditionStatus) (time : Timestamp) : Condition :=
  ⟨a.type, .known status, a.reason, a.message, a.impact, time⟩

variable {a : Assertion} {time : Timestamp}

theorem condition_of_text {status : ConditionStatus} (htext : a.status.text = status.name) :
    a.condition time = .ok (a.stated status time) := by
  rw [condition, StatusLabel.spelled?_eq_some_iff.2 htext]
  rfl

theorem condition_of_refused (hrefused : a.Refused) :
    a.condition time = .error (.value (.conditionStatus a.status.text)) := by
  have hspelled : a.status.spelled? = none := by
    rw [Option.eq_none_iff_forall_ne_some]
    intro status hstatus
    exact hrefused status (StatusLabel.spelled?_eq_some_iff.1 hstatus)
  rw [condition, hspelled]

theorem refused_or_spelled (a : Assertion) :
    a.Refused ∨ ∃ status : ConditionStatus, a.status.text = status.name := by
  rw [Refused, or_iff_not_imp_left, not_forall_not]
  exact id

theorem condition_eq_ok_iff {c : Condition} : a.condition time = .ok c ↔
    ∃ status : ConditionStatus, a.status.text = status.name ∧ c = a.stated status time := by
  constructor
  · intro hok
    obtain hrefused | ⟨status, htext⟩ := a.refused_or_spelled
    · rw [condition_of_refused hrefused] at hok
      cases hok
    · rw [condition_of_text htext] at hok
      cases hok
      exact ⟨status, htext, rfl⟩
  · rintro ⟨status, htext, rfl⟩
    exact condition_of_text htext

/-- A call either sets the condition or fails before anything is changed. -/
theorem run_set (a : Assertion) (time : Timestamp) (r : Result) :
    (a.set time).run.run r =
      match a.condition time with
      | .ok c => (.ok (), r.setCondition c)
      | .error fault => (.error fault, r) := by
  rw [set]
  cases a.condition time <;> rfl

theorem run_set_of_refused (hrefused : a.Refused) (r : Result) :
    (a.set time).run.run r = (.error (.value (.conditionStatus a.status.text)), r) := by
  rw [run_set, condition_of_refused hrefused]

theorem run_set_of_text {status : ConditionStatus} (htext : a.status.text = status.name)
    (r : Result) :
    (a.set time).run.run r = (.ok (), r.setCondition (a.stated status time)) := by
  rw [run_set, condition_of_text htext]

theorem wellFormed_stated (htype : a.type ≠ "") (hreason : a.reason ≠ "")
    (status : ConditionStatus) : (a.stated status time).WellFormed :=
  ⟨htype, ⟨status, rfl⟩, hreason⟩

end Assertion

namespace Result

/-! ## One condition that is set -/

theorem map_type_setConditionIn (conditions : List Condition) (c : Condition) :
    (setConditionIn conditions c).map (·.type) =
      if c.type ∈ conditions.map (·.type) then conditions.map (·.type)
      else conditions.map (·.type) ++ [c.type] := by
  induction conditions with
  | nil => rfl
  | cons present rest ih =>
    rw [setConditionIn]
    by_cases hpresent : present.type = c.type
    · rw [if_pos hpresent, List.map_cons, List.map_cons, hpresent,
        if_pos List.mem_cons_self]
    · rw [if_neg hpresent, List.map_cons, List.map_cons, ih]
      by_cases hrest : c.type ∈ rest.map (·.type)
      · rw [if_pos hrest, if_pos (List.mem_cons_of_mem _ hrest)]
      · rw [if_neg hrest, if_neg (by simp [Ne.symm hpresent, hrest]), List.cons_append]

/-- The condition that is set is the first one of its type; the first ones of the other types are
as they were. -/
theorem find?_setConditionIn (conditions : List Condition) (c : Condition) (type : String) :
    (setConditionIn conditions c).find? (·.type = type) =
      if c.type = type then some c else conditions.find? (·.type = type) := by
  induction conditions with
  | nil => by_cases htype : c.type = type <;> simp [setConditionIn, htype]
  | cons present rest ih =>
    rw [setConditionIn]
    by_cases hpresent : present.type = c.type
    · by_cases htype : c.type = type <;> simp [hpresent, htype]
    · by_cases htype : c.type = type
      · simp [ih, htype, htype ▸ hpresent]
      · by_cases hfirst : present.type = type
        · simp [htype, hfirst, Ne.symm htype]
        · simp [hpresent, htype, hfirst, ih]

/-- A condition of another type stays in its place, and so does one that is not the first of its
type. -/
theorem getElem?_setConditionIn {conditions : List Condition} {c old : Condition} {i : Nat}
    (hold : conditions[i]? = some old)
    (hkept : c.type ≠ old.type ∨ ∃ j < i, (conditions.map (·.type))[j]? = some old.type) :
    (setConditionIn conditions c)[i]? = some old := by
  induction conditions generalizing i with
  | nil => cases hold
  | cons present rest ih =>
    rw [setConditionIn]
    by_cases hpresent : present.type = c.type
    · rw [if_pos hpresent]
      cases i with
      | zero =>
        obtain rfl : present = old := Option.some.inj hold
        obtain hother | ⟨j, hlt, -⟩ := hkept
        · exact absurd hpresent.symm hother
        · exact absurd hlt (Nat.not_lt_zero j)
      | succ i => exact hold
    · rw [if_neg hpresent]
      cases i with
      | zero => exact hold
      | succ i =>
        refine ih hold ?_
        -- The entry at the head has another type than `c`, so it can only hide `old` if `c` does
        -- not have the type of `old` either.
        obtain hother | ⟨j, hlt, hj⟩ := hkept
        · exact .inl hother
        · cases j with
          | zero =>
            have hhead : present.type = old.type := Option.some.inj hj
            exact .inl fun heq => hpresent (hhead.trans heq.symm)
          | succ j => exact .inr ⟨j, Nat.lt_of_succ_lt_succ hlt, hj⟩

theorem mem_of_mem_setConditionIn {conditions : List Condition} {c d : Condition}
    (hmem : d ∈ setConditionIn conditions c) : d = c ∨ d ∈ conditions := by
  induction conditions with
  | nil => exact .inl (List.mem_singleton.1 hmem)
  | cons present rest ih =>
    rw [setConditionIn] at hmem
    split at hmem
    · obtain rfl | hrest := List.mem_cons.1 hmem
      · exact .inl rfl
      · exact .inr (List.mem_cons_of_mem _ hrest)
    · obtain rfl | hrest := List.mem_cons.1 hmem
      · exact .inr List.mem_cons_self
      · exact (ih hrest).imp_right (List.mem_cons_of_mem _)

theorem setConditionIn_ne_nil (conditions : List Condition) (c : Condition) :
    setConditionIn conditions c ≠ [] := by
  cases conditions with
  | nil => exact List.cons_ne_nil _ _
  | cons present rest =>
    rw [setConditionIn]
    split <;> exact List.cons_ne_nil _ _

theorem WellFormed.setCondition {r : Result} {c : Condition} (hwell : r.WellFormed)
    (hc : c.WellFormed) : (r.setCondition c).WellFormed where
  group := hwell.group
  kind := hwell.kind
  name := hwell.name
  keys := hwell.keys
  nonempty := setConditionIn_ne_nil _ _
  conditions := fun d hd => by
    obtain rfl | hpresent := mem_of_mem_setConditionIn hd
    · exact hc
    · exact hwell.conditions d hpresent

/-! ## A row of conditions that are set -/

/-- The types that a row of conditions adds to those that there are, each where it first stands. -/
def newTypes (present : List String) (made : List Condition) : List String :=
  ((made.map (·.type)).filter (· ∉ present)).eraseDups

theorem newTypes_cons_of_mem {present : List String} {c : Condition} (made : List Condition)
    (hmem : c.type ∈ present) : newTypes present (c :: made) = newTypes present made := by
  simp [newTypes, hmem]

theorem newTypes_cons_of_notMem {present : List String} {c : Condition} (made : List Condition)
    (hnew : c.type ∉ present) :
    newTypes present (c :: made) = c.type :: newTypes (present ++ [c.type]) made := by
  rw [newTypes, newTypes, List.map_cons, List.filter_cons_of_pos (by simpa using hnew),
    List.eraseDups_cons, List.filter_filter]
  congr 3
  funext type
  simp [Bool.and_comm, Bool.beq_eq_decide_eq]

theorem map_type_foldl (made conditions : List Condition) :
    (made.foldl setConditionIn conditions).map (·.type) =
      conditions.map (·.type) ++ newTypes (conditions.map (·.type)) made := by
  induction made generalizing conditions with
  | nil => exact (List.append_nil _).symm
  | cons c made ih =>
    rw [List.foldl_cons, ih, map_type_setConditionIn]
    by_cases hmem : c.type ∈ conditions.map (·.type)
    · rw [if_pos hmem, newTypes_cons_of_mem made hmem]
    · rw [if_neg hmem, newTypes_cons_of_notMem made hmem, List.append_assoc,
        List.singleton_append]

theorem nodup_map_type_foldl (made : List Condition) {conditions : List Condition}
    (hdistinct : (conditions.map (·.type)).Nodup) :
    ((made.foldl setConditionIn conditions).map (·.type)).Nodup := by
  induction made generalizing conditions with
  | nil => exact hdistinct
  | cons c made ih =>
    refine ih ?_
    rw [map_type_setConditionIn]
    split
    · exact hdistinct
    · rename_i hnew
      rw [← List.concat_eq_append]
      exact hdistinct.concat hnew

theorem find?_foldl_of_forall_ne {made : List Condition} {type : String}
    (hother : ∀ c ∈ made, c.type ≠ type) (conditions : List Condition) :
    (made.foldl setConditionIn conditions).find? (·.type = type) =
      conditions.find? (·.type = type) := by
  induction made generalizing conditions with
  | nil => rfl
  | cons c made ih =>
    obtain ⟨hc, hmade⟩ := List.forall_mem_cons.1 hother
    rw [List.foldl_cons, ih hmade, find?_setConditionIn, if_neg hc]

/-- The last condition of a type that is set is the first one of the type afterwards. -/
theorem find?_foldl_append_cons (earlier : List Condition) {c : Condition}
    {later : List Condition} (hlast : ∀ d ∈ later, d.type ≠ c.type)
    (conditions : List Condition) :
    ((earlier ++ c :: later).foldl setConditionIn conditions).find? (·.type = c.type) =
      some c := by
  rw [List.foldl_append, List.foldl_cons, find?_foldl_of_forall_ne hlast, find?_setConditionIn,
    if_pos rfl]

theorem getElem?_foldl {made conditions : List Condition} {old : Condition} {i : Nat}
    (hold : conditions[i]? = some old)
    (hkept : (∀ c ∈ made, c.type ≠ old.type) ∨
      ∃ j < i, (conditions.map (·.type))[j]? = some old.type) :
    (made.foldl setConditionIn conditions)[i]? = some old := by
  induction made generalizing conditions with
  | nil => exact hold
  | cons c made ih =>
    refine ih (getElem?_setConditionIn hold ?_) ?_
    · exact hkept.imp_left fun hother => hother c List.mem_cons_self
    · obtain hother | ⟨j, hlt, hj⟩ := hkept
      · exact .inl (List.forall_mem_cons.1 hother).2
      · refine .inr ⟨j, hlt, ?_⟩
        -- The types that there are keep their places.
        rw [map_type_setConditionIn]
        split
        · exact hj
        · exact List.getElem?_append_left (List.getElem?_eq_some_iff.1 hj).1 |>.trans hj

/-! ## A row of assertions -/

/-- What a result becomes by a row of calls, each made at its time. -/
def after (r : Result) (calls : List (Assertion × Timestamp)) : Result :=
  calls.foldl (fun r (a, time) => ((a.set time).run.run r).2) r

/-- The conditions that are asserted by the calls that are not refused. -/
def asserted (calls : List (Assertion × Timestamp)) : List Condition :=
  calls.filterMap fun call => (call.1.condition call.2).toOption

theorem asserted_cons_of_ok {a : Assertion} {time : Timestamp} {c : Condition}
    (calls : List (Assertion × Timestamp)) (hc : a.condition time = .ok c) :
    asserted ((a, time) :: calls) = c :: asserted calls :=
  List.filterMap_cons_some (congrArg Except.toOption hc)

theorem asserted_cons_of_error {a : Assertion} {time : Timestamp} {fault : Fault}
    (calls : List (Assertion × Timestamp)) (hc : a.condition time = .error fault) :
    asserted ((a, time) :: calls) = asserted calls :=
  List.filterMap_cons_none (congrArg Except.toOption hc)

theorem conditions_after (r : Result) (calls : List (Assertion × Timestamp)) :
    (r.after calls).conditions = (asserted calls).foldl setConditionIn r.conditions := by
  induction calls generalizing r with
  | nil => rfl
  | cons call calls ih =>
    obtain ⟨a, time⟩ := call
    change (((a.set time).run.run r).2.after calls).conditions = _
    rw [ih, Assertion.run_set]
    cases hc : a.condition time with
    | ok c => rw [asserted_cons_of_ok calls hc]; rfl
    | error fault => rw [asserted_cons_of_error calls hc]

theorem mem_asserted {calls : List (Assertion × Timestamp)} {c : Condition} :
    c ∈ asserted calls ↔ ∃ a time status, (a, time) ∈ calls ∧
      a.status.text = ConditionStatus.name status ∧ c = a.stated status time := by
  rw [asserted, List.mem_filterMap]
  constructor
  · rintro ⟨⟨a, time⟩, hcall, hc⟩
    cases hok : a.condition time with
    | ok made =>
      rw [hok] at hc
      obtain rfl : made = c := Option.some.inj hc
      obtain ⟨status, htext, rfl⟩ := Assertion.condition_eq_ok_iff.1 hok
      exact ⟨a, time, status, hcall, htext, rfl⟩
    | error fault =>
      rw [hok] at hc
      cases hc
  · rintro ⟨a, time, status, hcall, htext, rfl⟩
    exact ⟨(a, time), hcall, congrArg Except.toOption (Assertion.condition_of_text htext)⟩

theorem forall_mem_asserted_ne {calls : List (Assertion × Timestamp)} {type : String}
    (hrefused : ∀ call ∈ calls, call.1.type = type → call.1.Refused) :
    ∀ c ∈ asserted calls, c.type ≠ type := by
  intro c hc htype
  obtain ⟨a, time, status, hcall, htext, rfl⟩ := mem_asserted.1 hc
  exact hrefused (a, time) hcall htype status htext

/-- What a row of calls makes of the conditions that there were. -/
structure Recorded (before : List Condition) (calls : List (Assertion × Timestamp))
    (afterwards : List Condition) : Prop where
  /-- The new types follow the old ones in the order in which they were first asserted. -/
  types : afterwards.map (·.type) =
    before.map (·.type) ++ newTypes (before.map (·.type)) (asserted calls)
  /-- The last call for a type that is not refused says what its first condition is. -/
  last : ∀ (earlier : List (Assertion × Timestamp)) (a : Assertion) (time : Timestamp)
    (later : List (Assertion × Timestamp)) (status : ConditionStatus),
    calls = earlier ++ (a, time) :: later → a.status.text = status.name →
    (∀ call ∈ later, call.1.type = a.type → call.1.Refused) →
      afterwards.find? (·.type = a.type) = some (a.stated status time)
  /-- All other conditions are as they were: those of a type that was not asserted, and those that
  were not the first of their type. -/
  kept : ∀ (i : Nat) (c : Condition), before[i]? = some c →
    (∀ call ∈ calls, call.1.type = c.type → call.1.Refused) ∨
      (∃ j < i, (before.map (·.type))[j]? = some c.type) →
      afterwards[i]? = some c

theorem recorded_after (r : Result) (calls : List (Assertion × Timestamp)) :
    Recorded r.conditions calls (r.after calls).conditions := by
  rw [conditions_after]
  constructor
  case types => exact map_type_foldl _ _
  case last =>
    rintro earlier a time later status rfl htext hlater
    have hasserted : asserted (earlier ++ (a, time) :: later) =
        asserted earlier ++ a.stated status time :: asserted later := by
      rw [asserted, List.filterMap_append]
      exact congrArg _ (asserted_cons_of_ok later (Assertion.condition_of_text htext))
    rw [hasserted]
    exact find?_foldl_append_cons (c := a.stated status time) _ (forall_mem_asserted_ne hlater) _
  case kept =>
    intro i c hc hkept
    exact getElem?_foldl hc (hkept.imp_left forall_mem_asserted_ne)

theorem nodup_types_after (r : Result) (calls : List (Assertion × Timestamp))
    (hempty : r.conditions = []) : ((r.after calls).conditions.map (·.type)).Nodup := by
  rw [conditions_after, hempty]
  exact nodup_map_type_foldl _ List.nodup_nil

/-- The calls that are not refused say which requirement they are about and why. -/
def Explained (calls : List (Assertion × Timestamp)) : Prop :=
  ∀ call ∈ calls, ¬call.1.Refused → call.1.type ≠ "" ∧ call.1.reason ≠ ""

theorem WellFormed.after {r : Result} {calls : List (Assertion × Timestamp)}
    (hwell : r.WellFormed) (hexplained : Explained calls) : (r.after calls).WellFormed := by
  induction calls generalizing r with
  | nil => exact hwell
  | cons call calls ih =>
    obtain ⟨a, time⟩ := call
    obtain ⟨hcall, hcalls⟩ := List.forall_mem_cons.1 hexplained
    refine ih (r := ((a.set time).run.run r).2) ?_ hcalls
    obtain hrefused | ⟨status, htext⟩ := a.refused_or_spelled
    · rw [Assertion.run_set_of_refused hrefused]
      exact hwell
    · rw [Assertion.run_set_of_text htext]
      obtain ⟨htype, hreason⟩ := hcall fun hrefused => hrefused status htext
      exact hwell.setCondition (Assertion.wellFormed_stated htype hreason status)

/-- A row of assertions made on a result.  Each call either is refused and changes nothing or sets
its condition; the row as a whole is recorded in place; and what it is made on stays free of
repeated types and acceptable. -/
theorem after_history (r : Result) (calls : List (Assertion × Timestamp)) :
    (∀ (a : Assertion) (time : Timestamp), a.Refused →
      (a.set time).run.run r = (.error (.value (.conditionStatus a.status.text)), r)) ∧
    (∀ (a : Assertion) (time : Timestamp) (status : ConditionStatus),
      a.status.text = status.name →
      (a.set time).run.run r = (.ok (), r.setCondition (a.stated status time))) ∧
    Recorded r.conditions calls (r.after calls).conditions ∧
    (r.conditions = [] → ((r.after calls).conditions.map (·.type)).Nodup) ∧
    (r.validate = .ok () → Explained calls → (r.after calls).validate = .ok ()) := by
  refine ⟨?refused, ?accepted, recorded_after r calls, nodup_types_after r calls, ?valid⟩
  case refused => exact fun a time hrefused => Assertion.run_set_of_refused hrefused r
  case accepted => exact fun a time status htext => Assertion.run_set_of_text htext r
  case valid =>
    intro hvalid hexplained
    exact validate_eq_ok_iff.2 ((validate_eq_ok_iff.1 hvalid).after hexplained)

/-- A result whose first condition has a type that comes up again. -/
def repeating : Result :=
  { single .null .met with conditions := [
      ⟨"Ready", .known .met, "Deployed", "", none, default⟩,
      ⟨"Configured", .known .met, "Defaults", "", none, default⟩,
      ⟨"Ready", .known .undetermined, "Unreachable", "", none, default⟩] }

/-- A requirement, a status text and a reason. -/
def callOf (type text reason : String) : Assertion × Timestamp :=
  (⟨type, .bare text, reason, "", none⟩, default)

def fourCalls : List (Assertion × Timestamp) :=
  [callOf "Ready" "False" "Stopped", callOf "Served" "True" "Listed",
    callOf "Ready" "Unknown" "Restarting", callOf "Ready" "no" "Stopped"]

theorem refused_callOf_no : (callOf "Ready" "no" "Stopped").1.Refused := by
  rintro (_ | _ | _) <;> decide

theorem explained_fourCalls : Explained fourCalls := by
  simp [Explained, fourCalls, callOf]

theorem wellFormed_repeating : repeating.WellFormed where
  group := by decide
  kind := by decide
  name := by decide
  keys := List.forall_mem_singleton.2 isAnnotationKey_single
  nonempty := List.cons_ne_nil _ _
  conditions := by
    rintro c hc
    simp only [repeating, List.mem_cons, List.not_mem_nil, or_false] at hc
    obtain rfl | rfl | rfl := hc <;> exact ⟨by decide, ⟨_, rfl⟩, by decide⟩

/-- The fourth call is refused, so the third says what the first condition becomes. -/
theorem after_history_repeating :
    ((callOf "Ready" "no" "Stopped").1.set default).run.run repeating =
      (.error (.value (.conditionStatus "no")), repeating) ∧
    (repeating.after fourCalls).conditions.map (·.type) =
      ["Ready", "Configured", "Ready", "Served"] ∧
    (repeating.after fourCalls).conditions.find? (·.type = "Ready") =
      some ⟨"Ready", .known .undetermined, "Restarting", "", none, default⟩ ∧
    (repeating.after fourCalls).conditions[2]? =
      some ⟨"Ready", .known .undetermined, "Unreachable", "", none, default⟩ ∧
    (repeating.after fourCalls).validate = .ok () := by
  obtain ⟨hrefused, -, hrecorded, -, hvalid⟩ := after_history repeating fourCalls
  refine ⟨hrefused _ _ refused_callOf_no, ?types, ?last, ?kept, ?valid⟩
  case types =>
    rw [hrecorded.types]
    decide +kernel
  case last =>
    refine hrecorded.last [callOf "Ready" "False" "Stopped", callOf "Served" "True" "Listed"]
      _ _ [callOf "Ready" "no" "Stopped"] .undetermined rfl (by decide) ?_
    exact List.forall_mem_singleton.2 fun _ => refused_callOf_no
  case kept => exact hrecorded.kept 2 _ rfl (.inr ⟨0, by decide, rfl⟩)
  case valid => exact hvalid (validate_eq_ok_iff.2 wellFormed_repeating) explained_fourCalls

end Result

end Preflight
