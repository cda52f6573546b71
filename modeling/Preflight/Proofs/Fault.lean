import Mathlib.Data.List.Forall2
import Preflight.Fault

/-!
# Results that may be failures

Most steps give a value or a failure.  The lemmas below say when a row of such steps succeeds, how it
fails, and which failures it is limited to, so that nothing has to be said about the steps in between.
-/

namespace Preflight.Fault

variable {α β : Type}

/-! ## Successes and failures -/

theorem map_eq_ok_iff {ε : Type} {result : Except ε α} {next : α → β} {value : β} :
    result.map next = .ok value ↔ ∃ found, result = .ok found ∧ value = next found := by
  cases result <;> simp [Except.map, eq_comm]

theorem map_eq_error_iff {ε : Type} {result : Except ε α} {next : α → β} {fault : ε} :
    result.map next = .error fault ↔ result = .error fault := by
  cases result <;> simp [Except.map]

theorem mapError_eq_ok_iff {ε δ : Type} {result : Except ε α} {report : ε → δ} {value : α} :
    result.mapError report = .ok value ↔ result = .ok value := by
  cases result <;> simp [Except.mapError]

theorem bind_eq_ok_iff {ε : Type} {result : Except ε α} {next : α → Except ε β} {value : β} :
    (result >>= next) = .ok value ↔ ∃ found, result = .ok found ∧ next found = .ok value := by
  cases result <;> simp [bind, Except.bind]

theorem bind_eq_error_iff {ε : Type} {first : Except ε α} {next : α → Except ε β} {fault : ε} :
    (first >>= next) = .error fault ↔
      first = .error fault ∨ ∃ found, first = .ok found ∧ next found = .error fault := by
  cases first <;> simp [bind, Except.bind]

/-- What is made of a value adds no failure. -/
theorem bind_pure_eq_error_iff {ε : Type} {first : Except ε α} {next : α → β} {fault : ε} :
    (first >>= fun value => pure (next value)) = .error fault ↔ first = .error fault := by
  cases first <;> simp [bind, Except.bind, pure, Except.pure]

/-- A row of results is one result for each item, in order, and none of them a failure. -/
theorem mapM_eq_ok_iff {compute : α → Except Fault β} {items : List α} {values : List β} :
    items.mapM compute = .ok values ↔
      List.Forall₂ (fun item value => compute item = .ok value) items values := by
  induction items generalizing values with
  | nil => simp [pure, Except.pure, eq_comm]
  | cons item rest ih =>
    have hpure (row : List β) : (pure row : Except Fault (List β)) = .ok values ↔ values = row := by
      simp [pure, Except.pure, eq_comm]
    simp only [List.mapM_cons, bind_eq_ok_iff, List.forall₂_cons_left_iff, ih, hpure,
      exists_and_left]

theorem mapM_isOk_iff {compute : α → Except Fault β} {items : List α} :
    (∃ values, items.mapM compute = .ok values) ↔
      ∀ item ∈ items, ∃ value, compute item = .ok value := by
  simp only [mapM_eq_ok_iff]
  induction items with
  | nil => simp
  | cons item rest ih =>
    simp only [List.forall₂_cons_left_iff, List.forall_mem_cons, ← ih]
    constructor
    · rintro ⟨_, value, later, hvalue, hlater, -⟩
      exact ⟨⟨value, hvalue⟩, later, hlater⟩
    · rintro ⟨⟨value, hvalue⟩, later, hlater⟩
      exact ⟨value :: later, value, later, hvalue, hlater, rfl⟩

/-- A row of results fails as the first of them does that is a failure. -/
theorem mapM_eq_error_iff {compute : α → Except Fault β} {items : List α} {fault : Fault} :
    items.mapM compute = .error fault ↔
      ∃ before item after, items = before ++ item :: after ∧
        (∀ earlier ∈ before, ∃ value, compute earlier = .ok value) ∧
        compute item = .error fault := by
  constructor
  · intro hfailed
    induction items with
    | nil => cases hfailed
    | cons item rest ih =>
      rw [List.mapM_cons] at hfailed
      rcases bind_eq_error_iff.1 hfailed with hitem | ⟨value, hitem, hfailed⟩
      · exact ⟨[], item, rest, rfl, List.forall_mem_nil _, hitem⟩
      rcases bind_eq_error_iff.1 hfailed with hrest | ⟨values, -, hreturned⟩
      · obtain ⟨before, failing, after, hsplit, hbefore, hfails⟩ := ih hrest
        exact ⟨item :: before, failing, after, congrArg (item :: ·) hsplit,
          List.forall_mem_cons.2 ⟨⟨value, hitem⟩, hbefore⟩, hfails⟩
      · cases hreturned
  · rintro ⟨before, item, after, rfl, hbefore, hfails⟩
    obtain ⟨values, hvalues⟩ := mapM_isOk_iff.2 hbefore
    rw [List.mapM_append, hvalues, List.mapM_cons, hfails]
    rfl

/-! ## Searches -/

section Search

variable {ε : Type} {test : α → Except ε Bool} {items : List α} {item : α}

/-- Items that do not pass the test are not looked at again. -/
theorem findM?_append {before : List α} (hbefore : ∀ earlier ∈ before, test earlier = .ok false)
    (rest : List α) : (before ++ rest).findM? test = rest.findM? test := by
  induction before with
  | nil => rfl
  | cons first before ih =>
    obtain ⟨hfirst, hlater⟩ := List.forall_mem_cons.1 hbefore
    rw [List.cons_append, List.findM?, hfirst]
    exact ih hlater

/-- A search goes through the items up to the first one that passes the test or fails in it. -/
theorem findM?_cases (test : α → Except ε Bool) (items : List α) :
    (∀ item ∈ items, test item = .ok false) ∨
      ∃ before item after, items = before ++ item :: after ∧ test item ≠ .ok false ∧
        ∀ earlier ∈ before, test earlier = .ok false := by
  induction items with
  | nil => exact .inl (List.forall_mem_nil _)
  | cons first rest ih =>
    by_cases hfirst : test first = .ok false
    · obtain hnone | ⟨before, item, after, rfl, hitem, hbefore⟩ := ih
      · exact .inl (List.forall_mem_cons.2 ⟨hfirst, hnone⟩)
      · exact .inr ⟨first :: before, item, after, rfl, hitem,
          List.forall_mem_cons.2 ⟨hfirst, hbefore⟩⟩
    · exact .inr ⟨[], first, rest, rfl, hfirst, List.forall_mem_nil _⟩

theorem findM?_of_forall (hnone : ∀ item ∈ items, test item = .ok false) :
    items.findM? test = .ok none := by
  have hall := findM?_append hnone []
  rw [List.append_nil] at hall
  exact hall

theorem findM?_of_split {before after : List α} (hitem : test item ≠ .ok false)
    (hbefore : ∀ earlier ∈ before, test earlier = .ok false) :
    (before ++ item :: after).findM? test = (test item).map fun _ => some item := by
  rw [findM?_append hbefore, List.findM?]
  cases htest : test item with
  | error fault => rfl
  | ok passed =>
    cases passed with
    | false => exact absurd htest hitem
    | true => rfl

theorem findM?_eq_some_iff : items.findM? test = .ok (some item) ↔
    ∃ before after, items = before ++ item :: after ∧ test item = .ok true ∧
      ∀ earlier ∈ before, test earlier = .ok false := by
  constructor
  · intro hfound
    obtain hnone | ⟨before, first, after, rfl, hfirst, hbefore⟩ := findM?_cases test items
    · rw [findM?_of_forall hnone] at hfound
      cases hfound
    · rw [findM?_of_split hfirst hbefore, map_eq_ok_iff] at hfound
      obtain ⟨passed, htest, hsame⟩ := hfound
      cases hsame
      cases passed with
      | false => exact absurd htest hfirst
      | true => exact ⟨before, after, rfl, htest, hbefore⟩
  · rintro ⟨before, after, rfl, hitem, hbefore⟩
    rw [findM?_of_split (by simp [hitem]) hbefore, hitem]
    rfl

theorem findM?_eq_none_iff :
    items.findM? test = .ok none ↔ ∀ item ∈ items, test item = .ok false := by
  refine ⟨fun hnone => ?_, findM?_of_forall⟩
  obtain hall | ⟨before, first, after, rfl, hfirst, hbefore⟩ := findM?_cases test items
  · exact hall
  · rw [findM?_of_split hfirst hbefore, map_eq_ok_iff] at hnone
    obtain ⟨passed, -, hsame⟩ := hnone
    cases hsame

theorem findM?_eq_error_iff {fault : ε} : items.findM? test = .error fault ↔
    ∃ before item after, items = before ++ item :: after ∧ test item = .error fault ∧
      ∀ earlier ∈ before, test earlier = .ok false := by
  constructor
  · intro hfailed
    obtain hnone | ⟨before, first, after, rfl, hfirst, hbefore⟩ := findM?_cases test items
    · rw [findM?_of_forall hnone] at hfailed
      cases hfailed
    · rw [findM?_of_split hfirst hbefore, map_eq_error_iff] at hfailed
      exact ⟨before, first, after, rfl, hfailed, hbefore⟩
  · rintro ⟨before, item, after, rfl, hitem, hbefore⟩
    rw [findM?_of_split (by simp [hitem]) hbefore, hitem]
    rfl

end Search

/-! ## Limited failures -/

/-- Whatever failure a result is, it is an allowed one. -/
def Within {ε : Type} (allowed : ε → Prop) (result : Except ε α) : Prop :=
  ∀ fault, result = .error fault → allowed fault

variable {ε : Type} {allowed : ε → Prop}

theorem within_ok (value : α) : Within allowed (.ok value) := by
  intro fault hfault
  cases hfault

theorem within_error {fault : ε} (hallowed : allowed fault) :
    Within allowed (.error fault : Except ε α) := by
  intro found hfound
  cases hfound
  exact hallowed

theorem Within.bind {first : Except ε α} {next : α → Except ε β}
    (hfirst : Within allowed first) (hnext : ∀ value, Within allowed (next value)) :
    Within allowed (first >>= next) := by
  cases first with
  | error fault => exact within_error (hfirst fault rfl)
  | ok value => exact hnext value

theorem Within.map {result : Except ε α} (hresult : Within allowed result) (next : α → β) :
    Within allowed (result.map next) := by
  cases result with
  | error fault => exact within_error (hresult fault rfl)
  | ok value => exact within_ok (next value)

theorem within_mapM {compute : α → Except ε β} (hcompute : ∀ item, Within allowed (compute item))
    (items : List α) : Within allowed (items.mapM compute) := by
  induction items with
  | nil => exact within_ok []
  | cons item rest ih =>
    rw [List.mapM_cons]
    exact (hcompute item).bind fun _ => ih.bind fun _ => within_ok _

/-! ## The failure of a result -/

def IsConfigDefect (fault : Fault) : Prop := ∃ defect, fault = .config defect

/-- The failure that a result is, if it is one. -/
def of? : Except Fault α → Option Fault
  | .ok _ => none
  | .error fault => some fault

theorem of?_eq_some_iff {result : Except Fault α} {fault : Fault} :
    of? result = some fault ↔ result = .error fault := by
  cases result <;> simp [of?]

theorem of?_eq_none_iff {result : Except Fault α} :
    of? result = none ↔ ∃ value, result = .ok value := by
  cases result <;> simp [of?]

/-- A failure comes from the first step or from the next one, and where the next one fails in the
same way whatever the first has found, the failures can be told one after the other. -/
theorem of?_bind {first : Except Fault α} {next : α → Except Fault β} {later : Option Fault}
    (hlater : ∀ value, of? (next value) = later) : of? (first >>= next) = (of? first).or later := by
  cases first with
  | error fault => rfl
  | ok value => exact hlater value

end Preflight.Fault
