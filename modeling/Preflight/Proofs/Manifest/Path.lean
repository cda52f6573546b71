import Preflight.Manifest.Path

/-!
# Where paths lead

A path goes down one mapping for each of its keys.  So a path that is put together from two is the
first one followed by the second from wherever the first has led, and a state is read in two steps:
the path leads to a block, and the block holds the state or does not.  Only in the second step does
it matter whether there is no value or a null.
-/

namespace Preflight.Document

variable {d target value : Document} {path : String}

/-! ## Following keys -/

/-- Going from a value down to another one: every key stands in the mapping that was reached. -/
inductive Leads : Document → List String → Document → Prop where
  | here (d : Document) : Leads d [] d
  | down {d value target : Document} {entries : List (Document × Document)} {key : String}
      {keys : List String} (hentries : d.entries? = some entries)
      (hfield : field? entries key = some value) (hrest : Leads value keys target) :
      Leads d (key :: keys) target

/-- The value that a path names. -/
def Resolves (d : Document) (path : String) (target : Document) : Prop :=
  Leads d (Text.splitText '.' path) target

theorem get?_eq_some_iff {key : String} :
    d.get? key = some value ↔ ∃ entries, d.entries? = some entries ∧
      field? entries key = some value := by
  rw [get?]
  cases d.entries? <;> simp

theorem follow_eq_some_iff {keys : List String} :
    d.follow keys = some target ↔ Leads d keys target := by
  induction keys generalizing d with
  | nil =>
    rw [follow, Option.some.injEq]
    constructor
    · rintro rfl
      exact .here d
    · rintro ⟨⟩
      rfl
  | cons key keys ih =>
    rw [follow]
    constructor
    · intro hfollow
      split at hfollow
      · cases hfollow
      · rename_i value hvalue
        obtain ⟨entries, hentries, hfield⟩ := get?_eq_some_iff.1 hvalue
        exact .down hentries hfield (ih.1 hfollow)
    · rintro (_ | ⟨hentries, hfield, hrest⟩)
      rw [get?_eq_some_iff.2 ⟨_, hentries, hfield⟩]
      exact ih.2 hrest

theorem lookup_eq_some_iff : d.lookup path = some target ↔ d.Resolves path target :=
  follow_eq_some_iff

theorem follow_append (d : Document) (first second : List String) :
    d.follow (first ++ second) = (d.follow first).bind fun reached => reached.follow second := by
  induction first generalizing d with
  | nil => rfl
  | cons key keys ih =>
    rw [List.cons_append, follow, follow]
    cases d.get? key with
    | none => rfl
    | some value => exact ih value

/-! ## Joined paths -/

/-- The keys of a joined path, empty ones included, are those of its parts. -/
theorem splitText_joined (first second : String) :
    Text.splitText '.' s!"{first}.{second}" =
      Text.splitText '.' first ++ Text.splitText '.' second := by
  have hjoined : (s!"{first}.{second}").toList = first.toList ++ '.' :: second.toList := by
    simp [toString]
  rw [Text.splitText, hjoined, Text.split_append_cons, List.map_append]
  rfl

theorem lookup_joined (d : Document) (first second : String) :
    d.lookup s!"{first}.{second}" =
      (d.lookup first).bind fun reached => reached.lookup second := by
  rw [lookup, splitText_joined, follow_append]
  rfl

/-- A single key is looked up in the value itself. -/
theorem lookup_key {key : String} (hplain : '.' ∉ key.toList) : d.lookup key = d.get? key := by
  rw [lookup, Text.splitText, Text.split_of_notMem hplain, List.map_singleton, String.ofList_toList,
    follow]
  cases d.get? key <;> rfl

/-- A single key is found in the mapping that the path leads to. -/
theorem lookup_field_iff {key : String} (hplain : '.' ∉ key.toList) :
    d.lookup s!"{path}.{key}" = some value ↔
      ∃ block entries, d.Resolves path block ∧ block.entries? = some entries ∧
        field? entries key = some value := by
  rw [lookup_joined, Option.bind_eq_some_iff]
  simp only [lookup_key hplain, lookup_eq_some_iff, get?_eq_some_iff, exists_and_left]

/-! ## States -/

/-- The path leads to a mapping in which this value stands as the state. -/
def States (d : Document) (path : String) (value : Document) : Prop :=
  ∃ block entries, d.Resolves path block ∧ block.entries? = some entries ∧
    field? entries "managementState" = some value

theorem lookup_state_iff :
    d.lookup s!"{path}.managementState" = some value ↔ d.States path value := by
  have hjoined : s!"{path}.managementState" = path ++ "." ++ "managementState" := by
    rw [← String.toList_inj]
    simp [toString]
  rw [hjoined]
  exact lookup_field_iff (by decide)

/-- No state is given: there is no value, or it is null or empty. -/
def Unset (value : Option Document) : Prop :=
  value = none ∨ value = some .null ∨ value = some (.text "")

theorem managementState_eq_none_iff :
    d.managementState path = .ok none ↔ Unset (d.lookup s!"{path}.managementState") := by
  rw [managementState.eq_def, Unset]
  cases d.lookup s!"{path}.managementState" with
  | none => simp
  | some value => cases value <;> simp

theorem managementState_eq_some_iff {state : String} :
    d.managementState path = .ok (some state) ↔
      d.lookup s!"{path}.managementState" = some (.text state) ∧ state ≠ "" := by
  rw [managementState.eq_def]
  cases d.lookup s!"{path}.managementState" with
  | none => simp
  | some value =>
    cases value with
    | text found =>
      simp only [Except.ok.injEq, Option.ite_none_left_eq_some, Option.some.injEq, text.injEq]
      constructor
      · rintro ⟨hgiven, rfl⟩
        exact ⟨rfl, hgiven⟩
      · rintro ⟨rfl, hgiven⟩
        exact ⟨hgiven, rfl⟩
    | _ => simp

theorem managementState_eq_error_iff {fault : Fault} :
    d.managementState path = .error fault ↔
      ∃ value, d.lookup s!"{path}.managementState" = some value ∧ value ≠ .null ∧
        (∀ state, value ≠ .text state) ∧ fault = .value (.stateNotText path value.kindName) := by
  rw [managementState.eq_def]
  cases d.lookup s!"{path}.managementState" with
  | none => simp
  | some value => cases value <;> simp [eq_comm]

/-- A joined path is looked up in two steps, whatever stands for a value that is not there, and a
state is what the block at the path holds: it is not given when there is none, or a null or an empty
text, and it is refused when it is no text. -/
theorem lookup_composes (d : Document) (path : String) :
    (∀ rest fallback,
      (∀ reached, d.Resolves path reached →
        (d.lookup s!"{path}.{rest}").getD fallback = (reached.lookup rest).getD fallback) ∧
      ((¬∃ reached, d.Resolves path reached) →
        (d.lookup s!"{path}.{rest}").getD fallback = fallback)) ∧
    (d.managementState path = .ok none ↔
      (¬∃ value, d.States path value) ∨ d.States path .null ∨ d.States path (.text "")) ∧
    (∀ state, d.managementState path = .ok (some state) ↔
      d.States path (.text state) ∧ state ≠ "") ∧
    ∀ fault, d.managementState path = .error fault ↔
      ∃ value, d.States path value ∧ value ≠ .null ∧ (∀ state, value ≠ .text state) ∧
        fault = .value (.stateNotText path value.kindName) := by
  refine ⟨fun rest fallback => ⟨fun reached hreached => ?resolved, fun hnone => ?unresolved⟩,
    ?unset, fun state => ?given, fun fault => ?refused⟩
  case resolved =>
    rw [lookup_joined, lookup_eq_some_iff.2 hreached]
    rfl
  case unresolved =>
    have habsent : d.lookup path = none := by
      rw [Option.eq_none_iff_forall_ne_some]
      exact fun reached hreached => hnone ⟨reached, lookup_eq_some_iff.1 hreached⟩
    rw [lookup_joined, habsent]
    rfl
  case unset =>
    rw [managementState_eq_none_iff, Unset, Option.eq_none_iff_forall_ne_some]
    simp only [ne_eq, lookup_state_iff, not_exists]
  case given => rw [managementState_eq_some_iff, lookup_state_iff]
  case refused => simp only [managementState_eq_error_iff, lookup_state_iff]

/-- A document in which an empty key, the last one of the path `spec.`, stands for a null. -/
def hollow : Document := .map [(.text "spec", .map [(.text "", .null)])]

theorem lookup_composes_hollow :
    (hollow.Resolves "spec." .null ∧
      (hollow.lookup ("spec." ++ "." ++ "y")).getD (.int 7) = .int 7) ∧
    ((¬∃ reached, hollow.Resolves "spec.x" reached) ∧
      (hollow.lookup ("spec.x" ++ "." ++ "y")).getD (.int 7) = .int 7) ∧
    hollow.managementState "spec." = .ok none := by
  have hnull : hollow.Resolves "spec." .null := lookup_eq_some_iff.1 rfl
  have hnone : ¬∃ reached, hollow.Resolves "spec.x" reached := by
    rintro ⟨reached, hreached⟩
    cases lookup_eq_some_iff.2 hreached
  refine ⟨⟨hnull, ?_⟩, ⟨hnone, ?_⟩, ?_⟩
  · exact ((lookup_composes hollow "spec.").1 "y" (.int 7)).1 .null hnull
  · exact ((lookup_composes hollow "spec.x").1 "y" (.int 7)).2 hnone
  · refine (lookup_composes hollow "spec.").2.1.2 (.inl ?_)
    rintro ⟨value, block, entries, hblock, hentries, -⟩
    cases (lookup_eq_some_iff.2 hblock).symm.trans (lookup_eq_some_iff.2 hnull)
    cases hentries

end Preflight.Document
