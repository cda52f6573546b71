import Preflight.Proofs.Glob.Defects
import Preflight.Proofs.Glob.Expression
import Preflight.Proofs.Registry.Selected

/-!
# Which selectors are accepted

Every pattern is either read or refused in its own name.  What is read can be written as a regular
expression for the same texts; what is refused meets a defect.  The selectors with a meaning of
their own are patterns too, so accepting a selector comes down to reading it.
-/

namespace Preflight

theorem Category.group_of_ofGroup? {name : String} {category : Category}
    (hgroup : ofGroup? name = some category) : category.group = name := by
  simpa using List.find?_some hgroup

namespace Selector

variable {pattern : String}

theorem compile_eq_error_iff {fault : InvalidPattern} :
    compile pattern = .error fault ↔
      ∃ defect, Glob.Meets pattern.toList defect ∧ fault = malformed pattern defect := by
  simp only [← Glob.parse_eq_error_iff, compile]
  cases Glob.parse pattern <;> simp [Except.mapError, eq_comm]

theorem compile_malformed_iff {defect : Glob.Defect} :
    compile pattern = .error (malformed pattern defect) ↔ Glob.Meets pattern.toList defect := by
  rw [compile_eq_error_iff]
  constructor
  · rintro ⟨found, hmeets, hfault⟩
    cases hfault
    exact hmeets
  · intro hmeets
    exact ⟨defect, hmeets, rfl⟩

/-- Behind a range a hyphen is listed itself, and an escaped bracket does not close the class. -/
example : Glob.Meets "[a-c-\\]".toList .unterminatedClass :=
  compile_malformed_iff.1 (by decide)

theorem compile_wildcard : ∃ tokens, compile wildcard = .ok tokens := ⟨_, rfl⟩

/-- The plural names are patterns without anything special. -/
theorem compile_group (category : Category) : ∃ tokens, compile category.group = .ok tokens := by
  cases category <;> exact ⟨_, rfl⟩

/-- The accepted selectors are the patterns that can be read, the empty one apart. -/
theorem validate_eq_ok_iff :
    validate pattern = .ok () ↔ pattern ≠ "" ∧ ∃ tokens, compile pattern = .ok tokens := by
  rw [validate]
  split
  · rename_i hempty
    simp [hempty]
  rename_i hsome
  split
  · rename_i hshortcut
    rw [Bool.or_eq_true, decide_eq_true_iff, Option.isSome_iff_exists] at hshortcut
    have hcompile : ∃ tokens, compile pattern = .ok tokens := by
      rcases hshortcut with rfl | ⟨category, hgroup⟩
      · exact compile_wildcard
      · rw [← Category.group_of_ofGroup? hgroup]
        exact compile_group category
    simp [hsome, hcompile]
  · cases compile pattern <;> simp [hsome]

/-- What is written for the tokens of a pattern is a regular expression for the same texts. -/
theorem denotes_of_compile {tokens : List Glob.Token} (hcompile : compile pattern = .ok tokens)
    {expression : List Char} (hexpressed : Glob.Expressed tokens expression) :
    Glob.Denotes expression (Glob.matched tokens) :=
  hexpressed.denotes (compile_eq_ok_iff.1 hcompile).proper

/-- Every pattern is read, and then all that can be written for its tokens are regular expressions,
or it is refused in its own name, and this with the defect that it meets.  The accepted selectors
are the patterns that are read, the empty one apart, and they can be tried on every check. -/
theorem compile_or_meets (pattern : String) :
    ((∃ tokens, compile pattern = .ok tokens ∧
        (∃ expression, Glob.Expressed tokens expression) ∧
          ∀ expression, Glob.Expressed tokens expression →
            Glob.Denotes expression (Glob.matched tokens)) ∨
      ∃ defect, compile pattern = .error ⟨pattern, .malformed defect⟩) ∧
    (∀ defect, compile pattern = .error ⟨pattern, .malformed defect⟩ ↔
      Glob.Meets pattern.toList defect) ∧
    (validate pattern = .ok () ↔ pattern ≠ "" ∧ ∃ tokens, compile pattern = .ok tokens) ∧
    (validate pattern = .ok () → ∀ check, ∃ selected, selects pattern check = .ok selected) := by
  refine ⟨?_, fun defect => compile_malformed_iff, validate_eq_ok_iff, selects_isOk⟩
  cases hcompile : compile pattern with
  | ok tokens =>
    left
    refine ⟨tokens, rfl, Glob.exists_expressed tokens, ?_⟩
    intro expression hexpressed
    exact denotes_of_compile hcompile hexpressed
  | error fault =>
    right
    obtain ⟨defect, -, rfl⟩ := compile_eq_error_iff.1 hcompile
    exact ⟨defect, rfl⟩

end Selector

end Preflight
