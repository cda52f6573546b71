import Mathlib.Data.List.Nodup
import Preflight.Proofs.Registry.History

/-!
# Registries filled in another order

A registry keeps its checks in the order in which they were registered.  Queries answer in the order
of identities, and an identity is looked up among checks of which no two share one.  So registries
that hold the same checks in different orders cannot be told apart by any row of requests.
-/

namespace Preflight.Registry

/-- Where identities tell checks apart, looking one up finds the check that has it. -/
theorem WellFormed.find?_eq_some_iff {r : Registry} (hwell : r.WellFormed) {id : String}
    {check : Check} : r.find? id = some check ↔ check ∈ r.checks ∧ check.id = id := by
  constructor
  · intro hfound
    have hid := List.find?_some hfound
    exact ⟨List.mem_of_find?_eq_some hfound, eq_of_beq hid⟩
  · rintro ⟨hmem, rfl⟩
    have hsome : (r.find? check.id).isSome := List.find?_isSome.2 ⟨check, hmem, beq_self_eq_true _⟩
    obtain ⟨other, hother⟩ := Option.isSome_iff_exists.1 hsome
    have hid := List.find?_some hother
    rw [hother, List.inj_on_of_nodup_map hwell.ids_nodup (List.mem_of_find?_eq_some hother) hmem
      (eq_of_beq hid)]

/-- The registries hold the same checks, and both are open or both closed. -/
structure Rearranged (first second : Registry) : Prop where
  checks : first.checks.Perm second.checks
  frozen : first.frozen = second.frozen
  first_wellFormed : first.WellFormed
  second_wellFormed : second.WellFormed

namespace Rearranged

variable {first second : Registry}

/-! ## Looking at the checks -/

theorem all_eq (hsame : Rearranged first second) : first.all = second.all :=
  Check.sortById_eq_of_perm hsame.checks hsame.first_wellFormed.ids_nodup

theorem inCategory_eq (hsame : Rearranged first second) (category : Category) :
    first.inCategory category = second.inCategory category := by
  rw [inCategory, inCategory, hsame.all_eq]

theorem selected_eq (hsame : Rearranged first second) (pattern : String)
    (filter : Option Category) : first.selected pattern filter = second.selected pattern filter := by
  rw [selected, selected, hsame.all_eq]

theorem contains_eq (hsame : Rearranged first second) (id : String) :
    first.contains id = second.contains id :=
  hsame.checks.any_eq

theorem find?_eq (hsame : Rearranged first second) (id : String) :
    first.find? id = second.find? id := by
  apply Option.ext
  intro check
  rw [hsame.first_wellFormed.find?_eq_some_iff, hsame.second_wellFormed.find?_eq_some_iff,
    hsame.checks.mem_iff]

/-! ## Requests -/

/-- A registration asks whether the registry is closed and whether it knows the identity. -/
theorem answer_register_eq (hsame : Rearranged first second) (check : Check) :
    first.answer (.register check) = second.answer (.register check) := by
  rw [answer_register, answer_register, register, register, hsame.frozen, hsame.contains_eq]
  cases requireComplete check with
  | error fault => rfl
  | ok complete =>
    dsimp only
    split
    · rfl
    split
    · rfl
    · rfl

theorem answer_eq (hsame : Rearranged first second) (request : Request) :
    first.answer request = second.answer request := by
  cases request with
  | register check => exact hsame.answer_register_eq check
  | get id => rw [answer, answer, hsame.find?_eq]
  | listAll => rw [answer, answer, hsame.all_eq]
  | iterate => rw [answer, answer, hsame.all_eq]
  | listCategory category => rw [answer, answer, hsame.inCategory_eq]
  | listPattern pattern filter => rw [answer, answer, hsame.selected_eq]
  | size => rw [answer, answer, hsame.checks.length_eq]
  | contains id => rw [answer, answer, hsame.contains_eq]
  | isFrozen => rw [answer, answer, hsame.frozen]

theorem added?_eq (hsame : Rearranged first second) (request : Request) :
    first.added? request = second.added? request := by
  cases request with
  | register check => rw [added?, added?, hsame.answer_register_eq]
  | _ => rfl

/-- Whatever is asked of both registries, they go on holding the same checks. -/
theorem after (hsame : Rearranged first second) (request : Request) :
    Rearranged (first.after request) (second.after request) where
  checks := by
    rw [checks_after, checks_after, hsame.added?_eq]
    exact hsame.checks.append_right _
  frozen := by
    rw [Bool.eq_iff_iff, frozen_after, frozen_after, hsame.frozen]
  first_wellFormed := hsame.first_wellFormed.after request
  second_wellFormed := hsame.second_wellFormed.after request

theorem afterAll (hsame : Rearranged first second) (requests : List Request) :
    Rearranged (first.afterAll requests) (second.afterAll requests) := by
  induction requests generalizing first second with
  | nil => exact hsame
  | cons request rest ih => exact ih (hsame.after request)

end Rearranged

/-! ## Filling a registry -/

theorem complete_of_requireComplete {check : Check} (hcomplete : requireComplete check = .ok ()) :
    check.Complete := by
  rcases requireComplete_cases check with ⟨hcheck, -⟩ | ⟨-, defect, hrefused⟩
  · exact hcheck
  · rw [hrefused] at hcomplete
    cases hcomplete

/-- Complete checks fill an open registry, unless an identity is repeated. -/
theorem registerAll_of_complete {r : Registry} {checks : List Check} (hopen : r.frozen = false)
    (hown : (r.checks.map (·.id)).Nodup) (hcomplete : ∀ check ∈ checks, check.Complete) :
    (((r.checks ++ checks).map (·.id)).Nodup →
      r.registerAll checks = .ok { r with checks := r.checks ++ checks }) ∧
    (¬((r.checks ++ checks).map (·.id)).Nodup →
      ∃ id, r.registerAll checks = .error (.duplicateCheck id)) := by
  induction checks generalizing r with
  | nil => simpa [registerAll] using hown
  | cons check rest ih =>
    obtain ⟨hfirst, hrest⟩ := List.forall_mem_cons.1 hcomplete
    rcases r.register_cases check with ⟨hincomplete, -⟩ | ⟨-, hclosed, -⟩ |
      ⟨-, -, ⟨known, hknown, hid⟩, hend⟩ | ⟨-, -, hnew, hend⟩
    · exact absurd hfirst hincomplete
    · rw [hopen] at hclosed
      cases hclosed
    · have hrepeated : ¬((r.checks ++ check :: rest).map (·.id)).Nodup := by
        rw [List.map_append, List.nodup_append]
        rintro ⟨-, -, hdisjoint⟩
        exact hdisjoint _ (List.mem_map_of_mem hknown) _ (by simp) hid
      refine ⟨fun hnodup => absurd hnodup hrepeated, fun _ => ⟨check.id, ?_⟩⟩
      rw [registerAll, hend]
    · have hadded : ((r.checks ++ [check]).map (·.id)).Nodup := by
        simpa [List.nodup_append, hown] using fun known hknown => hnew known hknown
      have hlater := ih (r := { r with checks := r.checks ++ [check] }) hopen hadded hrest
      rw [List.append_assoc, List.singleton_append] at hlater
      rw [registerAll, hend]
      exact hlater

theorem ofChecks_of_complete {checks : List Check} (hcomplete : ∀ check ∈ checks, check.Complete) :
    ((checks.map (·.id)).Nodup → ofChecks checks = .ok ⟨checks, false⟩) ∧
      (¬(checks.map (·.id)).Nodup → ∃ id, ofChecks checks = .error (.duplicateCheck id)) :=
  registerAll_of_complete (r := empty) rfl List.nodup_nil hcomplete

end Preflight.Registry
