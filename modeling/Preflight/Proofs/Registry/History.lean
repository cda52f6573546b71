import Preflight.Proofs.Check.Order
import Preflight.Proofs.Registry.Selected
import Preflight.Proofs.Registry.WellFormed

/-!
# Histories of a registry

Whatever rows of requests are made of a new registry, its contents are the checks whose
registration succeeded, and it is closed by the first query that looks at them.  What a registration
comes to depends on these two things and on the check itself.
-/

namespace Preflight

/-- The check has an identity, a category, and resource types if it judges workload instances. -/
structure Check.Complete (check : Check) : Prop where
  identity : check.id ≠ ""
  category : ∃ category, check.category = .known category
  types : check.category = .known .workload → check.resourceTypes ≠ []

namespace Registry

/-- The requests that close a registry.  A query by a selector does so if the selector is accepted;
asking for the size, for an identity or for the state does not. -/
def Request.Closes : Request → Prop
  | .get _ => True
  | .listAll => True
  | .iterate => True
  | .listCategory _ => True
  | .listPattern pattern _ => Selector.validate pattern = .ok ()
  | .register _ => False
  | .size => False
  | .contains _ => False
  | .isFrozen => False

/-- The check that a request adds to a registry, if it is a registration that succeeds. -/
def added? (r : Registry) : Request → Option Check
  | .register check => if (r.answer (.register check)).isOk then some check else none
  | _ => none

/-- The checks whose registration succeeds in the course of some requests. -/
def accepted (r : Registry) : List Request → List Check
  | [] => []
  | request :: rest => (r.added? request).toList ++ accepted (r.after request) rest

/-! ## What a registration comes to -/

/-- A check is complete, or it is refused as such whatever is registered. -/
theorem requireComplete_cases (check : Check) :
    check.Complete ∧ requireComplete check = .ok () ∨
      ¬check.Complete ∧ ∃ defect, requireComplete check = .error (.value defect) := by
  rw [requireComplete]
  by_cases hid : check.id = ""
  · exact .inr ⟨fun hcomplete => hcomplete.identity hid, _, if_pos hid⟩
  rw [if_neg hid]
  cases hcategory : check.category with
  | other text =>
    refine .inr ⟨fun hcomplete => ?_, _, rfl⟩
    obtain ⟨category, hknown⟩ := hcomplete.category
    rw [hcategory] at hknown
    cases hknown
  | known category =>
    by_cases htypes : category = .workload ∧ check.resourceTypes = []
    · obtain ⟨rfl, hnone⟩ := htypes
      refine .inr ⟨fun hcomplete => hcomplete.types hcategory hnone, ?_⟩
      refine ⟨.checkWithoutTypes check.id, ?_⟩
      simp [hnone]
    · refine .inl ⟨⟨hid, ⟨category, hcategory⟩, fun hworkload hnone => htypes ⟨?_, hnone⟩⟩, ?_⟩
      · rw [hcategory] at hworkload
        exact CategoryLabel.known.inj hworkload
      · simpa using htypes

/-- The four ends of a registration, in the order in which they are tried. -/
theorem register_cases (r : Registry) (check : Check) :
    (¬check.Complete ∧ ∃ defect, r.register check = .error (.value defect)) ∨
      (check.Complete ∧ r.frozen = true ∧
        r.register check = .error (.registryFrozen check.id)) ∨
      (check.Complete ∧ r.frozen = false ∧ (∃ known ∈ r.checks, known.id = check.id) ∧
        r.register check = .error (.duplicateCheck check.id)) ∨
      (check.Complete ∧ r.frozen = false ∧ (∀ known ∈ r.checks, known.id ≠ check.id) ∧
        r.register check = .ok { r with checks := r.checks ++ [check] }) := by
  rw [register]
  rcases requireComplete_cases check with ⟨hcomplete, hok⟩ | ⟨hincomplete, defect, hrefused⟩
  · rw [hok]
    right
    cases hfrozen : r.frozen with
    | true => exact .inl ⟨hcomplete, rfl, rfl⟩
    | false =>
      right
      cases hcontains : r.contains check.id with
      | true =>
        left
        refine ⟨hcomplete, rfl, ?_, rfl⟩
        simpa [contains] using hcontains
      | false =>
        right
        refine ⟨hcomplete, rfl, ?_, rfl⟩
        simpa [contains] using hcontains
  · rw [hrefused]
    exact .inl ⟨hincomplete, defect, rfl⟩

/-! ## What a registration answers -/

theorem answer_register (r : Registry) (check : Check) :
    r.answer (.register check) = (r.register check).map fun _ => .done := rfl

theorem answer_register_eq_done_iff (r : Registry) (check : Check) :
    r.answer (.register check) = .ok .done ↔
      check.Complete ∧ r.frozen = false ∧ ∀ known ∈ r.checks, known.id ≠ check.id := by
  rw [answer_register]
  rcases r.register_cases check with ⟨hincomplete, defect, hend⟩ | ⟨hcomplete, hfrozen, hend⟩ |
    ⟨hcomplete, hopen, ⟨known, hknown, hsame⟩, hend⟩ | ⟨hcomplete, hopen, hnew, hend⟩
  · simp [hend, Except.map, hincomplete]
  · simp [hend, Except.map, hfrozen]
  · simp only [hend, Except.map, reduceCtorEq, false_iff]
    exact fun hclaim => hclaim.2.2 known hknown hsame
  · simp only [hend, Except.map, true_iff]
    exact ⟨hcomplete, hopen, hnew⟩

theorem answer_register_eq_value_iff (r : Registry) (check : Check) :
    (∃ defect, r.answer (.register check) = .error (.value defect)) ↔ ¬check.Complete := by
  rw [answer_register]
  rcases r.register_cases check with ⟨hincomplete, defect, hend⟩ | ⟨hcomplete, hfrozen, hend⟩ |
    ⟨hcomplete, hopen, hknown, hend⟩ | ⟨hcomplete, hopen, hnew, hend⟩
  · simp [hend, Except.map, hincomplete]
  · simp [hend, Except.map, hcomplete]
  · simp [hend, Except.map, hcomplete]
  · simp [hend, Except.map, hcomplete]

theorem answer_register_eq_frozen_iff (r : Registry) (check : Check) :
    r.answer (.register check) = .error (.registryFrozen check.id) ↔
      check.Complete ∧ r.frozen = true := by
  rw [answer_register]
  rcases r.register_cases check with ⟨hincomplete, defect, hend⟩ | ⟨hcomplete, hfrozen, hend⟩ |
    ⟨hcomplete, hopen, hknown, hend⟩ | ⟨hcomplete, hopen, hnew, hend⟩
  · simp [hend, Except.map, hincomplete]
  · simp [hend, Except.map, hcomplete, hfrozen]
  · simp [hend, Except.map, hopen]
  · simp [hend, Except.map, hopen]

theorem answer_register_eq_duplicate_iff (r : Registry) (check : Check) :
    r.answer (.register check) = .error (.duplicateCheck check.id) ↔
      check.Complete ∧ r.frozen = false ∧ ∃ known ∈ r.checks, known.id = check.id := by
  rw [answer_register]
  rcases r.register_cases check with ⟨hincomplete, defect, hend⟩ | ⟨hcomplete, hfrozen, hend⟩ |
    ⟨hcomplete, hopen, hknown, hend⟩ | ⟨hcomplete, hopen, hnew, hend⟩
  · simp [hend, Except.map, hincomplete]
  · simp [hend, Except.map, hfrozen]
  · simp only [hend, Except.map, true_iff]
    exact ⟨hcomplete, hopen, hknown⟩
  · simp only [hend, Except.map, reduceCtorEq, false_iff]
    rintro ⟨-, -, known, hknown, hsame⟩
    exact hnew known hknown hsame

/-! ## One request -/

/-- A request that is refused leaves the registry as it was. -/
theorem after_of_refused {r : Registry} {request : Request} {fault : Fault}
    (hrefused : r.answer request = .error fault) : r.after request = r := by
  cases request with
  | register check =>
    rw [after]
    cases hregister : r.register check with
    | error cause => rfl
    | ok next => simp [answer_register, hregister, Except.map] at hrefused
  | listPattern pattern filter =>
    rw [after]
    cases hvalid : Selector.validate pattern with
    | error defect => rfl
    | ok accepted =>
      obtain ⟨found, hfound⟩ := r.selected_isOk filter hvalid
      simp [answer, hfound] at hrefused
  | get id => cases hrefused
  | listAll => cases hrefused
  | iterate => cases hrefused
  | listCategory category => cases hrefused
  | size => cases hrefused
  | contains id => cases hrefused
  | isFrozen => cases hrefused

theorem checks_after (r : Registry) (request : Request) :
    (r.after request).checks = r.checks ++ (r.added? request).toList := by
  cases request with
  | register check =>
    rw [after, added?, answer_register]
    rcases r.register_cases check with
      ⟨-, defect, hend⟩ | ⟨-, -, hend⟩ | ⟨-, -, -, hend⟩ | ⟨-, -, -, hend⟩ <;>
      simp [hend, Except.map, Except.isOk, Except.toBool]
  | listPattern pattern filter =>
    rw [after]
    split <;> simp [added?, freeze]
  | get id => simp [after, added?, freeze]
  | listAll => simp [after, added?, freeze]
  | iterate => simp [after, added?, freeze]
  | listCategory category => simp [after, added?, freeze]
  | size => simp [after, added?]
  | contains id => simp [after, added?]
  | isFrozen => simp [after, added?]

theorem frozen_after (r : Registry) (request : Request) :
    (r.after request).frozen = true ↔ r.frozen = true ∨ request.Closes := by
  cases request with
  | register check =>
    rw [after]
    rcases r.register_cases check with
      ⟨-, defect, hend⟩ | ⟨-, -, hend⟩ | ⟨-, -, -, hend⟩ | ⟨-, -, -, hend⟩ <;>
      simp [hend, Request.Closes]
  | listPattern pattern filter =>
    rw [after, Request.Closes]
    cases hvalid : Selector.validate pattern <;> simp [freeze]
  | get id => simp [after, freeze, Request.Closes]
  | listAll => simp [after, freeze, Request.Closes]
  | iterate => simp [after, freeze, Request.Closes]
  | listCategory category => simp [after, freeze, Request.Closes]
  | size => simp [after, Request.Closes]
  | contains id => simp [after, Request.Closes]
  | isFrozen => simp [after, Request.Closes]

/-- A closed registry does not change any more. -/
theorem after_of_frozen {r : Registry} (hfrozen : r.frozen = true) (request : Request) :
    r.after request = r := by
  have hfreeze : r.freeze = r := by rw [freeze, ← hfrozen]
  cases request with
  | register check =>
    rw [after]
    rcases r.register_cases check with
      ⟨-, defect, hend⟩ | ⟨-, -, hend⟩ | ⟨-, hopen, -⟩ | ⟨-, hopen, -⟩
    · rw [hend]
    · rw [hend]
    · rw [hfrozen] at hopen
      cases hopen
    · rw [hfrozen] at hopen
      cases hopen
  | listPattern pattern filter =>
    rw [after]
    split
    · exact hfreeze
    · rfl
  | get id => exact hfreeze
  | listAll => exact hfreeze
  | iterate => exact hfreeze
  | listCategory category => exact hfreeze
  | size => rfl
  | contains id => rfl
  | isFrozen => rfl

/-! ## Rows of requests -/

theorem afterAll_cons (r : Registry) (request : Request) (rest : List Request) :
    r.afterAll (request :: rest) = (r.after request).afterAll rest := rfl

theorem checks_afterAll (r : Registry) (requests : List Request) :
    (r.afterAll requests).checks = r.checks ++ r.accepted requests := by
  induction requests generalizing r with
  | nil => simp [afterAll, accepted]
  | cons request rest ih =>
    rw [afterAll_cons, ih, checks_after, accepted, List.append_assoc]

theorem frozen_afterAll (r : Registry) (requests : List Request) :
    (r.afterAll requests).frozen = true ↔
      r.frozen = true ∨ ∃ request ∈ requests, request.Closes := by
  induction requests generalizing r with
  | nil => simp [afterAll]
  | cons request rest ih =>
    simp only [afterAll_cons, ih, frozen_after, List.mem_cons, exists_eq_or_imp, or_assoc]

theorem afterAll_of_frozen {r : Registry} (hfrozen : r.frozen = true) (requests : List Request) :
    r.afterAll requests = r := by
  induction requests with
  | nil => rfl
  | cons request rest ih => rw [afterAll_cons, after_of_frozen hfrozen, ih]

theorem Reachable.afterAll {r : Registry} (hreachable : r.Reachable) (requests : List Request) :
    (r.afterAll requests).Reachable := by
  induction requests generalizing r with
  | nil => exact hreachable
  | cons request rest ih => exact ih (hreachable.after request)

/-- What a registry has come to after some requests were made of it when it was new, and what it
will answer. -/
structure Traced (requests : List Request) (r : Registry) : Prop where
  contents : r.checks = accepted empty requests
  frozen_iff : r.frozen = true ↔ ∃ request ∈ requests, request.Closes
  listed : ∃ listed, r.answer .listAll = .ok (.checks listed) ∧
    listed.Perm (accepted empty requests) ∧ listed.Pairwise fun a b => a.id < b.id
  registers_iff : ∀ check, r.answer (.register check) = .ok .done ↔
    check.Complete ∧ (∀ request ∈ requests, ¬request.Closes) ∧
      ∀ earlier ∈ accepted empty requests, earlier.id ≠ check.id
  /-- Incomplete checks are refused before all others. -/
  incomplete_iff : ∀ check,
    (∃ defect, r.answer (.register check) = .error (.value defect)) ↔ ¬check.Complete
  /-- A closed registry refuses complete checks, known or not. -/
  closed_iff : ∀ check, r.answer (.register check) = .error (.registryFrozen check.id) ↔
    check.Complete ∧ ∃ request ∈ requests, request.Closes
  duplicate_iff : ∀ check, r.answer (.register check) = .error (.duplicateCheck check.id) ↔
    check.Complete ∧ (∀ request ∈ requests, ¬request.Closes) ∧
      ∃ earlier ∈ accepted empty requests, earlier.id = check.id
  refused : ∀ request fault, r.answer request = .error fault → r.after request = r
  settled : r.frozen = true → ∀ later, r.afterAll later = r

/-- A new registry keeps to its history, whatever is asked of it and in whatever order. -/
theorem afterAll_traced (requests : List Request) : Traced requests (empty.afterAll requests) := by
  have hcontents : (empty.afterAll requests).checks = accepted empty requests := by
    rw [checks_afterAll]
    rfl
  have hfrozen : (empty.afterAll requests).frozen = true ↔
      ∃ request ∈ requests, request.Closes := by
    rw [frozen_afterAll]
    simp [empty]
  have hopen : (empty.afterAll requests).frozen = false ↔
      ∀ request ∈ requests, ¬request.Closes := by
    rw [← Bool.not_eq_true, hfrozen]
    simp
  have hnodup : ((empty.afterAll requests).checks.map (·.id)).Nodup :=
    (Reachable.empty.afterAll requests).wellFormed.ids_nodup
  refine ⟨hcontents, hfrozen, ?_, ?_, ?_, ?_, ?_, fun request fault => after_of_refused,
    afterAll_of_frozen⟩
  · rw [← hcontents]
    exact ⟨_, rfl, List.mergeSort_perm _ _, Check.pairwise_sortById hnodup⟩
  · intro check
    rw [answer_register_eq_done_iff, hopen, hcontents]
  · intro check
    exact answer_register_eq_value_iff _ check
  · intro check
    rw [answer_register_eq_frozen_iff, hfrozen]
  · intro check
    rw [answer_register_eq_duplicate_iff, hopen, hcontents]

end Registry

end Preflight
