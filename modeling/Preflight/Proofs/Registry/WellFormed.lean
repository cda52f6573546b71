import Preflight.Registry.History

/-!
# What every registry keeps

A registry starts empty and changes by requests only.  So whatever rows of requests are made of it,
each of its checks has been accepted as complete, and no two of them share an identity.
-/

namespace Preflight.Registry

inductive Reachable : Registry → Prop where
  | empty : Reachable empty
  | after {r : Registry} (request : Request) (hreachable : Reachable r) :
      Reachable (r.after request)

/-- Every check is complete, and its identity is its own. -/
structure WellFormed (r : Registry) : Prop where
  complete : ∀ check ∈ r.checks, requireComplete check = .ok ()
  ids_nodup : (r.checks.map (·.id)).Nodup

/-- A registration that succeeds adds a complete check with a new identity at the end. -/
theorem register_eq_ok {r next : Registry} {check : Check} (hok : r.register check = .ok next) :
    requireComplete check = .ok () ∧ r.contains check.id = false ∧
      next = { r with checks := r.checks ++ [check] } := by
  simp only [register] at hok
  split at hok
  · cases hok
  · rename_i hcomplete
    split at hok
    · cases hok
    split at hok
    · cases hok
    rename_i hopen hnew
    cases hok
    exact ⟨hcomplete, by simpa using hnew, rfl⟩

theorem WellFormed.register {r next : Registry} {check : Check} (hwell : r.WellFormed)
    (hok : r.register check = .ok next) : next.WellFormed := by
  obtain ⟨hcomplete, hnew, rfl⟩ := register_eq_ok hok
  constructor
  · intro found hfound
    rcases List.mem_append.1 hfound with hold | hadded
    · exact hwell.complete found hold
    · rwa [List.mem_singleton.1 hadded]
  · have hfresh : check.id ∉ r.checks.map (·.id) := by
      simpa [contains] using hnew
    simpa [List.nodup_append, hwell.ids_nodup] using hfresh

theorem WellFormed.freeze {r : Registry} (hwell : r.WellFormed) : r.freeze.WellFormed :=
  ⟨hwell.complete, hwell.ids_nodup⟩

/-- A request leaves the checks alone unless it registers one. -/
theorem WellFormed.after {r : Registry} (hwell : r.WellFormed) (request : Request) :
    (r.after request).WellFormed := by
  cases request with
  | register check =>
    cases hregister : r.register check with
    | ok next => simpa [Registry.after, hregister] using hwell.register hregister
    | error fault => simpa [Registry.after, hregister] using hwell
  | listPattern pattern filter =>
    cases hvalid : Selector.validate pattern with
    | ok accepted => simpa [Registry.after, hvalid] using hwell.freeze
    | error fault => simpa [Registry.after, hvalid] using hwell
  | get id => exact hwell.freeze
  | listAll => exact hwell.freeze
  | iterate => exact hwell.freeze
  | listCategory category => exact hwell.freeze
  | size => exact hwell
  | contains id => exact hwell
  | isFrozen => exact hwell

theorem Reachable.wellFormed {r : Registry} (hreachable : r.Reachable) : r.WellFormed := by
  induction hreachable with
  | empty => exact ⟨by simp [Registry.empty], by simp [Registry.empty]⟩
  | after request hreachable ih => exact ih.after request

theorem category_of_requireComplete {check : Check} (hcomplete : requireComplete check = .ok ()) :
    ∃ category, check.category = .known category := by
  rw [requireComplete] at hcomplete
  split at hcomplete
  · cases hcomplete
  split at hcomplete
  · cases hcomplete
  · exact ⟨_, ‹_›⟩

theorem Reachable.category {r : Registry} (hreachable : r.Reachable) :
    ∀ check ∈ r.checks, ∃ category, check.category = .known category :=
  fun check hmem => category_of_requireComplete (hreachable.wellFormed.complete check hmem)

/-- The registry of a list of checks is reached by registering them in order. -/
theorem Reachable.registerAll {r next : Registry} {checks : List Check} (hreachable : r.Reachable)
    (hok : r.registerAll checks = .ok next) : next.Reachable := by
  induction checks generalizing r with
  | nil => cases hok; exact hreachable
  | cons check rest ih =>
    cases hregister : r.register check with
    | error fault => simp [Registry.registerAll, hregister] at hok
    | ok added =>
      have hadded : added = r.after (.register check) := by simp [Registry.after, hregister]
      apply ih (hadded ▸ hreachable.after (.register check))
      simpa [Registry.registerAll, hregister] using hok

theorem reachable_of_ofChecks {r : Registry} {checks : List Check} (hok : ofChecks checks = .ok r) :
    r.Reachable :=
  Reachable.empty.registerAll hok

end Preflight.Registry
