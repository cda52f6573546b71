import Preflight.Catalog
import Preflight.Proofs.Check.Heeding

/-!
# Work that takes no time

What the checks of the catalogue do is worked out from objects that are already there, so it ends at
the moment at which it starts, whether it succeeds or fails.  Work made of such steps takes no time
either, which is all that a run needs to know of a check to say when it ends.
-/

namespace Preflight

variable {α β : Type}

namespace Action

/-- The action ends at the moment at which it starts. -/
def Still (action : Action α) : Prop := ∀ clock, (action.runAt clock).2 = clock

theorem still_pure (value : α) : (pure value : Action α).Still := fun _ => rfl

theorem still_throw (fault : Fault) : (throw fault : Action α).Still := fun _ => rfl

theorem still_ofExcept (result : Except Fault α) : (ofExcept result).Still := fun _ => rfl

theorem still_stamp : stamp.Still := fun _ => rfl

theorem Still.bind {first : Action α} {next : α → Action β} (hfirst : first.Still)
    (hnext : ∀ value, (next value).Still) : (first >>= next).Still := by
  intro clock
  have hthen := hfirst clock
  rw [runAt_bind]
  cases hrun : first.runAt clock with
  | mk result later =>
    rw [hrun] at hthen
    cases hthen
    cases result with
    | ok value => exact hnext value later
    | error fault => rfl

theorem Still.tryCatch {action : Action α} {handler : Fault → Action α} (haction : action.Still)
    (hhandler : ∀ fault, (handler fault).Still) : (tryCatch action handler).Still := by
  intro clock
  have hthen := haction clock
  rw [runAt_tryCatch]
  cases hrun : action.runAt clock with
  | mk result later =>
    rw [hrun] at hthen
    cases hthen
    cases result with
    | ok value => rfl
    | error fault => exact hhandler fault later

end Action

open Preflight.Action

theorem Context.still_raiseIfExpired (context : Context) : context.raiseIfExpired.Still := by
  intro clock
  rw [runAt_raiseIfExpired]

/-! ## Readers -/

namespace Reader

variable {reader : Reader} {t : ResourceType}

/-- Listing takes no time. -/
def Still (reader : Reader) : Prop := ∀ t, (reader.list t).Still

theorem still_ofSnapshot (s : Snapshot) : (ofSnapshot s).Still :=
  fun t => still_ofExcept (s.list t)

theorem Still.listServed (hstill : reader.Still) (t : ResourceType) :
    (reader.listServed t).Still := by
  refine (hstill t).tryCatch fun fault => ?_
  cases fault with
  | typeNotServed text => exact still_pure []
  | _ => exact still_throw _

theorem Still.singleton (hstill : reader.Still) (t : ResourceType) :
    (reader.singleton t).Still := by
  refine (hstill.listServed t).bind fun found => ?_
  match found with
  | [] => exact still_throw _
  | [m] => exact still_pure m
  | m :: _ :: _ =>
    refine Action.Still.bind ?_ fun _ => still_pure m
    intro clock
    cases m.name <;> rfl

end Reader

/-! ## Checks -/

/-- The check answers at once, provided that what it asks is answered at once. -/
structure Check.Still (check : Check) : Prop where
  canApply : ∀ current target, (check.canApply current target).Still
  validate : ∀ context target, target.reader.Still → (check.validate context target).Still

namespace Catalog

variable {reader : Reader}

theorem still_singleton? (hstill : reader.Still) (t : ResourceType) :
    (singleton? reader t).Still := by
  refine ((hstill.singleton t).bind fun m => still_pure (some m)).tryCatch fun fault => ?_
  cases fault with
  | notFound type name scope => exact still_pure none
  | _ => exact still_throw _

theorem still_report (r : Result) (draft : Finding.Draft) : (report r draft).Still :=
  still_stamp.bind fun _ => still_pure _

theorem still_judgeBlock (r : Result) (target : Target) (m : Manifest) (path : String)
    (unconfigured : Finding.Draft) (finding : String → Finding.Draft) :
    (judgeBlock r target m path unconfigured finding).Still := by
  refine (still_ofExcept _).bind fun state => ?_
  cases state with
  | none => exact (still_report r _).bind fun _ => still_pure _
  | some state => exact (still_report _ _).bind fun _ => still_pure _

theorem still_kueue : kueue.Still where
  canApply _ _ := still_pure _
  validate _ target hstill := by
    refine (still_singleton? hstill _).bind fun found => ?_
    cases found with
    | none => exact (still_report _ _).bind fun _ => still_pure _
    | some m => exact still_judgeBlock _ target m _ _ _

theorem still_codeFlare : codeFlare.Still where
  canApply _ _ := still_pure _
  validate _ target hstill := by
    refine (still_singleton? hstill _).bind fun found => ?_
    cases found with
    | none => exact (still_report _ _).bind fun _ => still_pure _
    | some m =>
      refine (still_ofExcept _).bind fun state => ?_
      exact (still_report _ _).bind fun _ => still_pure _

theorem still_serviceMesh : serviceMesh.Still where
  canApply _ _ := still_pure _
  validate _ target hstill := by
    refine (still_singleton? hstill _).bind fun found => ?_
    cases found with
    | none => exact (still_report _ _).bind fun _ => still_pure _
    | some m => exact still_judgeBlock _ target m _ _ _

theorem still_certManager : certManager.Still where
  canApply _ _ := still_pure _
  validate _ target hstill := by
    refine (hstill.listServed _).bind fun subscriptions => ?_
    refine (still_ofExcept _).bind fun version => ?_
    exact (still_report _ _).bind fun _ => still_pure _

theorem still_rayFinalizer : rayFinalizer.Still where
  canApply _ _ := still_pure _
  validate _ target hstill := by
    refine (still_ofExcept _).bind fun key => ?_
    refine (still_ofExcept _).bind fun finalizers => ?_
    split
    · refine (still_ofExcept _).bind fun reference => ?_
      exact (still_report _ _).bind fun _ => still_pure _
    · exact (still_report _ _).bind fun _ => still_pure _

theorem still_notebookProfile : notebookProfile.Still where
  canApply _ _ := still_pure _
  validate context target hstill := by
    refine (still_ofExcept _).bind fun key => ?_
    refine (still_ofExcept _).bind fun annotations => ?_
    dsimp only
    split
    · refine (still_ofExcept _).bind fun reference => ?_
      refine context.still_raiseIfExpired.bind fun _ => ?_
      refine (hstill.listServed _).bind fun profiles => ?_
      refine (still_ofExcept _).bind fun names => ?_
      refine (still_ofExcept _).bind fun shown => ?_
      exact (still_report _ _).bind fun _ => still_pure _
    · exact (still_report _ _).bind fun _ => still_pure _

theorem still_of_mem {check : Check} (hmem : check ∈ checks) : check.Still := by
  simp only [checks, List.mem_cons, List.not_mem_nil, or_false] at hmem
  rcases hmem with rfl | rfl | rfl | rfl | rfl | rfl
  · exact still_kueue
  · exact still_codeFlare
  · exact still_serviceMesh
  · exact still_certManager
  · exact still_rayFinalizer
  · exact still_notebookProfile

end Catalog

end Preflight
