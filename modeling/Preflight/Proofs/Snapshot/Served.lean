import Preflight.Proofs.Action
import Preflight.Snapshot.Basic

/-!
# Which types a snapshot serves

A type covers the objects that state its version and kind, whatever its plural and its scope.  A
snapshot whose served types are open serves the well-known types and, for each further version and
kind, the one type that it infers from the first object.  A listing asks for a type with all its
parts, so another type that covers the same objects is not served.
-/

namespace Preflight

namespace Manifest

theorem fieldIs_iff {m : Manifest} {key value : String} :
    m.fieldIs key value = true ↔ m.field? key = some (.text value) := by
  rw [fieldIs]
  cases m.field? key with
  | none => simp
  | some d => cases d <;> simp [Document.isText]

theorem fieldText_of_text {m : Manifest} {key value : String}
    (hfield : m.field? key = some (.text value)) : m.fieldText key = .ok value := by
  rw [fieldText, hfield]
  rfl

end Manifest

namespace ResourceType

variable {t known : ResourceType} {m : Manifest}

theorem covers_iff : t.covers m = true ↔
    m.field? "apiVersion" = some (.text t.apiVersion) ∧ m.field? "kind" = some (.text t.kind) := by
  rw [covers, Bool.and_eq_true, Manifest.fieldIs_iff, Manifest.fieldIs_iff]

/-- The types state the same version and kind, so they cover the same objects. -/
structure Agrees (known t : ResourceType) : Prop where
  apiVersion : known.apiVersion = t.apiVersion
  kind : known.kind = t.kind

theorem Agrees.covers_eq (hagrees : known.Agrees t) (m : Manifest) :
    known.covers m = t.covers m := by
  rw [covers, covers, hagrees.apiVersion, hagrees.kind]

theorem agrees_of_covers (hknown : known.covers m) (hcovers : t.covers m) : known.Agrees t := by
  obtain ⟨hversion, hkind⟩ := covers_iff.1 hknown
  obtain ⟨hversion', hkind'⟩ := covers_iff.1 hcovers
  refine ⟨?_, ?_⟩
  · simpa using hversion.symm.trans hversion'
  · simpa using hkind.symm.trans hkind'

/-- The version has no part of a group in it. -/
def Plain (t : ResourceType) : Prop := '/' ∉ t.version.toList

instance (t : ResourceType) : Decidable t.Plain := inferInstanceAs (Decidable (_ ∉ _))

theorem plain_of_wellKnown : ∀ t ∈ wellKnown, t.Plain := by decide

end ResourceType

namespace Snapshot

open ResourceType

variable {t known : ResourceType} {m : Manifest}

/-! ## Inferring a type -/

theorem splitApiVersion_apiVersion (hplain : t.Plain) :
    splitApiVersion t.apiVersion = (t.group, t.version) := by
  rw [splitApiVersion, ResourceType.apiVersion]
  by_cases hgroup : t.group = ""
  · rw [if_pos hgroup, Text.splitLast?_eq_none_iff.2 hplain, hgroup]
  · have hparts : (s!"{t.group}/{t.version}").toList =
        t.group.toList ++ '/' :: t.version.toList := by simp [toString]
    rw [if_neg hgroup, hparts, Text.splitLast?_append_cons _ hplain]
    simp

theorem inferred_from (hinferred : inferType m = .ok t) :
    ∃ stated, m.fieldText "apiVersion" = .ok stated ∧
      splitApiVersion stated = (t.group, t.version) ∧ m.fieldText "kind" = .ok t.kind := by
  obtain ⟨stated, hstated, hrest⟩ := Fault.bind_eq_ok_iff.1 hinferred
  obtain ⟨kind, hkind, hrest⟩ := Fault.bind_eq_ok_iff.1 hrest
  obtain ⟨scope, -, hrest⟩ := Fault.bind_eq_ok_iff.1 hrest
  cases hrest
  exact ⟨stated, hstated, rfl, hkind⟩

theorem plain_of_inferType (hinferred : inferType m = .ok t) : t.Plain := by
  obtain ⟨stated, -, hsplit, -⟩ := inferred_from hinferred
  rw [splitApiVersion] at hsplit
  cases hlast : Text.splitLast? '/' stated.toList with
  | none =>
    rw [hlast] at hsplit
    obtain ⟨-, hversion⟩ := Prod.mk.inj hsplit
    rw [Plain, ← hversion]
    exact Text.splitLast?_eq_none_iff.1 hlast
  | some parts =>
    rw [hlast] at hsplit
    obtain ⟨-, hversion⟩ := Prod.mk.inj hsplit
    rw [Plain, ← hversion, String.toList_ofList]
    exact (Text.eq_append_of_splitLast? hlast).2

/-- A plain type agrees with the type that is inferred from an object that it covers. -/
theorem agrees_of_inferType (hplain : t.Plain) (hcovers : t.covers m)
    (hinferred : inferType m = .ok known) : known.Agrees t := by
  obtain ⟨hversion, hkind⟩ := covers_iff.1 hcovers
  obtain ⟨stated, hstated, hsplit, hknown⟩ := inferred_from hinferred
  rw [Manifest.fieldText_of_text hversion] at hstated
  cases hstated
  rw [Manifest.fieldText_of_text hkind] at hknown
  rw [splitApiVersion_apiVersion hplain] at hsplit
  obtain ⟨hgroup, hversions⟩ := Prod.mk.inj hsplit
  refine ⟨?_, (Except.ok.inj hknown).symm⟩
  rw [ResourceType.apiVersion, ResourceType.apiVersion, hgroup, hversions]

/-! ## The types that a row of objects brings with it -/

/-- No type covers the object, be it well known or inferred from one of the others. -/
def Uncovered (objects : List Manifest) (m : Manifest) : Prop :=
  (∀ known ∈ wellKnown, ¬known.covers m) ∧
    ∀ earlier ∈ objects, ∀ known, inferType earlier = .ok known → ¬known.covers m

/-- The type is inferred from an object that was not covered when its turn came. -/
def Introduced (t : ResourceType) (objects : List Manifest) : Prop :=
  ∃ before m after, objects = before ++ m :: after ∧ inferType m = .ok t ∧ Uncovered before m

def Recognised (t : ResourceType) (objects : List Manifest) : Prop :=
  t ∈ wellKnown ∨ Introduced t objects

theorem introduced_append_iff {objects : List Manifest} :
    Introduced t (objects ++ [m]) ↔
      Introduced t objects ∨ inferType m = .ok t ∧ Uncovered objects m := by
  constructor
  · rintro ⟨before, first, after, hobjects, hinferred, huncovered⟩
    rcases List.eq_nil_or_concat after with rfl | ⟨between, last, rfl⟩
    · obtain ⟨rfl, hlast⟩ := List.append_inj' hobjects rfl
      cases hlast
      exact .inr ⟨hinferred, huncovered⟩
    · have hsplit : objects ++ [m] = (before ++ first :: between) ++ [last] := by
        rw [hobjects, List.concat_eq_append, List.append_assoc, List.cons_append]
      obtain ⟨rfl, -⟩ := List.append_inj' hsplit rfl
      exact .inl ⟨before, first, between, rfl, hinferred, huncovered⟩
  · rintro (⟨before, first, after, rfl, hinferred, huncovered⟩ | ⟨hinferred, huncovered⟩)
    · exact ⟨before, first, after ++ [m], by simp, hinferred, huncovered⟩
    · exact ⟨objects, m, [], rfl, hinferred, huncovered⟩

/-- What is kept while objects are added. -/
structure Grown (s : Snapshot) : Prop where
  served_iff : ∀ t, t ∈ s.served ↔ Recognised t s.objects
  covered : ∀ m ∈ s.objects,
    (∃ known ∈ s.served, known.covers m) ∨ ∃ t ∈ s.served, inferType m = .ok t

theorem Recognised.plain {objects : List Manifest} (hrecognised : Recognised t objects) :
    t.Plain := by
  rcases hrecognised with hknown | ⟨before, m, after, -, hinferred, -⟩
  · exact plain_of_wellKnown t hknown
  · exact plain_of_inferType hinferred

namespace Grown

variable {s : Snapshot}

theorem empty : Grown Snapshot.empty where
  served_iff t := by simp [Snapshot.empty, Recognised, Introduced]
  covered := by simp [Snapshot.empty]

/-- A plain type that covers one of the objects has a served type beside it. -/
theorem exists_served (hgrown : Grown s) (hplain : t.Plain) (hmem : m ∈ s.objects)
    (hcovers : t.covers m) : ∃ known ∈ s.served, known.Agrees t := by
  rcases hgrown.covered m hmem with ⟨known, hknown, hsame⟩ | ⟨known, hknown, hinferred⟩
  · exact ⟨known, hknown, agrees_of_covers hsame hcovers⟩
  · exact ⟨known, hknown, agrees_of_inferType hplain hcovers hinferred⟩

/-- The served types cover the objects that are covered by a well-known type or by a type that is
inferred from some object, whether or not that type was needed. -/
theorem uncovered_iff (hgrown : Grown s) :
    Uncovered s.objects m ↔ ∀ known ∈ s.served, ¬known.covers m := by
  constructor
  · rintro ⟨hwellKnown, hinferred⟩ known hserved
    rcases (hgrown.served_iff known).1 hserved with hknown | hintroduced
    · exact hwellKnown known hknown
    · obtain ⟨before, first, after, hobjects, hfirst, -⟩ := hintroduced
      exact hinferred first (by simp [hobjects]) known hfirst
  · intro hnone
    refine ⟨fun known hknown => hnone known ((hgrown.served_iff known).2 (.inl hknown)), ?_⟩
    intro earlier hmem known hinferred hcovers
    rcases hgrown.covered earlier hmem with ⟨other, hother, hsame⟩ | ⟨other, hother, hagain⟩
    · have hagrees := agrees_of_inferType ((hgrown.served_iff other).1 hother).plain hsame hinferred
      exact hnone other hother (hagrees.covers_eq m ▸ hcovers)
    · cases hinferred.symm.trans hagain
      exact hnone known hother hcovers

theorem after_covered (hgrown : Grown s) (hcovered : ∃ known ∈ s.served, known.covers m) :
    Grown ⟨s.served, s.objects ++ [m]⟩ where
  served_iff t := by
    rw [hgrown.served_iff, Recognised, Recognised, introduced_append_iff]
    have hnot : ¬Uncovered s.objects m := by
      rw [hgrown.uncovered_iff]
      obtain ⟨known, hknown, hcovers⟩ := hcovered
      exact fun hnone => hnone known hknown hcovers
    simp [hnot]
  covered other hmem := by
    rcases List.mem_append.1 hmem with hold | hnew
    · exact hgrown.covered other hold
    · cases List.mem_singleton.1 hnew
      exact .inl hcovered

theorem after_introduced (hgrown : Grown s) (huncovered : ∀ known ∈ s.served, ¬known.covers m)
    (hinferred : inferType m = .ok known) : Grown ⟨s.served ++ [known], s.objects ++ [m]⟩ where
  served_iff t := by
    have hnew : Uncovered s.objects m := hgrown.uncovered_iff.2 huncovered
    rw [List.mem_append, hgrown.served_iff, Recognised, Recognised, introduced_append_iff,
      or_assoc, hinferred]
    simp [hnew, eq_comm]
  covered other hmem := by
    rcases List.mem_append.1 hmem with hold | hnew
    · refine (hgrown.covered other hold).imp ?_ ?_
      · exact fun ⟨known, hknown, hcovers⟩ => ⟨known, List.mem_append_left _ hknown, hcovers⟩
      · exact fun ⟨known, hknown, hagain⟩ => ⟨known, List.mem_append_left _ hknown, hagain⟩
    · cases List.mem_singleton.1 hnew
      exact .inr ⟨known, by simp, hinferred⟩

/-- Adding an object keeps the served types to those that the objects bring with them. -/
theorem add {d : Document} {next : Snapshot} (hgrown : Grown s) (hadd : s.add true d = .ok next) :
    Grown next ∧ ∃ m, manifest? d = some m ∧ next.objects = s.objects ++ [m] := by
  rw [Snapshot.add] at hadd
  cases hmanifest : manifest? d with
  | none =>
    rw [hmanifest] at hadd
    cases hadd
  | some m =>
    simp only [hmanifest, Bool.true_and, Bool.not_eq_true'] at hadd
    split at hadd
    case isTrue hnone =>
      obtain ⟨known, hinferred, hnext⟩ := Fault.bind_eq_ok_iff.1 hadd
      cases hnext
      exact ⟨hgrown.after_introduced (by simpa using hnone) hinferred, m, rfl, rfl⟩
    case isFalse hsome =>
      cases hadd
      exact ⟨hgrown.after_covered (by simpa using hsome), m, rfl, rfl⟩

theorem addAll {documents : List Document} {last : Snapshot} (hgrown : Grown s)
    (hadd : s.addAll true documents = .ok last) :
    Grown last ∧
      ∃ added, documents.map manifest? = added.map some ∧ last.objects = s.objects ++ added := by
  induction documents generalizing s with
  | nil =>
    cases hadd
    exact ⟨hgrown, [], rfl, by simp⟩
  | cons d rest ih =>
    rw [Snapshot.addAll] at hadd
    cases hfirst : s.add true d with
    | error fault =>
      rw [hfirst] at hadd
      cases hadd
    | ok next =>
      rw [hfirst] at hadd
      obtain ⟨hnext, m, hmanifest, hobjects⟩ := hgrown.add hfirst
      obtain ⟨hlast, added, hadded, hall⟩ := ih hnext hadd
      refine ⟨hlast, m :: added, ?_, ?_⟩
      · rw [List.map_cons, List.map_cons, hmanifest, hadded]
      · rw [hall, hobjects, List.append_assoc, List.singleton_append]

end Grown

theorem grown_of_ofDocuments {documents : List Document} {s : Snapshot}
    (hread : ofDocuments documents none = .ok s) :
    Grown s ∧ documents.map manifest? = s.objects.map some := by
  obtain ⟨hgrown, added, hadded, hobjects⟩ := Grown.empty.addAll hread
  refine ⟨hgrown, ?_⟩
  rw [hobjects]
  exact hadded

/-! ## Listing a type -/

/-- What a check gets to see of a type: nothing when the type is not served. -/
def instances (s : Snapshot) (t : ResourceType) : List Manifest :=
  match s.list t with
  | .ok found => found
  | .error _ => []

theorem list_of_served {s : Snapshot} (hserved : t ∈ s.served) :
    s.list t = .ok (s.objects.filter (t.covers ·)) := by
  rw [list, if_pos (List.contains_iff_mem.2 hserved)]

theorem list_of_unserved {s : Snapshot} (hunserved : t ∉ s.served) :
    s.list t = .error (.typeNotServed t.text) := by
  rw [list, if_neg (mt List.contains_iff_mem.1 hunserved)]

theorem list_eq_error_iff {s : Snapshot} {fault : Fault} :
    s.list t = .error fault ↔ t ∉ s.served ∧ fault = .typeNotServed t.text := by
  by_cases hserved : t ∈ s.served
  · simp [list_of_served hserved, hserved]
  · simp [list_of_unserved hserved, hserved, eq_comm]

/-- Whatever a check gets to see is an object of the snapshot that the type covers. -/
theorem mem_of_mem_instances {s : Snapshot} (hmem : m ∈ s.instances t) :
    m ∈ s.objects ∧ t.covers m = true := by
  rw [instances] at hmem
  by_cases hserved : t ∈ s.served
  · rw [list_of_served hserved] at hmem
    exact List.mem_filter.1 hmem
  · rw [list_of_unserved hserved] at hmem
    cases hmem

/-- Of a well-known type, a snapshot of objects offers all that the type covers. -/
theorem instances_of_wellKnown {documents : List Document} {s : Snapshot}
    (hread : ofDocuments documents none = .ok s) (hknown : t ∈ ResourceType.wellKnown) :
    s.instances t = s.objects.filter (t.covers ·) := by
  have hserved : t ∈ s.served := ((grown_of_ofDocuments hread).1.served_iff t).2 (.inl hknown)
  rw [instances, list_of_served hserved]

end Snapshot

end Preflight
