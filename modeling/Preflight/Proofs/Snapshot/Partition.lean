import Mathlib.Data.List.Nodup
import Preflight.Proofs.Grouping
import Preflight.Proofs.Snapshot.Served

/-!
# Served types divide a snapshot

Of objects that state their version and kind as texts, each type that is inferred covers the object
that it is inferred from, and it is only inferred if no earlier type covers that object.  So no two
served types cover the same objects, every object has its one type, and the listings of all served
types together are the snapshot.  The version must not start with a slash: the group in front of
that slash would be empty, and an empty group is left out with its slash.
-/

namespace Preflight

/-! ## What an object states and what a type covers -/

/-- The version and the kind of an object, if both are texts. -/
def Manifest.stated? (m : Manifest) : Option (String × String) :=
  match m.field? "apiVersion", m.field? "kind" with
  | some (.text version), some (.text kind) => some (version, kind)
  | _, _ => none

/-- The version and the kind that the objects of a type state. -/
def ResourceType.coverage (t : ResourceType) : String × String := (t.apiVersion, t.kind)

/-- The object states a version and a kind, and its group, if there is one, is not empty. -/
def Manifest.StatesType (m : Manifest) : Prop :=
  ∃ version kind, m.stated? = some (version, kind) ∧ version.toList.head? ≠ some '/'

variable {t : ResourceType} {m : Manifest}

theorem Manifest.stated?_eq_some_iff {version kind : String} :
    m.stated? = some (version, kind) ↔
      m.field? "apiVersion" = some (.text version) ∧ m.field? "kind" = some (.text kind) := by
  rw [stated?]
  split
  · rename_i hversion hkind
    rw [hversion, hkind]
    simp
  · rename_i hnone
    apply iff_of_false
    · simp
    · rintro ⟨hversion, hkind⟩
      exact hnone version kind hversion hkind

theorem ResourceType.covers_iff_stated : t.covers m = true ↔ m.stated? = some t.coverage :=
  covers_iff.trans Manifest.stated?_eq_some_iff.symm

namespace Snapshot

open ResourceType (coverage covers_iff_stated)

/-! ## Inferred types cover their objects -/

/-- A version that does not start with a slash is put together again from its parts. -/
theorem apiVersion_of_splitApiVersion {stated : String}
    (hsplit : splitApiVersion stated = (t.group, t.version))
    (hgroup : stated.toList.head? ≠ some '/') : t.apiVersion = stated := by
  rw [splitApiVersion] at hsplit
  rw [ResourceType.apiVersion]
  cases hlast : Text.splitLast? '/' stated.toList with
  | none =>
    rw [hlast] at hsplit
    obtain ⟨hnone, hversion⟩ := Prod.mk.inj hsplit
    rw [if_pos hnone.symm, hversion]
  | some parts =>
    obtain ⟨before, after⟩ := parts
    rw [hlast] at hsplit
    obtain ⟨hbefore, hafter⟩ := Prod.mk.inj hsplit
    have hstated := (Text.eq_append_of_splitLast? hlast).1
    have hnonempty : t.group ≠ "" := by
      rw [← hbefore, Ne, String.ofList_eq_empty_iff]
      rintro rfl
      exact hgroup (by rw [hstated]; rfl)
    rw [if_neg hnonempty, ← String.toList_inj, hstated, ← hbefore, ← hafter]
    simp [toString]

theorem covers_of_inferType (hstates : m.StatesType) (hinferred : inferType m = .ok t) :
    t.covers m = true := by
  obtain ⟨version, kind, hstated, hgroup⟩ := hstates
  obtain ⟨hversion, hkind⟩ := Manifest.stated?_eq_some_iff.1 hstated
  obtain ⟨found, hfound, hsplit, hsame⟩ := inferred_from hinferred
  rw [Manifest.fieldText_of_text hversion] at hfound
  cases hfound
  rw [Manifest.fieldText_of_text hkind] at hsame
  rw [covers_iff_stated, hstated, coverage, apiVersion_of_splitApiVersion hsplit hgroup,
    Except.ok.inj hsame]

/-! ## What is kept while objects are added -/

/-- The served types are the well-known ones and some that were inferred, no two of them cover the
same objects, and all of them together cover every object. -/
structure Sorted (s : Snapshot) : Prop where
  served : ∃ inferred, s.served = ResourceType.wellKnown ++ inferred ∧
    ∀ t ∈ inferred, ∃ m ∈ s.objects, inferType m = .ok t
  distinct : (s.served.map coverage).Nodup
  covered : ∀ m ∈ s.objects, ∃ t ∈ s.served, t.covers m = true

namespace Sorted

variable {s : Snapshot}

theorem empty : Sorted Snapshot.empty where
  served := ⟨[], rfl, List.forall_mem_nil _⟩
  distinct := by decide
  covered := List.forall_mem_nil _

theorem after_covered (hsorted : Sorted s) (hcovered : ∃ t ∈ s.served, t.covers m = true) :
    Sorted ⟨s.served, s.objects ++ [m]⟩ where
  served := by
    obtain ⟨inferred, hserved, hsources⟩ := hsorted.served
    refine ⟨inferred, hserved, fun t hmem => ?_⟩
    obtain ⟨source, hsource, hinferred⟩ := hsources t hmem
    exact ⟨source, List.mem_append_left _ hsource, hinferred⟩
  distinct := hsorted.distinct
  covered := List.forall_mem_append.2 ⟨hsorted.covered, List.forall_mem_singleton.2 hcovered⟩

/-- A type that is inferred covers what no earlier type does, so it differs from all of them. -/
theorem after_inferred (hsorted : Sorted s) (hstates : m.StatesType)
    (huncovered : ∀ known ∈ s.served, ¬known.covers m = true) (hinferred : inferType m = .ok t) :
    Sorted ⟨s.served ++ [t], s.objects ++ [m]⟩ where
  served := by
    obtain ⟨inferred, hserved, hsources⟩ := hsorted.served
    refine ⟨inferred ++ [t], by rw [hserved, List.append_assoc], ?_⟩
    refine List.forall_mem_append.2 ⟨?_, ?_⟩
    · intro earlier hmem
      obtain ⟨source, hsource, hfrom⟩ := hsources earlier hmem
      exact ⟨source, List.mem_append_left _ hsource, hfrom⟩
    · exact List.forall_mem_singleton.2 ⟨m, by simp, hinferred⟩
  distinct := by
    have hfresh : t.coverage ∉ s.served.map coverage := by
      intro hmem
      obtain ⟨known, hknown, hsame⟩ := List.mem_map.1 hmem
      apply huncovered known hknown
      rw [covers_iff_stated, hsame]
      exact covers_iff_stated.1 (covers_of_inferType hstates hinferred)
    rw [List.map_append, List.map_singleton, ← List.concat_eq_append]
    exact hsorted.distinct.concat hfresh
  covered := by
    refine List.forall_mem_append.2 ⟨?_, ?_⟩
    · intro earlier hmem
      obtain ⟨known, hknown, hcovers⟩ := hsorted.covered earlier hmem
      exact ⟨known, List.mem_append_left _ hknown, hcovers⟩
    · exact List.forall_mem_singleton.2 ⟨t, by simp, covers_of_inferType hstates hinferred⟩

theorem add {d : Document} {next : Snapshot} (hsorted : Sorted s)
    (hstates : ∀ m, manifest? d = some m → m.StatesType) (hadd : s.add true d = .ok next) :
    Sorted next := by
  rw [Snapshot.add] at hadd
  cases hmanifest : manifest? d with
  | none =>
    rw [hmanifest] at hadd
    cases hadd
  | some m =>
    simp only [hmanifest, Bool.true_and, Bool.not_eq_true'] at hadd
    split at hadd
    case isTrue hnone =>
      obtain ⟨t, hinferred, hnext⟩ := Fault.bind_eq_ok_iff.1 hadd
      cases hnext
      exact hsorted.after_inferred (hstates m hmanifest) (by simpa using hnone) hinferred
    case isFalse hsome =>
      cases hadd
      exact hsorted.after_covered (by simpa using hsome)

theorem addAll {documents : List Document} {last : Snapshot} (hsorted : Sorted s)
    (hstates : ∀ d ∈ documents, ∀ m, manifest? d = some m → m.StatesType)
    (hadd : s.addAll true documents = .ok last) : Sorted last := by
  induction documents generalizing s with
  | nil =>
    cases hadd
    exact hsorted
  | cons d rest ih =>
    obtain ⟨hfirst, hrest⟩ := List.forall_mem_cons.1 hstates
    rw [Snapshot.addAll] at hadd
    cases hnext : s.add true d with
    | error fault =>
      rw [hnext] at hadd
      cases hadd
    | ok next =>
      rw [hnext] at hadd
      exact ih (hsorted.add hfirst hnext) hrest hadd

/-! ## One type for each object -/

/-- A covered object has one served type, since two of them would cover the same objects. -/
theorem countP_covers (hsorted : Sorted s) (hmem : m ∈ s.objects) :
    s.served.countP (·.covers m) = 1 := by
  obtain ⟨t, hserved, hcovers⟩ := hsorted.covered m hmem
  have hstated := covers_iff_stated.1 hcovers
  have hsame (known : ResourceType) : known.covers m = (known.coverage == t.coverage) := by
    rw [Bool.eq_iff_iff, covers_iff_stated, hstated, Option.some_inj, beq_iff_eq, eq_comm]
  calc s.served.countP (·.covers m)
      = (s.served.map coverage).count t.coverage := by
        rw [List.count, List.countP_map]
        exact List.countP_congr fun known _ => by rw [hsame known]; rfl
    _ = 1 := List.count_eq_one_of_mem hsorted.distinct (List.mem_map_of_mem hserved)

/-- The listings of the served types are the objects, grouped by what they state. -/
theorem perm_listings (hsorted : Sorted s) :
    (s.served.map fun t => s.objects.filter (t.covers ·)).flatten.Perm s.objects := by
  have hnodup : (s.served.map (some ∘ coverage)).Nodup := by
    rw [← List.map_map]
    exact hsorted.distinct.map fun _ _ => Option.some.inj
  have hkeys : ∀ m ∈ s.objects, m.stated? ∈ s.served.map (some ∘ coverage) := by
    intro m hmem
    obtain ⟨t, hserved, hcovers⟩ := hsorted.covered m hmem
    exact List.mem_map.2 ⟨t, hserved, (covers_iff_stated.1 hcovers).symm⟩
  have hgrouped := Grouping.perm_flatMap_filter_of_mem Manifest.stated? hnodup hkeys
  have hgroup (t : ResourceType) : s.objects.filter (t.covers ·) =
      s.objects.filter (·.stated? == (some ∘ coverage) t) := by
    apply List.filter_congr
    intro m _
    rw [Bool.eq_iff_iff, beq_iff_eq]
    exact covers_iff_stated
  simp only [hgroup]
  rw [List.flatMap_map, List.flatMap_def] at hgrouped
  exact hgrouped

end Sorted

/-- The served types divide the objects: each object is of one of them, and listing all of them gives
each object once, those of a type in the order of the snapshot. -/
structure Divided (s : Snapshot) : Prop where
  served : ∃ inferred, s.served = ResourceType.wellKnown ++ inferred ∧
    ∀ t ∈ inferred, ∃ m ∈ s.objects, inferType m = .ok t
  distinct : (s.served.map coverage).Nodup
  once : ∀ m ∈ s.objects, s.served.countP (·.covers m) = 1
  listed : ∃ listings, s.served.mapM s.list = .ok listings ∧
    listings.flatten.Perm s.objects ∧ ∀ listing ∈ listings, listing.Sublist s.objects

theorem Sorted.divided {s : Snapshot} (hsorted : Sorted s) : Divided s where
  served := hsorted.served
  distinct := hsorted.distinct
  once _ hmem := hsorted.countP_covers hmem
  listed := by
    refine ⟨s.served.map fun t => s.objects.filter (t.covers ·), ?_, hsorted.perm_listings, ?_⟩
    · apply Fault.mapM_eq_ok_iff.2
      apply List.forall₂_map_right_iff.2
      exact List.forall₂_same.2 fun t hserved => list_of_served hserved
    · exact List.forall_mem_map.2 fun t _ => List.filter_sublist

/-- The snapshot of objects that state their version and kind is divided by its served types. -/
theorem divided_of_ofDocuments {documents : List Document} {s : Snapshot}
    (hread : ofDocuments documents none = .ok s)
    (hstated : ∀ d ∈ documents, ∃ version kind, d.get? "apiVersion" = some (.text version) ∧
      d.get? "kind" = some (.text kind) ∧ version.toList.head? ≠ some '/') :
    documents.map manifest? = s.objects.map some ∧ Divided s := by
  refine ⟨(grown_of_ofDocuments hread).2, Sorted.divided (Sorted.empty.addAll ?_ hread)⟩
  intro d hmem m hmanifest
  obtain ⟨version, kind, hversion, hkind, hgroup⟩ := hstated d hmem
  rw [manifest?] at hmanifest
  rw [Document.get?] at hversion hkind
  cases hentries : d.entries? with
  | none =>
    rw [hentries] at hversion
    cases hversion
  | some entries =>
    rw [hentries] at hversion hkind hmanifest
    dsimp only at hmanifest
    obtain ⟨-, hfound⟩ := Option.ite_none_right_eq_some.1 hmanifest
    cases hfound
    exact ⟨version, kind, Manifest.stated?_eq_some_iff.2 ⟨hversion, hkind⟩, hgroup⟩

/-- An object with a version and a kind and nothing else. -/
def plainObject (version kind : String) : Document :=
  .map [(.text "apiVersion", .text version), (.text "kind", .text kind)]

/-- Versions with several slashes and with nothing behind the last one keep to their own types. -/
theorem divided_of_ofDocuments_slashes :
    ∃ s, ofDocuments [plainObject "a//b" "K", plainObject "ray.io/v1" "RayCluster",
        plainObject "a/" "K", plainObject "a//b" "K"] none = .ok s ∧
      s.served.length = ResourceType.wellKnown.length + 2 ∧ Divided s := by
  generalize hread : ofDocuments _ none = result
  have hlength : result.toOption.map (·.served.length) =
      some (ResourceType.wellKnown.length + 2) := by
    rw [← hread]
    decide +kernel
  cases result with
  | error fault => cases hlength
  | ok s =>
    refine ⟨s, rfl, Option.some.inj hlength, (divided_of_ofDocuments hread ?_).2⟩
    simp [plainObject, Document.get?, Document.entries?, Document.opened, Document.field?]

end Snapshot

end Preflight
