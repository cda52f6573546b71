import Preflight.Proofs.Snapshot.Bundle
import Preflight.Proofs.Snapshot.Partition
import Preflight.Proofs.Snapshot.Reported

/-!
# The shapes of a dump

A dump with many documents, one listing and an array are different bundles of the same objects.  The
snapshot is built from the objects alone, and so it does not tell the shapes apart.
-/

namespace Preflight

namespace Snapshot

variable {objects documents others : List Document} {files : Files} {path other : Path}

/-! ## Building -/

/-- Only where an object is nested too deeply does it matter that a JSON text has its objects
copied. -/
theorem ofShallow_eq_or (objects : List Document) :
    ofShallow objects = ofDocuments objects none ∨
      (∃ d ∈ objects, ¬isShallow d) ∧ ofShallow objects = .error .tooDeep := by
  have hfront : (objects.takeWhile fun d => !exceeds deepest d) = objects.takeWhile isShallow := rfl
  have hrow := List.prefix_iff_eq_append.1 (List.takeWhile_prefix (l := objects) isShallow)
  rw [ofShallow, hfront]
  cases hrest : objects.drop (objects.takeWhile isShallow).length with
  | nil =>
    rw [hrest, List.append_nil] at hrow
    rw [hrow]
    exact .inl (bind_pure _)
  | cons d after =>
    have hdeep : ¬isShallow d := not_isShallow_of_drop_eq_cons hrest
    rw [hrest] at hrow
    have hmem : d ∈ objects := by
      rw [← hrow]
      exact List.mem_append_right _ List.mem_cons_self
    have hwhole : ofDocuments objects none =
        ofDocuments (objects.takeWhile isShallow) none >>= fun s => s.addAll true (d :: after) := by
      conv_lhs => rw [← hrow]
      exact addAll_append true _ _ _
    rw [hwhole]
    cases ofDocuments (objects.takeWhile isShallow) none with
    | error fault => exact .inl rfl
    | ok s =>
      simp only [bind, Except.bind, addAll, add]
      cases manifest? d with
      | none => exact .inl rfl
      | some m => exact .inr ⟨⟨d, hmem, hdeep⟩, rfl⟩

theorem ofObjects_eq_or (path other : Path) (objects : List Document) :
    ofObjects path objects = ofObjects other objects ∨
      (∃ d ∈ objects, ¬isShallow d) ∧
        (ofObjects path objects = .error .tooDeep ∨ ofObjects other objects = .error .tooDeep) := by
  rw [ofObjects, ofObjects]
  by_cases hjson : path.suffix = ".json"
  · by_cases hother : other.suffix = ".json"
    · rw [if_pos hjson, if_pos hother]
      exact .inl rfl
    · rw [if_pos hjson, if_neg hother]
      exact (ofShallow_eq_or objects).imp id (And.imp id .inl)
  · by_cases hother : other.suffix = ".json"
    · rw [if_neg hjson, if_pos hother]
      exact (ofShallow_eq_or objects).imp Eq.symm (And.imp id .inr)
    · rw [if_neg hjson, if_neg hother]
      exact .inl rfl

/-- Dumps with the same documents in other bundles load alike. -/
theorem load_regrouped (hregrouped : Regrouped documents others) (hholds : Holds files path documents)
    (hothers : Holds files other others) :
    load files path = load files other ∨
      ∃ objects, objectsOf documents = .ok objects ∧ (∃ d ∈ objects, ¬isShallow d) ∧
        (load files path = .error .tooDeep ∨ load files other = .error .tooDeep) := by
  rw [load_of_holds hholds, load_of_holds hothers, ← objectsOf_regrouped hregrouped]
  cases objectsOf documents with
  | error fault => exact .inl rfl
  | ok objects =>
    exact (ofObjects_eq_or path other objects).imp id fun hdeep => ⟨objects, rfl, hdeep⟩

/-! ## Shapes -/

/-- Flattening goes along a row of documents, does not depend on how they are bundled, and finds the
objects of regular documents: each of them once, in the order of their places, and nothing else.  So
a dump is loaded alike in each of its shapes, unless an object of it is nested too deeply to be
copied. -/
theorem objectsOf_shapes :
    (∀ left right, objectsOf (left ++ right) =
      do return (← objectsOf left) ++ (← objectsOf right)) ∧
    (∀ documents others, Regrouped documents others → objectsOf documents = objectsOf others) ∧
    (∀ documents, (∀ d ∈ documents, Regular d) →
      ∃ objects, objectsOf documents = .ok objects ∧ (∀ d ∈ objects, IsObject d) ∧
        Collects (StandsIn documents) objects ∧ objectsOf objects = .ok objects) ∧
    ∀ files path other documents others, Regrouped documents others →
      Holds files path documents → Holds files other others →
        load files path = load files other ∨
          ∃ objects, objectsOf documents = .ok objects ∧ (∃ d ∈ objects, ¬isShallow d) ∧
            (load files path = .error .tooDeep ∨ load files other = .error .tooDeep) := by
  refine ⟨flatten_append [], fun _ _ => objectsOf_regrouped, ?_, fun _ _ _ _ _ => load_regrouped⟩
  intro documents hregular
  obtain ⟨objects, hobjects, hall, hcollects⟩ := finds_flatten fun d hmem => (hregular d hmem).finds
  exact ⟨objects, hobjects, hall, hcollects, objectsOf_of_forall_isObject hall⟩

/-- Files with two plain objects, as an array in each JSON text and as the documents of each other
text. -/
def plainFiles : Files where
  workingDirectory := Path.ofString "/work"
  entryAt path := .ok (some (.file (
    if path.suffix = ".json" then
      "[\x7b\"apiVersion\": \"v\", \"kind\": \"A\"\x7d, " ++
        "\x7b\"apiVersion\": \"v\", \"kind\": \"B\"\x7d]"
    else "apiVersion: v\nkind: A\n---\napiVersion: v\nkind: B\n")))

/-- The version and the kind of an object that states nothing else. -/
def plain? : Document → Option (String × String)
  | .map [(.text first, .text version), (.text second, .text kind)] =>
    if first = "apiVersion" ∧ second = "kind" then some (version, kind) else none
  | _ => none

def plainItems? : Document → Option (List (Option (String × String)))
  | .list items => some (items.map plain?)
  | _ => none

theorem eq_plainObject_of_plain? {d : Document} {version kind : String}
    (hplain : plain? d = some (version, kind)) : d = plainObject version kind := by
  unfold plain? at hplain
  split at hplain
  · obtain ⟨⟨rfl, rfl⟩, hsame⟩ := Option.ite_none_right_eq_some.1 hplain
    cases hsame
    rfl
  · cases hplain

theorem eq_plainObjects_of_map {items : List Document}
    (hplain : items.map plain? = [some ("v", "A"), some ("v", "B")]) :
    items = [plainObject "v" "A", plainObject "v" "B"] := by
  obtain ⟨first, rest, rfl, hfirst, hrest⟩ := List.map_eq_cons_iff.1 hplain
  obtain ⟨second, last, rfl, hsecond, hlast⟩ := List.map_eq_cons_iff.1 hrest
  rw [eq_plainObject_of_plain? hfirst, eq_plainObject_of_plain? hsecond, List.map_eq_nil_iff.1 hlast]

theorem holds_rows : Holds plainFiles (Path.ofString "rows.yaml")
    [plainObject "v" "A", plainObject "v" "B"] := by
  refine ⟨_, rfl, ?_⟩
  generalize hread : documentsOf _ _ = result
  have hplain : result.toOption.map (·.map plain?) = some [some ("v", "A"), some ("v", "B")] := by
    rw [← hread]
    decide +kernel
  cases result with
  | error flaw => cases hplain
  | ok items => exact congrArg _ (eq_plainObjects_of_map (Option.some.inj hplain))

theorem holds_array : Holds plainFiles (Path.ofString "rows.json")
    [.list [plainObject "v" "A", plainObject "v" "B"]] := by
  refine ⟨_, rfl, ?_⟩
  generalize hread : documentsOf _ _ = result
  have hplain : result.toOption.map (·.map plainItems?) =
      some [some [some ("v", "A"), some ("v", "B")]] := by
    rw [← hread]
    decide +kernel
  cases result with
  | error flaw => cases hplain
  | ok documents =>
    obtain ⟨d, rest, rfl, hd, hrest⟩ := List.map_eq_cons_iff.1 (Option.some.inj hplain)
    cases List.map_eq_nil_iff.1 hrest
    cases d with
    | list items => rw [eq_plainObjects_of_map (Option.some.inj hd)]
    | _ => cases hd

theorem regular_plainObject {version kind : String} (hkind : kind ≠ "List") :
    Regular (plainObject version kind) := by
  apply Regular.object
  show decide (kind = "List") = false
  exact decide_eq_false hkind

/-- A listing with an empty document and a list in it holds the objects of the list, and two objects
load alike as the documents of a text and as an array. -/
theorem objectsOf_shapes_plain :
    (∃ objects, objectsOf [listing [.null, .list [plainObject "v" "A", plainObject "v" "B"]]] =
        .ok objects ∧
      Collects (StandsIn [listing [.null, .list [plainObject "v" "A", plainObject "v" "B"]]])
        objects) ∧
    objectsOf [plainObject "v" "A", plainObject "v" "B"] =
      objectsOf [listing [plainObject "v" "A", plainObject "v" "B"]] ∧
    load plainFiles (Path.ofString "rows.yaml") = load plainFiles (Path.ofString "rows.json") := by
  obtain ⟨-, hregrouped, hcollected, hload⟩ := objectsOf_shapes
  have hlist : Regular (.list [plainObject "v" "A", plainObject "v" "B"]) := by
    apply Regular.bundle (.list _)
    exact List.forall_mem_cons.2 ⟨regular_plainObject (by decide),
      List.forall_mem_singleton.2 (regular_plainObject (by decide))⟩
  have hlisting : Regular (listing [.null, .list [plainObject "v" "A", plainObject "v" "B"]]) := by
    apply Regular.bundle (bundles_listing _)
    exact List.forall_mem_cons.2 ⟨.null, List.forall_mem_singleton.2 hlist⟩
  refine ⟨?_, hregrouped _ _ (regrouped_of_bundles (bundles_listing _)), ?_⟩
  · obtain ⟨objects, hobjects, -, hcollects, -⟩ :=
      hcollected [_] (List.forall_mem_singleton.2 hlisting)
    exact ⟨objects, hobjects, hcollects⟩
  · rcases hload plainFiles _ _ _ _ (regrouped_of_bundles (.list _)) holds_rows holds_array with
      hsame | ⟨objects, hobjects, ⟨d, hmem, hdeep⟩, -⟩
    · exact hsame
    · cases hobjects
      apply absurd _ hdeep
      rcases hmem with _ | ⟨_, _ | ⟨_, ⟨⟩⟩⟩
      · rfl
      · rfl

end Snapshot

end Preflight
