import Mathlib.Data.List.TakeWhile
import Preflight.Command.Basic
import Preflight.Proofs.Snapshot.Places
import Preflight.Proofs.Snapshot.Served
import Preflight.Proofs.Snapshot.Untyped

/-!
# What is reported of a dump

A dump that is no list of objects is a defect of the input, but not every such dump is reported as
one.  Some make the walk to the objects fail, and some make inferring the type of an object fail.
What comes out then is decided by the first place, and after that by the first object, that does so.
-/

namespace Preflight

namespace Snapshot

/-! ## Rows of objects -/

variable {fault : Fault} {s : Snapshot} {objects : List Document}

theorem add_escapes_iff {d : Document} :
    (s.add true d = .error fault ∧ ¬fault.IsConfigDefect) ↔
      ∃ m, manifest? d = some m ∧ (∀ known ∈ s.served, ¬known.covers m) ∧ m.Untyped fault := by
  rw [add]
  cases hmanifest : manifest? d with
  | none =>
    constructor
    · rintro ⟨hfailed, hescapes⟩
      cases hfailed
      exact absurd ⟨_, rfl⟩ hescapes
    · rintro ⟨m, hsome, -⟩
      cases hsome
  | some m =>
    simp only [Option.some.injEq, exists_eq_left', Bool.true_and, Bool.not_eq_true']
    split
    case isTrue hnone =>
      have huncovered : ∀ known ∈ s.served, ¬known.covers m := by simpa using hnone
      have hfailed : (do return ⟨s.served ++ [← inferType m], s.objects ++ [m]⟩ :
          Except Fault Snapshot) = .error fault ↔ m.Untyped fault := by
        rw [← inferType_eq_error_iff]
        cases inferType m <;> simp [bind, Except.bind, pure, Except.pure]
      rw [hfailed]
      constructor
      · rintro ⟨huntyped, -⟩
        exact ⟨huncovered, huntyped⟩
      · rintro ⟨-, huntyped⟩
        exact ⟨huntyped, huntyped.not_isConfigDefect⟩
    case isFalse hsome =>
      constructor
      · rintro ⟨hfailed, -⟩
        cases hfailed
      · rintro ⟨huncovered, -⟩
        exact absurd (by simpa using huncovered) hsome

theorem addAll_append (openTypes : Bool) (s : Snapshot) (before after : List Document) :
    s.addAll openTypes (before ++ after) =
      s.addAll openTypes before >>= fun next => next.addAll openTypes after := by
  induction before generalizing s with
  | nil => rfl
  | cons d rest ih =>
    rw [List.cons_append, addAll, addAll]
    cases s.add openTypes d with
    | error fault => rfl
    | ok next => exact ih next

/-- Adding a row of objects fails at the first object that cannot be added. -/
theorem addAll_eq_error_iff {openTypes : Bool} :
    s.addAll openTypes objects = .error fault ↔
      ∃ before d after next, objects = before ++ d :: after ∧
        s.addAll openTypes before = .ok next ∧ next.add openTypes d = .error fault := by
  constructor
  · intro hfailed
    induction objects generalizing s with
    | nil => cases hfailed
    | cons d rest ih =>
      rw [addAll] at hfailed
      cases hadd : s.add openTypes d with
      | error found =>
        rw [hadd] at hfailed
        cases hfailed
        exact ⟨[], d, rest, s, rfl, rfl, hadd⟩
      | ok next =>
        rw [hadd] at hfailed
        obtain ⟨before, failing, after, last, horder, hbefore, hfails⟩ := ih hfailed
        refine ⟨d :: before, failing, after, last, congrArg (d :: ·) horder, ?_, hfails⟩
        rw [addAll, hadd]
        exact hbefore
  · rintro ⟨before, d, after, next, rfl, hbefore, hfails⟩
    rw [addAll_append, hbefore]
    show next.addAll openTypes (d :: after) = .error fault
    rw [addAll, hfails]

/-- Why a row of objects is no snapshot, though nothing says that it is no row of objects. -/
inductive Refused (fits : Document → Bool) (objects : List Document) : Fault → Prop where
  | untyped {before after : List Document} {d : Document} {s : Snapshot} {m : Manifest}
      {fault : Fault} (horder : objects = before ++ d :: after)
      (hfits : ∀ object ∈ before ++ [d], fits object) (hbefore : ofDocuments before none = .ok s)
      (hmanifest : manifest? d = some m) (huncovered : Uncovered s.objects m)
      (huntyped : m.Untyped fault) : Refused fits objects fault
  | deep {before after : List Document} {d : Document} {s : Snapshot}
      (horder : objects = before ++ d :: after) (hfits : ∀ object ∈ before, fits object)
      (hdeep : ¬fits d) (hbefore : ofDocuments before none = .ok s)
      (hmanifest : (manifest? d).isSome) : Refused fits objects .tooDeep

/-- Where every object fits, a row is refused for an object that no known type covers and whose own
type cannot be told. -/
theorem ofDocuments_escapes_iff :
    (ofDocuments objects none = .error fault ∧ ¬fault.IsConfigDefect) ↔
      Refused (fun _ => true) objects fault := by
  constructor
  · rintro ⟨hfailed, hescapes⟩
    obtain ⟨before, d, after, s, horder, hbefore, hfails⟩ := addAll_eq_error_iff.1 hfailed
    obtain ⟨m, hmanifest, huncovered, huntyped⟩ := add_escapes_iff.1 ⟨hfails, hescapes⟩
    have hgrown : Grown s := (grown_of_ofDocuments hbefore).1
    exact .untyped horder (fun _ _ => rfl) hbefore hmanifest (hgrown.uncovered_iff.2 huncovered)
      huntyped
  · intro hrefused
    cases hrefused with
    | @untyped before after d s m fault horder hfits hbefore hmanifest huncovered huntyped =>
      have hgrown : Grown s := (grown_of_ofDocuments hbefore).1
      obtain ⟨hfails, hescapes⟩ :=
        add_escapes_iff.2 ⟨m, hmanifest, hgrown.uncovered_iff.1 huncovered, huntyped⟩
      exact ⟨addAll_eq_error_iff.2 ⟨before, d, after, s, horder, hbefore, hfails⟩, hescapes⟩
    | deep horder hfits hdeep hbefore hmanifest => exact absurd rfl hdeep

/-- A row that is refused is refused with more objects behind it. -/
theorem Refused.append {fits : Document → Bool} {front : List Document}
    (hrefused : Refused (fun _ => true) front fault) (hfits : ∀ object ∈ front, fits object)
    (rest : List Document) : Refused fits (front ++ rest) fault := by
  cases hrefused with
  | @untyped before after d s m fault horder hall hbefore hmanifest huncovered huntyped =>
    have hrow : front ++ rest = before ++ d :: (after ++ rest) := by
      rw [horder, List.append_assoc, List.cons_append]
    refine .untyped hrow (fun object hmem => hfits object ?_) hbefore hmanifest huncovered huntyped
    rw [horder, List.append_cons]
    exact List.mem_append_left after hmem
  | deep horder hall hdeep hbefore hmanifest => exact absurd rfl hdeep

/-- Whether an object may be copied: it is not nested too deeply. -/
def isShallow (d : Document) : Bool := !exceeds deepest d

/-- What comes behind the shallow objects at the front starts with a deep one. -/
theorem not_isShallow_of_drop_eq_cons {d : Document} {after : List Document}
    (hrest : objects.drop (objects.takeWhile isShallow).length = d :: after) : ¬isShallow d := by
  have hrow := List.prefix_iff_eq_append.1 (List.takeWhile_prefix (l := objects) isShallow)
  have hfront : ∀ object ∈ objects.takeWhile isShallow, isShallow object :=
    fun _ => List.mem_takeWhile_imp
  rw [hrest] at hrow
  intro hshallow
  have hlonger := congrArg (List.takeWhile isShallow) hrow
  rw [List.takeWhile_append_of_pos hfront, List.takeWhile_cons_of_pos hshallow] at hlonger
  simp at hlonger

/-- The objects in front of the first deep one are looked at first, and then that one. -/
theorem ofShallow_eq_error_iff :
    ofShallow objects = .error fault ↔
      ofDocuments (objects.takeWhile isShallow) none = .error fault ∨
        ∃ s, ofDocuments (objects.takeWhile isShallow) none = .ok s ∧
          ∃ d after, objects.drop (objects.takeWhile isShallow).length = d :: after ∧
            fault = if (manifest? d).isSome then .tooDeep else .config .notAnObject := by
  apply Fault.bind_eq_error_iff.trans
  apply or_congr Iff.rfl
  apply exists_congr
  intro s
  apply and_congr_right
  intro hread
  have hfront : (objects.takeWhile fun d => !exceeds deepest d) = objects.takeWhile isShallow := rfl
  rw [hfront]
  cases objects.drop (objects.takeWhile isShallow).length with
  | nil =>
    apply iff_of_false
    · intro hthrown
      cases hthrown
    · rintro ⟨d, after, hrest, -⟩
      cases hrest
  | cons d after =>
    constructor
    · intro hthrown
      exact ⟨d, after, rfl, (Except.error.inj hthrown).symm⟩
    · rintro ⟨deep, rest, hrest, rfl⟩
      cases hrest
      rfl

/-- The objects of a JSON text are refused as others are, and also for one that is nested too
deeply. -/
theorem ofShallow_escapes_iff :
    (ofShallow objects = .error fault ∧ ¬fault.IsConfigDefect) ↔
      Refused isShallow objects fault := by
  rw [ofShallow_eq_error_iff]
  constructor
  · have hrow := List.prefix_iff_eq_append.1 (List.takeWhile_prefix (l := objects) isShallow)
    have hfront : ∀ object ∈ objects.takeWhile isShallow, isShallow object :=
      fun _ => List.mem_takeWhile_imp
    rintro ⟨hfailed | ⟨s, hread, d, after, hrest, rfl⟩, hescapes⟩
    · have hrefused := (ofDocuments_escapes_iff.1 ⟨hfailed, hescapes⟩).append hfront
      rw [← hrow]
      exact hrefused _
    have hdeep : ¬isShallow d := not_isShallow_of_drop_eq_cons hrest
    rw [hrest] at hrow
    cases hmanifest : (manifest? d).isSome with
    | false =>
      rw [hmanifest] at hescapes
      exact absurd ⟨_, rfl⟩ hescapes
    | true => exact .deep hrow.symm hfront hdeep hread hmanifest
  · intro hrefused
    cases hrefused with
    | @untyped before after d s m fault horder hall hbefore hmanifest huncovered huntyped =>
      have hfront : objects.takeWhile isShallow = before ++ d :: after.takeWhile isShallow := by
        rw [horder, List.append_cons, List.takeWhile_append_of_pos hall, ← List.append_cons]
      have hfailed := ofDocuments_escapes_iff.2
        (.untyped hfront (fun _ _ => rfl) hbefore hmanifest huncovered huntyped)
      exact ⟨.inl hfailed.1, hfailed.2⟩
    | @deep before after d s horder hall hdeep hbefore hmanifest =>
      have hfront : objects.takeWhile isShallow = before := by
        rw [horder, List.takeWhile_append_of_pos hall, List.takeWhile_cons_of_neg hdeep,
          List.append_nil]
      rw [hfront]
      refine ⟨.inr ⟨s, hbefore, d, after, ?_, (if_pos hmanifest).symm⟩, ?_⟩
      · rw [horder, List.drop_left]
      · rintro ⟨defect, hdefect⟩
        cases hdefect

/-! ## Dumps -/

theorem Place.Blocks.not_isConfigDefect {place : Place} (hblocks : place.Blocks fault) :
    ¬fault.IsConfigDefect := by
  rintro ⟨defect, rfl⟩
  cases hblocks

/-- The failures of a dump that are not put as defects: the walk to the objects is blocked, or it
comes to its end and the objects are refused. -/
inductive Escapes (fits : Document → Bool) (documents : List Document) : Fault → Prop where
  | place {before after : List Place} {place : Place} {fault : Fault}
      (horder : places [] documents = before ++ place :: after)
      (hbefore : ∀ earlier ∈ before, ∀ found, ¬earlier.Blocks found)
      (hblocks : place.Blocks fault) : Escapes fits documents fault
  | object {objects : List Document} {fault : Fault}
      (hobjects : objectsOf documents = .ok objects) (hrefused : Refused fits objects fault) :
      Escapes fits documents fault

/-- A dump makes loading fail in four other ways than with a defect. -/
theorem Escapes.kinds {fits : Document → Bool} {documents : List Document}
    (hescapes : Escapes fits documents fault) :
    fault = .tooDeep ∨ fault = Document.unwritable ∨
      ∃ kindName, fault = .kind (.notIterable kindName) ∨ fault = .noField kindName "get" := by
  cases hescapes with
  | place horder hbefore hblocks =>
    cases hblocks with
    | spread hmembers => exact .inr (.inr ⟨_, .inl rfl⟩)
    | endless => exact .inl rfl
  | object hobjects hrefused =>
    cases hrefused with
    | untyped horder hfits hbefore hmanifest huncovered huntyped =>
      cases huntyped with
      | stated hkey hfield hunwritten => exact .inr (.inl rfl)
      | metadata hversion hkind hfield hgiven hentries => exact .inr (.inr ⟨_, .inr rfl⟩)
      | scope hmetadata hfield hgiven hunwritten => exact .inr (.inl rfl)
    | deep horder hfits hdeep hbefore hmanifest => exact .inl rfl

theorem build_escapes_iff {documents : List Document} {fits : Document → Bool}
    {build : List Document → Except Fault Snapshot}
    (hbuild : ∀ objects, (build objects = .error fault ∧ ¬fault.IsConfigDefect) ↔
      Refused fits objects fault) :
    ((objectsOf documents >>= build) = .error fault ∧ ¬fault.IsConfigDefect) ↔
      Escapes fits documents fault := by
  have hwalk : objectsOf documents = .error fault ↔
      ∃ before place after, places [] documents = before ++ place :: after ∧
        (∀ earlier ∈ before, ∀ found, ¬earlier.Blocks found) ∧ place.Blocks fault := by
    rw [objectsOf_eq_gather, Place.gather_eq_error_iff]
  constructor
  · rintro ⟨hfailed, hescapes⟩
    rcases Fault.bind_eq_error_iff.1 hfailed with hblocked | ⟨objects, hobjects, hfailed⟩
    · obtain ⟨before, place, after, horder, hbefore, hblocks⟩ := hwalk.1 hblocked
      exact .place horder hbefore hblocks
    · exact .object hobjects ((hbuild objects).1 ⟨hfailed, hescapes⟩)
  · intro hescapes
    cases hescapes with
    | @place before after place fault horder hbefore hblocks =>
      have hblocked := hwalk.2 ⟨before, place, after, horder, hbefore, hblocks⟩
      exact ⟨Fault.bind_eq_error_iff.2 (.inl hblocked), hblocks.not_isConfigDefect⟩
    | @object objects fault hobjects hrefused =>
      obtain ⟨hfailed, hescapes⟩ := (hbuild objects).2 hrefused
      exact ⟨Fault.bind_eq_error_iff.2 (.inr ⟨objects, hobjects, hfailed⟩), hescapes⟩

/-! ## Files -/

/-- The documents that a text writes. -/
def documentsOf (path : Path) (text : String) : Except Flaw (List Document) :=
  if path.suffix = ".json" then (Json.read text).map ([·]) else Yaml.readAll text

/-- A file stands at a path, and the documents in it can be read. -/
def Holds (files : Files) (path : Path) (documents : List Document) : Prop :=
  ∃ content, files.entryAt path = .ok (some (.file content)) ∧
    documentsOf path (Files.textOf content) = .ok documents

/-- Whether an object of a dump is nested no deeper than it may be. -/
def fitsIn (path : Path) (d : Document) : Bool :=
  if path.suffix = ".json" then isShallow d else true

/-- The snapshot of the objects of a dump. -/
def ofObjects (path : Path) (objects : List Document) : Except Fault Snapshot :=
  if path.suffix = ".json" then ofShallow objects else ofDocuments objects none

theorem ofObjects_escapes_iff (path : Path) (objects : List Document) :
    (ofObjects path objects = .error fault ∧ ¬fault.IsConfigDefect) ↔
      Refused (fitsIn path) objects fault := by
  by_cases hjson : path.suffix = ".json"
  · have hfits : fitsIn path = isShallow := funext fun d => if_pos hjson
    rw [ofObjects, if_pos hjson, hfits]
    exact ofShallow_escapes_iff
  · have hfits : fitsIn path = fun _ => true := funext fun d => if_neg hjson
    rw [ofObjects, if_neg hjson, hfits]
    exact ofDocuments_escapes_iff

theorem load_of_holds {files : Files} {path : Path} {documents : List Document}
    (hholds : Holds files path documents) :
    load files path = objectsOf documents >>= ofObjects path := by
  obtain ⟨content, hentry, hread⟩ := hholds
  have hload : load files path = ofText path (Files.textOf content) := by
    rw [load, hentry]
    rfl
  rw [documentsOf] at hread
  by_cases hjson : path.suffix = ".json"
  · have hbuild : ofObjects path = ofShallow := funext fun objects => if_pos hjson
    rw [if_pos hjson] at hread
    obtain ⟨d, hd, rfl⟩ := Fault.map_eq_ok_iff.1 hread
    rw [hload, hbuild, ofText, if_pos hjson, hd]
    rfl
  · have hbuild : ofObjects path = (ofDocuments · none) := funext fun objects => if_neg hjson
    rw [if_neg hjson] at hread
    rw [hload, hbuild, ofText, if_neg hjson, hread]
    rfl

theorem load_escapes_iff {files : Files} {path : Path} {documents : List Document}
    (hholds : Holds files path documents) :
    (load files path = .error fault ∧ ¬fault.IsConfigDefect) ↔
      Escapes (fitsIn path) documents fault := by
  rw [load_of_holds hholds]
  exact build_escapes_iff (ofObjects_escapes_iff path)

end Snapshot

/-! ## Commands -/

namespace Command

open Snapshot (Holds Escapes fitsIn)

variable {files : Files} {settings : List Setting} {place : String} {documents : List Document}
variable {fault : Fault}

/-- A command line with an accepted configuration names a dump that can be read. -/
structure Dumps (files : Files) (settings : List Setting) (place : String)
    (documents : List Document) : Prop where
  config : ∃ c, effectiveConfig files settings = .ok c
  named : lastOf snapshotPath? settings = some (some place)
  holds : Holds files (Path.ofString place) documents

theorem prepareRun_eq_error_iff (hdumps : Dumps files settings place documents) :
    prepareRun files settings = .error fault ↔
      Snapshot.load files (Path.ofString place) = .error fault := by
  obtain ⟨c, hconfig⟩ := hdumps.config
  have hprepare : prepareRun files settings =
      (Snapshot.load files (Path.ofString place)).map ((c, ·)) := by
    rw [prepareRun, hconfig, hdumps.named]
    rfl
  rw [hprepare, Fault.map_eq_error_iff]

/-- A command catches what is not put as a defect only where it is a failure of a value. -/
theorem isUsersFault_of_escapes {fits : Document → Bool}
    (hescapes : Escapes fits documents fault) : isUsersFault fault = fault.isValueFault := by
  rcases hescapes.kinds with rfl | rfl | ⟨kindName, rfl | rfl⟩ <;> rfl

/-- Loading a dump makes a run end without an answer exactly when a failure that is neither put as a
defect nor one of a value comes out. -/
theorem runChecks_escapes_iff {clock : Clock} (hdumps : Dumps files settings place documents) :
    (prepareRun files settings = .error fault ∧ runChecks files clock settings = .error fault) ↔
      Escapes (fitsIn (Path.ofString place)) documents fault ∧ ¬fault.isValueFault := by
  have hload : (Snapshot.load files (Path.ofString place) = .error fault ∧
      ¬fault.IsConfigDefect) ↔ Escapes (fitsIn (Path.ofString place)) documents fault :=
    Snapshot.load_escapes_iff hdumps.holds
  rw [prepareRun_eq_error_iff hdumps]
  have hrun (hfailed : Snapshot.load files (Path.ofString place) = .error fault) :
      runChecks files clock settings =
        if isUsersFault fault then .ok (.failing fault) else .error fault := by
    rw [runChecks, (prepareRun_eq_error_iff hdumps).2 hfailed]
    rfl
  constructor
  · rintro ⟨hfailed, hunanswered⟩
    rw [hrun hfailed] at hunanswered
    have huncaught : ¬isUsersFault fault := by
      intro hcaught
      rw [if_pos hcaught] at hunanswered
      cases hunanswered
    have hescapes := hload.1 ⟨hfailed, by rintro ⟨defect, rfl⟩; exact huncaught rfl⟩
    rw [isUsersFault_of_escapes hescapes] at huncaught
    exact ⟨hescapes, huncaught⟩
  · rintro ⟨hescapes, hother⟩
    have hfailed := (hload.2 hescapes).1
    rw [← isUsersFault_of_escapes hescapes] at hother
    exact ⟨hfailed, (hrun hfailed).trans (if_neg hother)⟩

end Command

namespace Snapshot

/-- Which failures that are no defects come out of building a snapshot, of loading it from a file,
and of a run that loads it. -/
theorem loading_escapes_iff (documents : List Document) (fault : Fault) :
    (((objectsOf documents >>= (ofDocuments · none)) = .error fault ∧ ¬fault.IsConfigDefect) ↔
      Escapes (fun _ => true) documents fault) ∧
    (∀ files path, (Holds files path documents ∧ load files path = .error fault ∧
        ¬fault.IsConfigDefect) ↔
      Holds files path documents ∧ Escapes (fitsIn path) documents fault) ∧
    ∀ files clock settings place, (Command.Dumps files settings place documents ∧
        Command.prepareRun files settings = .error fault ∧
        Command.runChecks files clock settings = .error fault) ↔
      Command.Dumps files settings place documents ∧
        Escapes (fitsIn (Path.ofString place)) documents fault ∧ ¬fault.isValueFault :=
  ⟨build_escapes_iff fun _ => ofDocuments_escapes_iff, fun _ _ => and_congr_right load_escapes_iff,
    fun _ _ _ _ => and_congr_right Command.runChecks_escapes_iff⟩

/-- A number under the items of a listing is gone through, and a text in the place of metadata is
asked for a namespace. -/
theorem malformed_escape :
    (objectsOf [.map [(.text "kind", .text "List"), (.text "items", .int 5)]] >>=
        (ofDocuments · none)) = .error (.kind (.notIterable "int")) ∧
      (objectsOf [.map [(.text "apiVersion", .text "v1"), (.text "kind", .text "Pod"),
        (.text "metadata", .text "x")]] >>= (ofDocuments · none)) = .error (.noField "str" "get") ∧
      ¬(Fault.kind (.notIterable "int")).IsConfigDefect ∧
      ¬(Fault.noField "str" "get").IsConfigDefect := by
  refine ⟨rfl, rfl, ?_, ?_⟩
  all_goals
    rintro ⟨defect, hdefect⟩
    cases hdefect

end Snapshot

end Preflight
