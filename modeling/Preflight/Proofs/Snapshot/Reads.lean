import Preflight.Check.Reader
import Preflight.Proofs.Manifest.Unwritten
import Preflight.Proofs.Snapshot.Served

/-!
# One object and all objects of a type

A type is read in three ways: all its objects, one of them by its name, and the one of a type that
has one.  The three agree: what is read alone is the first one listed of which the name and the
namespace are right, or just the first one, and a type that is not served is served to nobody.

There is one way around this.  To be compared, a name is written out, and a name that cannot be
written out ends the search in front of all that follows.  The one object of a type is named too, if
there are others beside it.
-/

namespace Preflight

/-! ## Names that are asked for -/

namespace Manifest

variable {m : Manifest} {asked : String} {scope : Option String} {fault : Fault}

/-- The object has the name that is asked for and, if one is asked for, the namespace.  The empty
text asks for an object of the whole cluster. -/
structure GoesBy (m : Manifest) (asked : String) (scope : Option String) : Prop where
  name : m.name = .ok asked
  namespaceName : ∀ place, scope = some place → m.namespaceName = .ok place

/-- It can be told whether the object goes by the name: what has to be compared can be read. -/
structure Legible (m : Manifest) (asked : String) (scope : Option String) : Prop where
  name : ∃ own, m.name = .ok own
  namespaceName : m.name = .ok asked → scope.isSome → ∃ place, m.namespaceName = .ok place

/-- The test of a search for an object by its name. -/
def goesBy? (m : Manifest) (asked : String) (scope : Option String) : Except Fault Bool := do
  if (← m.name) = asked then
    match scope with
    | none => return true
    | some place => return decide ((← m.namespaceName) = place)
  else return false

/-- The test tells whether the object goes by the name, and fails where that cannot be told. -/
inductive Tested (m : Manifest) (asked : String) (scope : Option String) :
    Except Fault Bool → Prop where
  | right (hgoes : m.GoesBy asked scope) : Tested m asked scope (.ok true)
  | wrong (hlegible : m.Legible asked scope) (hgoes : ¬m.GoesBy asked scope) :
      Tested m asked scope (.ok false)
  | unread {fault : Fault} (hillegible : ¬m.Legible asked scope)
      (hfailed : m.name = .error fault ∨ m.namespaceName = .error fault) :
      Tested m asked scope (.error fault)

theorem Tested.of_name {own : String} (hname : m.name = .ok own) (hother : own ≠ asked) :
    m.Tested asked scope (.ok false) := by
  have hwrong : m.name ≠ .ok asked := by
    rw [hname, Ne, Except.ok.injEq]
    exact hother
  exact .wrong ⟨⟨own, hname⟩, fun hasked => absurd hasked hwrong⟩ fun hgoes => hwrong hgoes.name

/-- Of an object with the right name, the namespace decides. -/
theorem Tested.of_namespaceName (place : String) (hname : m.name = .ok asked) :
    m.Tested asked (some place) (m.namespaceName.map fun own => decide (own = place)) := by
  cases hplace : m.namespaceName with
  | error fault =>
    refine .unread (fun hlegible => ?_) (.inr hplace)
    obtain ⟨own, hown⟩ := hlegible.namespaceName hname rfl
    cases hplace.symm.trans hown
  | ok own =>
    have hlegible : m.Legible asked (some place) := ⟨⟨asked, hname⟩, fun _ _ => ⟨own, hplace⟩⟩
    by_cases hsame : own = place
    · rw [Except.map, decide_eq_true hsame]
      refine .right ⟨hname, ?_⟩
      rintro _ ⟨⟩
      rw [hplace, hsame]
    · rw [Except.map, decide_eq_false hsame]
      refine .wrong hlegible fun hgoes => hsame ?_
      exact Except.ok.inj (hplace.symm.trans (hgoes.namespaceName place rfl))

theorem goesBy?_of_unnamed (hname : m.name = .error fault) :
    m.goesBy? asked scope = .error fault := by
  rw [goesBy?.eq_def, hname]
  rfl

theorem tested_goesBy? (m : Manifest) (asked : String) (scope : Option String) :
    m.Tested asked scope (m.goesBy? asked scope) := by
  cases hname : m.name with
  | error fault =>
    rw [goesBy?_of_unnamed hname]
    refine .unread (fun hlegible => ?_) (.inl hname)
    obtain ⟨own, hown⟩ := hlegible.name
    cases hname.symm.trans hown
  | ok own =>
    rw [goesBy?.eq_def, hname]
    by_cases hsame : own = asked
    · subst hsame
      simp only [bind, Except.bind, if_true]
      cases scope with
      | none => exact .right ⟨hname, by rintro _ ⟨⟩⟩
      | some place =>
        have hdecided := Tested.of_namespaceName place hname
        cases hplace : m.namespaceName <;> rwa [hplace] at hdecided
    · simp only [bind, Except.bind, if_neg hsame]
      exact .of_name hname hsame

theorem GoesBy.legible (hgoes : m.GoesBy asked scope) : m.Legible asked scope where
  name := ⟨asked, hgoes.name⟩
  namespaceName := by
    intro _ hscope
    obtain ⟨place, hplace⟩ := Option.isSome_iff_exists.1 hscope
    exact ⟨place, hgoes.namespaceName place hplace⟩

namespace Tested

variable {result : Except Fault Bool} (htested : m.Tested asked scope result)

include htested

theorem eq_true_iff : result = .ok true ↔ m.GoesBy asked scope := by
  cases htested with
  | right hgoes => simp [hgoes]
  | wrong _ hgoes => simp [hgoes]
  | unread hillegible _ =>
    exact iff_of_false (by simp) fun hgoes => hillegible hgoes.legible

theorem eq_false_iff : result = .ok false ↔ m.Legible asked scope ∧ ¬m.GoesBy asked scope := by
  cases htested with
  | right hgoes => simp [hgoes]
  | wrong hlegible hgoes => simp [hlegible, hgoes]
  | unread hillegible _ => simp [hillegible]

end Tested

/-- Where the metadata can be looked into, the test fails on what cannot be written out. -/
theorem goesBy?_eq_error_iff
    (hmetadata : ∀ d, m.field? "metadata" = some d → d.isGiven → d.entries?.isSome) :
    m.goesBy? asked scope = .error fault ↔
      ¬m.Legible asked scope ∧ fault = Document.unwritable := by
  have htested := m.tested_goesBy? asked scope
  generalize m.goesBy? asked scope = result at htested
  cases htested with
  | right hgoes => simp [hgoes.legible]
  | wrong hlegible _ => simp [hlegible]
  | unread hillegible hcause => simp [hillegible, eq_unwritable hmetadata hcause, eq_comm]

end Manifest

/-! ## Searching a listing -/

namespace Snapshot

variable {s : Snapshot} {t : ResourceType} {m : Manifest} {asked : String} {scope : Option String}
  {objects listed : List Manifest}

/-- An object that is covered is tested, and the search goes on where it does not pass. -/
theorem find?_cons_of_covers {rest : List Manifest} (hcovers : t.covers m = true) :
    find? t asked scope (m :: rest) =
      match m.goesBy? asked scope with
      | .ok true => .ok (some m)
      | .ok false => find? t asked scope rest
      | .error fault => .error fault := by
  rw [find?.eq_def, Manifest.goesBy?.eq_def]
  simp only [hcovers, if_true, bind, Except.bind]
  cases m.name with
  | error fault => rfl
  | ok own =>
    by_cases hsame : own = asked
    · simp only [if_pos hsame]
      cases scope with
      | none => rfl
      | some place =>
        cases m.namespaceName with
        | error fault => rfl
        | ok found => by_cases hright : found = place <;> simp [hright, pure, Except.pure]
    · simp only [if_neg hsame]
      rfl

theorem find?_eq_findM? (objects : List Manifest) :
    find? t asked scope objects =
      (objects.filter (t.covers ·)).findM? fun m => m.goesBy? asked scope := by
  induction objects with
  | nil => rfl
  | cons m rest ih =>
    by_cases hcovers : t.covers m = true
    · rw [find?_cons_of_covers hcovers, List.filter_cons_of_pos hcovers, List.findM?, ← ih]
      cases m.goesBy? asked scope with
      | error fault => rfl
      | ok passed => cases passed <;> rfl
    · rw [find?.eq_def, List.filter_cons_of_neg hcovers, ← ih]
      exact if_neg hcovers

theorem get_of_unserved (hunserved : t ∉ s.served) :
    s.get t asked scope = .error (.typeNotServed t.text) := by
  rw [get, if_neg (mt List.contains_iff_mem.1 hunserved)]

/-- What reading one object by its name comes to, told by the listing of its type.  The first object
that goes by the name is found if nothing in front of it is illegible. -/
structure FoundIn (listed : List Manifest) (t : ResourceType) (asked : String)
    (scope : Option String) (answer : Except Fault Manifest) : Prop where
  found_iff : ∀ m, answer = .ok m ↔ ∃ before after, listed = before ++ m :: after ∧
    m.GoesBy asked scope ∧
    ∀ earlier ∈ before, earlier.Legible asked scope ∧ ¬earlier.GoesBy asked scope
  missing_iff : answer = .error (.notFound t.text asked scope) ↔
    ∀ m ∈ listed, m.Legible asked scope ∧ ¬m.GoesBy asked scope
  unread_iff : answer = .error Document.unwritable ↔ ∃ before m after,
    listed = before ++ m :: after ∧ ¬m.Legible asked scope ∧
    ∀ earlier ∈ before, earlier.Legible asked scope ∧ ¬earlier.GoesBy asked scope

theorem get_of_list (hlisted : s.list t = .ok listed) :
    s.get t asked scope = ((listed.findM? (·.goesBy? asked scope)) >>= fun found =>
      match found with
      | some m => .ok m
      | none => .error (.notFound t.text asked scope)) := by
  by_cases hserved : t ∈ s.served
  · rw [list_of_served hserved] at hlisted
    cases hlisted
    rw [get, if_pos (List.contains_iff_mem.2 hserved), find?_eq_findM?]
    rfl
  · rw [list_of_unserved hserved] at hlisted
    cases hlisted

theorem get_eq_ok_iff (hlisted : s.list t = .ok listed) :
    s.get t asked scope = .ok m ↔ ∃ before after, listed = before ++ m :: after ∧
      m.GoesBy asked scope ∧
      ∀ earlier ∈ before, earlier.Legible asked scope ∧ ¬earlier.GoesBy asked scope := by
  have hfound : s.get t asked scope = .ok m ↔
      listed.findM? (·.goesBy? asked scope) = .ok (some m) := by
    rw [get_of_list hlisted]
    cases listed.findM? (·.goesBy? asked scope) with
    | error fault => simp [bind, Except.bind]
    | ok found => cases found <;> simp [bind, Except.bind]
  rw [hfound, Fault.findM?_eq_some_iff]
  simp only [(Manifest.tested_goesBy? _ asked scope).eq_true_iff,
    (Manifest.tested_goesBy? _ asked scope).eq_false_iff]

theorem get_eq_error_iff (hlisted : s.list t = .ok listed) {fault : Fault} :
    s.get t asked scope = .error fault ↔
      ((∀ m ∈ listed, m.Legible asked scope ∧ ¬m.GoesBy asked scope) ∧
        fault = .notFound t.text asked scope) ∨
      ∃ before m after, listed = before ++ m :: after ∧ m.goesBy? asked scope = .error fault ∧
        ∀ earlier ∈ before, earlier.Legible asked scope ∧ ¬earlier.GoesBy asked scope := by
  have hfailed : s.get t asked scope = .error fault ↔
      (listed.findM? (·.goesBy? asked scope) = .ok none ∧
        fault = .notFound t.text asked scope) ∨
      listed.findM? (·.goesBy? asked scope) = .error fault := by
    rw [get_of_list hlisted]
    cases listed.findM? (·.goesBy? asked scope) with
    | error fault => simp [bind, Except.bind]
    | ok found => cases found <;> simp [bind, Except.bind, eq_comm]
  rw [hfailed, Fault.findM?_eq_none_iff, Fault.findM?_eq_error_iff]
  simp only [(Manifest.tested_goesBy? _ asked scope).eq_false_iff]

/-- Reading one object agrees with listing its type, and where the metadata can be looked into, the
only other way to fail is a name that cannot be written out. -/
theorem foundIn_get (hlisted : s.list t = .ok listed)
    (hmetadata : ∀ m ∈ listed, ∀ d, m.field? "metadata" = some d → d.isGiven → d.entries?.isSome)
    (asked : String) (scope : Option String) :
    FoundIn listed t asked scope (s.get t asked scope) := by
  have hunread {before after : List Manifest} {m : Manifest} {fault : Fault}
      (hsplit : listed = before ++ m :: after) :
      m.goesBy? asked scope = .error fault ↔
        ¬m.Legible asked scope ∧ fault = Document.unwritable := by
    refine Manifest.goesBy?_eq_error_iff (hmetadata m ?_)
    rw [hsplit]
    exact List.mem_append_right _ List.mem_cons_self
  constructor
  case found_iff => exact fun m => get_eq_ok_iff hlisted
  case missing_iff =>
    rw [get_eq_error_iff hlisted]
    constructor
    · rintro (⟨hnone, -⟩ | ⟨before, m, after, hsplit, hfailed, -⟩)
      · exact hnone
      · cases ((hunread hsplit).1 hfailed).2
    · exact fun hnone => .inl ⟨hnone, rfl⟩
  case unread_iff =>
    rw [get_eq_error_iff hlisted]
    constructor
    · rintro (⟨-, hother⟩ | ⟨before, m, after, hsplit, hfailed, hbefore⟩)
      · cases hother
      · exact ⟨before, m, after, hsplit, ((hunread hsplit).1 hfailed).1, hbefore⟩
    · rintro ⟨before, m, after, hsplit, hillegible, hbefore⟩
      exact .inr ⟨before, m, after, hsplit, (hunread hsplit).2 ⟨hillegible, rfl⟩, hbefore⟩

end Snapshot

/-! ## The one object of a type -/

namespace Reader

open Preflight.Action

theorem runAt_listServed (s : Snapshot) (t : ResourceType) (clock : Clock) :
    ((ofSnapshot s).listServed t).runAt clock = (.ok (s.instances t), clock) := by
  rw [listServed, runAt_tryCatch, ofSnapshot, runAt_ofExcept, Snapshot.instances]
  by_cases hserved : t ∈ s.served
  · rw [Snapshot.list_of_served hserved]
  · rw [Snapshot.list_of_unserved hserved]
    rfl

/-- The first object is the answer; of several objects it is named as well. -/
theorem runAt_singleton (s : Snapshot) (t : ResourceType) (clock : Clock) :
    ((ofSnapshot s).singleton t).runAt clock =
      (match s.instances t with
        | [] => .error (.notFound t.text "<singleton>" none)
        | [m] => .ok m
        | m :: _ :: _ => m.name.map fun _ => m, clock) := by
  rw [singleton, runAt_bind, runAt_listServed]
  match s.instances t with
  | [] => rfl
  | [m] => rfl
  | first :: second :: rest =>
    dsimp only
    cases first.name <;> rfl

theorem runAt_singleton_of_unnamed {s : Snapshot} {t : ResourceType} {first second : Manifest}
    {rest : List Manifest} {fault : Fault} (hfound : s.instances t = first :: second :: rest)
    (hname : first.name = .error fault) (clock : Clock) :
    ((ofSnapshot s).singleton t).runAt clock = (.error fault, clock) := by
  rw [runAt_singleton, hfound]
  dsimp only
  rw [hname]
  rfl

end Reader

namespace Snapshot

variable {s : Snapshot} {t : ResourceType}

/-- What reading the one object of a type comes to, told by its listing. -/
structure FirstOf (listing : Except Fault (List Manifest)) (t : ResourceType)
    (answer : Except Fault Manifest) : Prop where
  first_iff : ∀ m, answer = .ok m ↔
    ∃ rest, listing = .ok (m :: rest) ∧ (rest = [] ∨ ∃ own, m.name = .ok own)
  missing_iff : answer = .error (.notFound t.text "<singleton>" none) ↔
    listing = .ok [] ∨ ∃ text, listing = .error (.typeNotServed text)
  unread_iff : answer = .error Document.unwritable ↔
    ∃ m rest, listing = .ok (m :: rest) ∧ rest ≠ [] ∧ ¬∃ own, m.name = .ok own

theorem firstOf_singleton
    (hmetadata : ∀ listed, s.list t = .ok listed → ∀ m ∈ listed,
      ∀ d, m.field? "metadata" = some d → d.isGiven → d.entries?.isSome) (clock : Clock) :
    FirstOf (s.list t) t (((Reader.ofSnapshot s).singleton t).runAt clock).1 := by
  rw [Reader.runAt_singleton, instances]
  cases hlisted : s.list t with
  | error fault =>
    obtain ⟨-, rfl⟩ := list_eq_error_iff.1 hlisted
    constructor <;> simp [Document.unwritable]
  | ok listed =>
    cases listed with
    | nil => constructor <;> simp [Document.unwritable]
    | cons first others =>
      cases others with
      | nil => constructor <;> simp
      | cons second rest =>
        have hfirst := hmetadata _ hlisted first List.mem_cons_self
        cases hname : first.name with
        | ok own => constructor <;> simp +contextual [hname, Except.map]
        | error fault =>
          cases Manifest.eq_unwritable hfirst (.inl hname)
          constructor <;> simp +contextual [hname, Except.map, Document.unwritable]

/-! ## All reads together -/

/-- The reads of a snapshot agree as far as names can be written out: a type is served to all of
them or to none, one object is found where the listing has it, and the one object of a type is the
first one listed. -/
theorem reads_agree
    (hmetadata : ∀ m ∈ s.objects, ∀ d, m.field? "metadata" = some d → d.isGiven →
      d.entries?.isSome) (asked : String) (scope : Option String) (clock : Clock) :
    ((∃ text, s.get t asked scope = .error (.typeNotServed text)) ↔
      ∃ text, s.list t = .error (.typeNotServed text)) ∧
    (∀ listed, s.list t = .ok listed → FoundIn listed t asked scope (s.get t asked scope)) ∧
    FirstOf (s.list t) t (((Reader.ofSnapshot s).singleton t).runAt clock).1 := by
  have hread (listed : List Manifest) (hlisted : s.list t = .ok listed) (m : Manifest)
      (hm : m ∈ listed) : ∀ d, m.field? "metadata" = some d → d.isGiven → d.entries?.isSome := by
    have hinstances : s.instances t = listed := by rw [instances, hlisted]
    rw [← hinstances] at hm
    exact hmetadata m (mem_of_mem_instances hm).1
  refine ⟨?served, fun listed hlisted => foundIn_get hlisted (hread listed hlisted) asked scope,
    firstOf_singleton hread clock⟩
  case served =>
    constructor
    · rintro ⟨text, hget⟩
      cases hlisted : s.list t with
      | error fault =>
        obtain ⟨-, rfl⟩ := list_eq_error_iff.1 hlisted
        exact ⟨t.text, rfl⟩
      | ok listed =>
        obtain ⟨-, hother⟩ | ⟨before, m, after, rfl, hfailed, -⟩ :=
          (get_eq_error_iff hlisted).1 hget
        · cases hother
        · have hm := hread _ hlisted m (List.mem_append_right _ List.mem_cons_self)
          cases ((Manifest.goesBy?_eq_error_iff hm).1 hfailed).2
    · rintro ⟨text, hlisted⟩
      exact ⟨t.text, get_of_unserved (list_eq_error_iff.1 hlisted).1⟩

/-- An initialisation, with or without metadata. -/
def initialization (metadata : List (Document × Document)) : Manifest :=
  ⟨[(.text "apiVersion", .text "dscinitialization.opendatahub.io/v1"),
    (.text "kind", .text "DSCInitialization")] ++ metadata⟩

/-- An initialisation with a name and a namespace. -/
def initializationIn (name place : Document) : Manifest :=
  initialization [(.text "metadata", .map [(.text "name", name), (.text "namespace", place)])]

theorem name_initializationIn (name place : Document) :
    (initializationIn name place).name = name.asText := rfl

/-- An object without metadata, and two objects of one name, the second of the whole cluster. -/
def twins : Snapshot :=
  ⟨ResourceType.wellKnown,
    [initialization [], initializationIn (.text "default") (.text "team"),
      initializationIn (.text "default") .null]⟩

theorem reads_agree_twins :
    (∀ m ∈ twins.objects, ∀ d, m.field? "metadata" = some d → d.isGiven → d.entries?.isSome) ∧
    twins.list .dscInitialization = .ok twins.objects ∧
    twins.get .dscInitialization "default" (some "") =
      .ok (initializationIn (.text "default") .null) ∧
    (((Reader.ofSnapshot twins).singleton .dscInitialization).runAt ⟨.zero, default⟩).1 =
      .ok (initialization []) := by
  have hmetadata : ∀ m ∈ twins.objects, ∀ d, m.field? "metadata" = some d → d.isGiven →
      d.entries?.isSome := by
    simp only [twins, List.forall_mem_cons]
    refine ⟨?_, ?_, ?_, List.forall_mem_nil _⟩
    · rintro d ⟨⟩
    · rintro d ⟨⟩ -
      rfl
    · rintro d ⟨⟩ -
      rfl
  have hlisted : twins.list .dscInitialization = .ok twins.objects := rfl
  obtain ⟨-, hfound, hfirst⟩ := reads_agree hmetadata "default" (some "") ⟨.zero, default⟩
  refine ⟨hmetadata, hlisted, ?_, ?_⟩
  · refine ((hfound _ hlisted).found_iff _).2 ⟨[_, _], [], rfl, ⟨rfl, ?_⟩, ?_⟩
    · rintro place ⟨⟩
      rfl
    · -- The first object has another name, the second one another namespace.
      refine List.forall_mem_cons.2 ⟨⟨⟨⟨"", rfl⟩, ?_⟩, ?_⟩, List.forall_mem_singleton.2 ⟨?_, ?_⟩⟩
      · exact fun hname => absurd (Except.ok.inj hname) (by decide)
      · exact fun hgoes => absurd (Except.ok.inj hgoes.name) (by decide)
      · exact ⟨⟨"default", rfl⟩, fun _ _ => ⟨"team", rfl⟩⟩
      · exact fun hgoes => absurd (Except.ok.inj (hgoes.namespaceName "" rfl)) (by decide)
  · exact (hfirst.first_iff _).2 ⟨_, hlisted, .inr ⟨"", rfl⟩⟩

/-- Two objects of one type, of which the first is called by a whole number with one digit too
many. -/
def numbered : Snapshot :=
  ⟨ResourceType.wellKnown,
    [initializationIn (.int (Nat.pow 10 Text.mostDigits : Nat)) .null,
      initializationIn (.text "default") .null]⟩

/-- The second object is listed and has the name that is asked for, but the search does not get to
it; nor is the first object handed out, though it is listed first. -/
theorem reads_disagree_numbered :
    ofDocuments (numbered.objects.map Manifest.document) none = .ok numbered ∧
    (∀ m ∈ numbered.objects, ∃ entries, m.metadata = .ok entries) ∧
    numbered.list .dscInitialization = .ok numbered.objects ∧
    (∃ m ∈ numbered.objects, m.GoesBy "default" none) ∧
    numbered.get .dscInitialization "default" none = .error Document.unwritable ∧
    ∀ clock, (((Reader.ofSnapshot numbered).singleton .dscInitialization).runAt clock).1 =
      .error Document.unwritable := by
  have hname : (initializationIn (.int (Nat.pow 10 Text.mostDigits : Nat)) .null).name =
      .error Document.unwritable := by
    rw [name_initializationIn, Document.asText_eq_error_iff]
    exact ⟨Document.not_written_of_le (Nat.le_refl _), rfl⟩
  have hlisted : numbered.list .dscInitialization = .ok numbered.objects := rfl
  refine ⟨rfl, ?metadata, hlisted, ?goes, ?get, fun clock => ?singleton⟩
  case metadata => exact List.forall_mem_cons.2 ⟨⟨_, rfl⟩, List.forall_mem_singleton.2 ⟨_, rfl⟩⟩
  case goes =>
    exact ⟨_, List.mem_cons_of_mem _ List.mem_cons_self, rfl, fun place hplace => by cases hplace⟩
  case get =>
    exact (get_eq_error_iff hlisted).2
      (.inr ⟨[], _, _, rfl, Manifest.goesBy?_of_unnamed hname, List.forall_mem_nil _⟩)
  case singleton =>
    exact congrArg Prod.fst (Reader.runAt_singleton_of_unnamed rfl hname clock)

end Snapshot

end Preflight
