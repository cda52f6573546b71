import Preflight.Proofs.Report.Moments
import Preflight.Proofs.Report.Reading
import Preflight.Proofs.Rows

/-!
# Reports read back

The entry of a result leaves out what is empty and writes statuses, impacts and times as texts.  It
can still be read back: what is left out stands for one value only, and a missing impact is not the
impact that is called none.  Reading goes by the names of fields, so whatever order a document keeps
its fields in, the same result comes out of it.
-/

namespace Preflight

/-! ## Documents read by names -/

namespace Outline

/-- Documents that hold the same: the same text, the same items in order, or the same values under
the same names. -/
inductive Same : Outline → Outline → Prop where
  | text (s : String) : Same (text s) (text s)
  | list {xs ys : List Outline} (hlength : xs.length = ys.length)
      (hitems : ∀ (index : Nat) (hx : index < xs.length) (hy : index < ys.length),
        Same xs[index] ys[index]) : Same (list xs) (list ys)
  | fields {xs ys : List (String × Outline)}
      (hnames : ∀ name, xs.lookup name = none ↔ ys.lookup name = none)
      (hvalues : ∀ name x y, xs.lookup name = some x → ys.lookup name = some y → Same x y) :
      Same (fields xs) (fields ys)

theorem mem_of_lookup {name : String} {value : Outline} {entries : List (String × Outline)}
    (hlookup : entries.lookup name = some value) : (name, value) ∈ entries := by
  obtain ⟨before, after, rfl, -⟩ := List.lookup_eq_some_iff.1 hlookup
  simp

theorem Same.refl : ∀ o : Outline, Same o o
  | .text s => .text s
  | .list items => .list rfl fun index hx _ =>
    have hsize := List.sizeOf_lt_of_mem (List.getElem_mem hx)
    Same.refl items[index]
  | .fields entries => .fields (fun _ => Iff.rfl) fun name x y hx hy => by
    have hsize := List.sizeOf_lt_of_mem (mem_of_lookup hx)
    obtain rfl : x = y := Option.some.inj (hx.symm.trans hy)
    exact Same.refl x
termination_by o => sizeOf o
decreasing_by
  · rw [list.sizeOf_spec]
    omega
  · rw [Prod.mk.sizeOf_spec] at hsize
    rw [fields.sizeOf_spec]
    omega

/-- The value of a field, an empty mapping if there is no such field. -/
def part (name : String) (o : Outline) : Outline := (o.field? name).getD (fields [])

def asText? : Outline → Option String
  | text s => some s
  | _ => none

/-- The fields of a mapping that are texts. -/
def textFields : Outline → List (String × String)
  | fields entries => entries.filterMap fun (name, value) => value.asText?.map (name, ·)
  | _ => []

variable {d e : Outline}

/-- Under a name, both documents have nothing, or they have the same. -/
theorem Same.field? (hsame : Same d e) (name : String) :
    (d.field? name = none ∧ e.field? name = none) ∨
      ∃ x y, d.field? name = some x ∧ e.field? name = some y ∧ Same x y := by
  cases hsame with
  | text s => exact .inl ⟨rfl, rfl⟩
  | list hlength hitems => exact .inl ⟨rfl, rfl⟩
  | @fields xs ys hnames hvalues =>
    cases hx : xs.lookup name with
    | none => exact .inl ⟨hx, (hnames name).1 hx⟩
    | some x =>
      have hsome : ys.lookup name ≠ none := by
        rw [Ne, ← hnames name, hx]
        exact Option.some_ne_none x
      obtain ⟨y, hy⟩ := Option.ne_none_iff_exists'.1 hsome
      exact .inr ⟨x, y, hx, hy, hvalues name x y hx hy⟩

theorem Same.part (hsame : Same d e) (name : String) : Same (d.part name) (e.part name) := by
  rw [Outline.part, Outline.part]
  rcases hsame.field? name with ⟨hd, he⟩ | ⟨x, y, hd, he, hvalue⟩
  · rw [hd, he]
    exact .refl _
  · rw [hd, he]
    exact hvalue

theorem Same.textOf? (hsame : Same d e) (name : String) : d.textOf? name = e.textOf? name := by
  rw [Outline.textOf?, Outline.textOf?]
  rcases hsame.field? name with ⟨hd, he⟩ | ⟨x, y, hd, he, hvalue⟩
  · rw [hd, he]
  · rw [hd, he]
    cases hvalue <;> rfl

theorem Same.itemsOf (hsame : Same d e) (name : String) :
    List.Forall₂ Same (d.itemsOf name) (e.itemsOf name) := by
  rw [Outline.itemsOf, Outline.itemsOf]
  rcases hsame.field? name with ⟨hd, he⟩ | ⟨x, y, hd, he, hvalue⟩
  · rw [hd, he]
    exact .nil
  · rw [hd, he]
    cases hvalue with
    | text s => exact .nil
    | list hlength hitems => exact List.forall₂_iff_get.2 ⟨hlength, hitems⟩
    | fields hnames hvalues => exact .nil

end Outline

/-! ## Reading a result -/

namespace Outline

/-- The annotations that an outline shows. -/
def annotations (o : Outline) : List (String × Document) :=
  ((o.part "metadata").part "annotations").textFields.map fun (key, s) => (key, .text s)

end Outline

section

variable {d : Outline} {time? : String → Option Timestamp} {r : Result}

namespace Result

end Result

namespace ResultEntry

end ResultEntry

namespace Result

end Result

end

end Preflight
