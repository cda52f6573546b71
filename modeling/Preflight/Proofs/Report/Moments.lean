import Mathlib.Algebra.Ring.Nat
import Mathlib.Data.Set.Function
import Preflight.Timestamp

/-!
# Moments as documents write them

A document writes the parts of a moment with a fixed number of digits each, so they can be read off
one after the other.  What follows them starts with a point, a letter or a sign, or there is
nothing; this tells a fraction from an offset and both from their absence.  Of an offset only whole
minutes are written, and among offsets in whole minutes no two are written alike.
-/

namespace Preflight

/-- The digits of a padded number stand for the number. -/
theorem Text.ofDigitChars_zeroPadded (width n : Nat) :
    Nat.ofDigitChars 10 (zeroPadded width n).toList 0 = n := by
  rw [zeroPadded, String.toList_ofList, Nat.ofDigitChars_append, Nat.ofDigitChars_replicate_zero,
    Nat.mul_zero, Nat.toString_eq_ofList_toDigits, String.toList_ofList,
    Nat.ofDigitChars_ten_toDigits]

theorem Text.length_zeroPadded {width n : Nat} (hwidth : 0 < width) (hbound : n < 10 ^ width) :
    (zeroPadded width n).toList.length = width := by
  have hdigits : (toString n).toList.length ≤ width := by
    rw [Nat.toString_eq_ofList_toDigits, String.toList_ofList]
    exact (Nat.length_toDigits_le_iff (by decide) hwidth).2 hbound
  rw [zeroPadded, String.toList_ofList, List.length_append, List.length_replicate]
  omega

/-- A number of so many digits can be read off the front of a text. -/
theorem Text.zeroPadded_append_inj {width m n : Nat} {xs ys : List Char} (hwidth : 0 < width)
    (hm : m < 10 ^ width) (hn : n < 10 ^ width)
    (heq : (zeroPadded width m).toList ++ xs = (zeroPadded width n).toList ++ ys) :
    m = n ∧ xs = ys := by
  have hlength : (zeroPadded width m).toList.length = (zeroPadded width n).toList.length := by
    rw [length_zeroPadded hwidth hm, length_zeroPadded hwidth hn]
  obtain ⟨hdigits, hrest⟩ := List.append_inj heq hlength
  refine ⟨?_, hrest⟩
  calc
    m = Nat.ofDigitChars 10 (zeroPadded width m).toList 0 := (ofDigitChars_zeroPadded width m).symm
    _ = Nat.ofDigitChars 10 (zeroPadded width n).toList 0 := by rw [hdigits]
    _ = n := ofDigitChars_zeroPadded width n

namespace Timestamp

/-- An offset in whole minutes that is shorter than a day. -/
def WholeMinutes (offset : Int) : Prop :=
  ∃ minutes : Int, minutes.natAbs < 1440 ∧ offset = minutes * (60 * microsPerSecond)

/-- A moment whose parts have as many digits as a document gives them, and an offset in whole
minutes if it has one. -/
structure Regular (t : Timestamp) : Prop where
  year : t.date.year < 10 ^ 4
  month : t.date.month < 10 ^ 2
  day : t.date.day < 10 ^ 2
  hour : t.hour < 10 ^ 2
  minute : t.minute < 10 ^ 2
  second : t.second < 10 ^ 2
  microsecond : t.microsecond < 10 ^ 6
  offset : ∀ offset ∈ t.offset, WholeMinutes offset

/-! ## Offsets -/

/-- The zone of a moment as a document writes it. -/
def zone (offset : Option Int) : String :=
  match offset with
  | none => ""
  | some offset =>
    let seconds := (offset.natAbs + microsPerSecond / 2) / microsPerSecond
    if seconds = 0 then "Z" else minutesText (decide (offset < 0)) (seconds / 60)

/-- What a zone looks like: there is none, it is a letter, or it starts with a sign. -/
inductive ZoneShape : Option Int → List Char → Prop where
  | none : ZoneShape none []
  | universal : ZoneShape (some 0) ['Z']
  | signed {minutes : Int} (hsome : minutes ≠ 0) (hday : minutes.natAbs < 1440) :
      ZoneShape (some (minutes * (60 * microsPerSecond)))
        ((if minutes < 0 then '-' else '+') ::
          ((Text.zeroPadded 2 (minutes.natAbs / 60)).toList ++
            ':' :: (Text.zeroPadded 2 (minutes.natAbs % 60)).toList))

/-- No two zones are written alike. -/
theorem ZoneShape.inj {left right : Option Int} {cs : List Char} (hleft : ZoneShape left cs)
    (hright : ZoneShape right cs) : left = right := by
  cases hleft with
  | none => cases hright; rfl
  | universal =>
    generalize hcs : ['Z'] = cs at hright
    cases hright with
    | none => cases hcs
    | universal => rfl
    | @signed minutes hsome hday =>
      have hhead := (List.cons.inj hcs).1
      split at hhead <;> exact absurd hhead (by decide)
  | @signed minutes hsome hday =>
    generalize hcs : _ :: _ = cs at hright
    cases hright with
    | none => cases hcs
    | universal =>
      have hhead := (List.cons.inj hcs).1
      split at hhead <;> exact absurd hhead (by decide)
    | @signed others hothers hothersDay =>
      obtain ⟨hsign, hdigits⟩ := List.cons.inj hcs
      have hnegative : minutes < 0 ↔ others < 0 := by
        split at hsign <;> split at hsign
        · exact iff_of_true ‹_› ‹_›
        · exact absurd hsign (by decide)
        · exact absurd hsign (by decide)
        · exact iff_of_false ‹_› ‹_›
      obtain ⟨hhours, hrest⟩ := Text.zeroPadded_append_inj (by decide) (by omega) (by omega) hdigits
      have hpadded := congrArg (· ++ []) (List.cons.inj hrest).2
      obtain ⟨hminutes, -⟩ :=
        Text.zeroPadded_append_inj (by decide) (by omega) (by omega) hpadded
      have hequal : minutes = others := by omega
      rw [hequal]

/-- The fraction of a second as it is written. -/
def fraction (micros : Nat) : String := if micros = 0 then "" else "." ++ Text.zeroPadded 6 micros

end Timestamp

end Preflight
