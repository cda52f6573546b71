import Preflight.Proofs.Glob.Grammar
import Preflight.Selector

/-!
# What a glob pattern matches

A text matches a pattern when the whole of it splits into consecutive pieces that fit the tokens of
the pattern, one piece for each token.  Matching tries the tokens one after the other and lets a run
drop ever more characters; it succeeds exactly when there is such a splitting.
-/

namespace Preflight

namespace Glob

/-- Inside one of the ranges of a class, ends included. -/
def InClass (ranges : List CharRange) (c : Char) : Prop :=
  ∃ range ∈ ranges, range.low ≤ c ∧ c ≤ range.high

/-- The pieces of text that a token stands for. -/
inductive Fits : Token → List Char → Prop where
  | literal (c : Char) : Fits (.literal c) [c]
  | anyOne {c : Char} (hslash : c ≠ '/') : Fits .anyOne [c]
  | anyRun {piece : List Char} (hslash : '/' ∉ piece) : Fits .anyRun piece
  | oneOf {ranges : List CharRange} {c : Char} (hclass : InClass ranges c) :
      Fits (.oneOf ranges) [c]
  | noneOf {ranges : List CharRange} {c : Char} (hslash : c ≠ '/') (hclass : ¬InClass ranges c) :
      Fits (.noneOf ranges) [c]

/-- The whole text splits into pieces that fit the tokens in order. -/
def Splits (tokens : List Token) (text : List Char) : Prop :=
  ∃ pieces, List.Forall₂ Fits tokens pieces ∧ pieces.flatten = text

/-! ## Single tokens -/

theorem any_contains_iff {ranges : List CharRange} {c : Char} :
    ranges.any (·.contains c) = true ↔ InClass ranges c := by
  simp only [List.any_eq_true, CharRange.contains, Bool.and_eq_true, decide_eq_true_iff, InClass]

theorem accepts_iff {token : Token} (hsingle : token ≠ .anyRun) {c : Char} :
    token.accepts c = true ↔ Fits token [c] := by
  cases token with
  | anyRun => exact absurd rfl hsingle
  | literal wanted =>
    rw [Token.accepts, beq_iff_eq]
    constructor
    · rintro rfl
      exact .literal c
    · intro hfits
      cases hfits
      rfl
  | anyOne =>
    rw [Token.accepts, bne_iff_ne]
    constructor
    · exact .anyOne
    · intro hfits
      cases hfits with
      | anyOne hslash => exact hslash
  | oneOf ranges =>
    rw [Token.accepts, any_contains_iff]
    constructor
    · exact .oneOf
    · intro hfits
      cases hfits with
      | oneOf hclass => exact hclass
  | noneOf ranges =>
    rw [Token.accepts, Bool.and_eq_true, bne_iff_ne, Bool.not_eq_true', ← Bool.not_eq_true,
      any_contains_iff]
    constructor
    · rintro ⟨hslash, hclass⟩
      exact .noneOf hslash hclass
    · intro hfits
      cases hfits with
      | noneOf hslash hclass => exact ⟨hslash, hclass⟩

/-- Every token but a run stands for a single character. -/
theorem Fits.eq_singleton {token : Token} {piece : List Char} (hfits : Fits token piece)
    (hsingle : token ≠ .anyRun) : ∃ c, piece = [c] := by
  cases hfits with
  | anyRun hslash => exact absurd rfl hsingle
  | literal c => exact ⟨c, rfl⟩
  | @anyOne c hslash => exact ⟨c, rfl⟩
  | @oneOf ranges c hclass => exact ⟨c, rfl⟩
  | @noneOf ranges c hslash hclass => exact ⟨c, rfl⟩

/-! ## Rows of tokens -/

theorem splits_nil_iff {text : List Char} : Splits [] text ↔ text = [] := by
  simp [Splits, eq_comm]

/-- The first piece is cut off in front of the pieces of the other tokens. -/
theorem splits_cons_iff {token : Token} {tokens : List Token} {text : List Char} :
    Splits (token :: tokens) text ↔
      ∃ piece rest, text = piece ++ rest ∧ Fits token piece ∧ Splits tokens rest := by
  constructor
  · rintro ⟨pieces, hpieces, rfl⟩
    obtain ⟨piece, others, hfits, hothers, rfl⟩ := List.forall₂_cons_left_iff.1 hpieces
    exact ⟨piece, others.flatten, List.flatten_cons, hfits, others, hothers, rfl⟩
  · rintro ⟨piece, rest, rfl, hfits, others, hothers, rfl⟩
    exact ⟨piece :: others, .cons hfits hothers, List.flatten_cons⟩

/-- A run drops some characters, none of them a slash, in front of what the rest matches. -/
theorem matchAfterRun_iff {rest : List Char → Bool} {text : List Char} :
    matchAfterRun rest text = true ↔
      ∃ dropped left, text = dropped ++ left ∧ '/' ∉ dropped ∧ rest left = true := by
  induction text with
  | nil =>
    rw [matchAfterRun]
    constructor
    · intro hrest
      exact ⟨[], [], rfl, by simp, hrest⟩
    · rintro ⟨dropped, left, hnil, -, hrest⟩
      rwa [(List.append_eq_nil_iff.1 hnil.symm).2] at hrest
  | cons c text ih =>
    rw [matchAfterRun, Bool.or_eq_true, Bool.and_eq_true, bne_iff_ne, ih]
    constructor
    · rintro (hrest | ⟨hslash, dropped, left, rfl, hdropped, hrest⟩)
      · exact ⟨[], c :: text, rfl, by simp, hrest⟩
      · refine ⟨c :: dropped, left, rfl, ?_, hrest⟩
        simp only [List.mem_cons, not_or]
        exact ⟨hslash.symm, hdropped⟩
    · rintro ⟨dropped, left, htext, hslash, hrest⟩
      cases dropped with
      | nil =>
        left
        rwa [htext]
      | cons first others =>
        obtain ⟨rfl, rfl⟩ := List.cons.inj htext
        simp only [List.mem_cons, not_or] at hslash
        exact .inr ⟨Ne.symm hslash.1, others, left, rfl, hslash.2, hrest⟩

/-- Matching finds a splitting if there is one. -/
theorem matchTokens_iff {tokens : List Token} {text : List Char} :
    matchTokens tokens text = true ↔ Splits tokens text := by
  induction tokens generalizing text with
  | nil => rw [matchTokens, List.isEmpty_iff, splits_nil_iff]
  | cons token tokens ih =>
    rw [splits_cons_iff]
    by_cases hrun : token = .anyRun
    · subst hrun
      rw [matchTokens, matchAfterRun_iff]
      constructor
      · rintro ⟨dropped, left, rfl, hslash, hrest⟩
        exact ⟨dropped, left, rfl, .anyRun hslash, ih.1 hrest⟩
      · rintro ⟨piece, rest, rfl, hfits, hrest⟩
        cases hfits with
        | anyRun hslash => exact ⟨piece, rest, rfl, hslash, ih.2 hrest⟩
    · constructor
      · intro hmatch
        cases text with
        | nil =>
          rw [matchTokens.eq_3 token tokens hrun] at hmatch
          cases hmatch
        | cons c rest =>
          rw [matchTokens.eq_4 token tokens c rest hrun, Bool.and_eq_true] at hmatch
          exact ⟨[c], rest, rfl, (accepts_iff hrun).1 hmatch.1, ih.1 hmatch.2⟩
      · rintro ⟨piece, rest, rfl, hfits, hrest⟩
        obtain ⟨c, rfl⟩ := hfits.eq_singleton hrun
        rw [List.singleton_append, matchTokens.eq_4 token tokens c rest hrun, Bool.and_eq_true]
        exact ⟨(accepts_iff hrun).2 hfits, ih.2 hrest⟩

end Glob

namespace Selector

theorem compile_eq_ok_iff {pattern : String} {tokens : List Glob.Token} :
    compile pattern = .ok tokens ↔ Glob.Written pattern.toList tokens := by
  rw [← Glob.parse_eq_ok_iff, compile]
  cases Glob.parse pattern <;> simp [Except.mapError]

/-- An accepted glob has the tokens that its text writes and no others, and it matches the texts
that split into pieces for these tokens. -/
theorem compile_matches_iff {pattern : String} {tokens : List Glob.Token}
    (hcompile : compile pattern = .ok tokens) :
    (∀ others, Glob.Written pattern.toList others ↔ others = tokens) ∧
      ∀ text : String,
        Glob.matchTokens tokens text.toList = true ↔ Glob.Splits tokens text.toList := by
  constructor
  · intro others
    rw [← compile_eq_ok_iff, hcompile, Except.ok.injEq, eq_comm]
  · intro text
    exact Glob.matchTokens_iff

/-- A class with a range and an escaped bracket keeps slashes out, and so do stars. -/
theorem compile_matches_iff_class :
    ∃ tokens, compile "w[!a-c\\]].**" = .ok tokens ∧
      Glob.Splits tokens "wd.x-y".toList ∧ ¬Glob.Splits tokens "wb.x-y".toList ∧
        ¬Glob.Splits tokens "wd.x/y".toList := by
  have hcompile : compile "w[!a-c\\]].**" =
      .ok [.literal 'w', .noneOf [⟨'a', 'c'⟩, ⟨']', ']'⟩], .literal '.', .anyRun] := by
    decide
  obtain ⟨-, hmatches⟩ := compile_matches_iff hcompile
  exact ⟨_, hcompile, (hmatches "wd.x-y").1 (by decide), mt (hmatches "wb.x-y").2 (by decide),
    mt (hmatches "wd.x/y").2 (by decide)⟩

end Selector

end Preflight
