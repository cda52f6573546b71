import Mathlib.Computability.Language
import Preflight.Proofs.Glob.Language

/-!
# Glob patterns as regular expressions

A matcher of regular expressions can take over the matching if the tokens of a pattern are written
as an expression.  The escapes in it are what keeps it an expression: whatever characters the
pattern has, none of them is taken for more than itself.  The grammar below reads such expressions
together with the language that each stands for.  Every expression of an accepted pattern is in the
grammar, and its language is the set of texts that the pattern matches.
-/

namespace Preflight.Glob

/-! ## Regular expressions -/

/-- The characters that an expression does not show as they are. -/
def reserved : List Char :=
  ['(', ')', '[', ']', '\x7b', '\x7d', '?', '*', '+', '-', '|', '^', '$', '\\', '.', '&', '~', '#',
    ' ', '\t', '\n', '\r', '\x0b', '\x0c']

/-- A character as an expression shows it.  Behind a backslash, letters and digits have meanings of
their own. -/
inductive Shown : List Char → Char → Prop where
  | itself {c : Char} (hplain : c ∉ reserved) : Shown [c] c
  | escaped {c : Char} (hsymbol : c.isAlphanum = false) : Shown ['\\', c] c

/-- What stands between the brackets of a set of characters, and the characters in the set.  A range
goes upwards. -/
inductive Members : List Char → Set Char → Prop where
  | nil : Members [] ∅
  | single {shown text : List Char} {c : Char} {others : Set Char} (hshown : Shown shown c)
      (htext : Members text others) : Members (shown ++ text) ({c} ∪ others)
  | range {lowShown highShown text : List Char} {low high : Char} {others : Set Char}
      (hlow : Shown lowShown low) (hhigh : Shown highShown high) (hordered : low ≤ high)
      (htext : Members text others) :
      Members (lowShown ++ '-' :: highShown ++ text) ({c | low ≤ c ∧ c ≤ high} ∪ others)

/-- The parts of an expression that stand for one character, and the characters that they stand
for.  A set has members. -/
inductive Atom : List Char → Set Char → Prop where
  | character {shown : List Char} {c : Char} (hshown : Shown shown c) : Atom shown {c}
  | set {members : List Char} {chars : Set Char} (hsome : members ≠ [])
      (hmembers : Members members chars) : Atom ('[' :: (members ++ [']'])) chars
  | complement {members : List Char} {chars : Set Char} (hsome : members ≠ [])
      (hmembers : Members members chars) : Atom ('[' :: '^' :: (members ++ [']'])) charsᶜ

/-- The texts of one character. -/
def singles (chars : Set Char) : Language Char := {text | ∃ c ∈ chars, text = [c]}

/-- The regular expressions that end where the text has to end, and what they stand for. -/
inductive Denotes : List Char → Language Char → Prop where
  | finish : Denotes ['\\', 'Z'] 1
  | once {atom rest : List Char} {chars : Set Char} {language : Language Char}
      (hatom : Atom atom chars) (hrest : Denotes rest language) :
      Denotes (atom ++ rest) (singles chars * language)
  | repeated {atom rest : List Char} {chars : Set Char} {language : Language Char}
      (hatom : Atom atom chars) (hrest : Denotes rest language) :
      Denotes (atom ++ '*' :: rest) (KStar.kstar (singles chars) * language)

/-! ## Tokens written as expressions -/

def escape (c : Char) : List Char := if c ∈ reserved then ['\\', c] else [c]

/-- A range of one character is written with both ends or as this character, as the pattern had
it. -/
inductive CharRange.Expressed : CharRange → List Char → Prop where
  | alone (c : Char) : Expressed ⟨c, c⟩ (escape c)
  | ends (low high : Char) : Expressed ⟨low, high⟩ (escape low ++ '-' :: escape high)

inductive Token.Expressed : Token → List Char → Prop where
  | literal (c : Char) : Expressed (.literal c) (escape c)
  | anyOne : Expressed .anyOne ['[', '^', '/', ']']
  | anyRun : Expressed .anyRun ['[', '^', '/', ']', '*']
  | oneOf {ranges : List CharRange} {items : List (List Char)}
      (hitems : List.Forall₂ CharRange.Expressed ranges items) :
      Expressed (.oneOf ranges) ('[' :: (items.flatten ++ [']']))
  | noneOf {ranges : List CharRange} {items : List (List Char)}
      (hitems : List.Forall₂ CharRange.Expressed ranges items) :
      Expressed (.noneOf ranges) ('[' :: '^' :: '/' :: (items.flatten ++ [']']))

/-- The expressions for a row of tokens: one part for each token, and the end of the text. -/
def Expressed (tokens : List Token) (expression : List Char) : Prop :=
  ∃ parts, List.Forall₂ Token.Expressed tokens parts ∧ expression = parts.flatten ++ ['\\', 'Z']

/-- A class has members, and each of its ranges goes upwards. -/
def Token.Proper : Token → Prop
  | oneOf ranges | noneOf ranges => ranges ≠ [] ∧ ∀ range ∈ ranges, range.low ≤ range.high
  | _ => True

/-! ## The tokens of patterns -/

theorem ClassBody.ordered {body : List Char} {ranges : List CharRange}
    (hbody : ClassBody body ranges) : ∀ range ∈ ranges, range.low ≤ range.high := by
  induction hbody with
  | nil => simp
  | single hlisted hsingle htext ih => simpa using ih
  | range hlow hhigh hordered htext ih => simpa using ⟨hordered, ih⟩

theorem Written.proper {pattern : List Char} {tokens : List Token}
    (hwritten : Written pattern tokens) : ∀ token ∈ tokens, token.Proper := by
  have hclass : ∀ {body : List Char} {ranges : List CharRange}, body ≠ [] →
      ClassBody body ranges → ranges ≠ [] ∧ ∀ range ∈ ranges, range.low ≤ range.high :=
    fun hsome hbody => ⟨mt hbody.eq_nil_iff.2 hsome, hbody.ordered⟩
  induction hwritten with
  | nil => exact List.forall_mem_nil _
  | literal hordinary htext ih => exact List.forall_mem_cons.2 ⟨trivial, ih⟩
  | escaped htext ih => exact List.forall_mem_cons.2 ⟨trivial, ih⟩
  | anyOne htext ih => exact List.forall_mem_cons.2 ⟨trivial, ih⟩
  | anyRun further hend htext ih => exact List.forall_mem_cons.2 ⟨trivial, ih⟩
  | oneOf hunmarked hsome hbody htext ih => exact List.forall_mem_cons.2 ⟨hclass hsome hbody, ih⟩
  | noneOf hmark hsome hbody htext ih => exact List.forall_mem_cons.2 ⟨hclass hsome hbody, ih⟩

/-! ## Expressions of classes -/

theorem shown_escape (c : Char) : Shown (escape c) c := by
  rw [escape]
  split
  · rename_i hreserved
    have hsymbols : reserved.all (fun c => !c.isAlphanum) = true := rfl
    exact .escaped (by simpa using List.all_eq_true.1 hsymbols c hreserved)
  · rename_i hplain
    exact .itself hplain

theorem escape_ne_nil (c : Char) : escape c ≠ [] := by
  rw [escape]
  split <;> simp

theorem CharRange.Expressed.ne_nil {range : CharRange} {item : List Char}
    (hitem : range.Expressed item) : item ≠ [] := by
  cases hitem with
  | alone c => exact escape_ne_nil c
  | ends low high => simp

/-- The items of a class are members of a set, and the set has what the ranges have. -/
theorem members_of_expressed {ranges : List CharRange} {items : List (List Char)}
    (hordered : ∀ range ∈ ranges, range.low ≤ range.high)
    (hitems : List.Forall₂ CharRange.Expressed ranges items) :
    Members items.flatten {c | InClass ranges c} := by
  induction hitems with
  | nil =>
    have hnone : {c | InClass [] c} = ∅ := by simp [InClass]
    rw [hnone]
    exact .nil
  | @cons range item ranges items hitem hitems ih =>
    have hunion : {c | InClass (range :: ranges) c} =
        {c | range.low ≤ c ∧ c ≤ range.high} ∪ {c | InClass ranges c} := by
      ext c
      simp [InClass]
    rw [List.forall_mem_cons] at hordered
    rw [hunion, List.flatten_cons]
    cases hitem with
    | alone c =>
      have hone : {d | c ≤ d ∧ d ≤ c} = {c} := by
        ext d
        constructor
        · intro hd
          exact Char.le_antisymm hd.2 hd.1
        · rintro rfl
          exact ⟨Char.le_refl d, Char.le_refl d⟩
      rw [hone]
      exact .single (shown_escape c) (ih hordered.2)
    | ends low high =>
      exact .range (shown_escape low) (shown_escape high) hordered.1 (ih hordered.2)

theorem flatten_ne_nil_of_expressed {ranges : List CharRange} {items : List (List Char)}
    (hsome : ranges ≠ []) (hitems : List.Forall₂ CharRange.Expressed ranges items) :
    items.flatten ≠ [] := by
  cases hitems with
  | nil => exact absurd rfl hsome
  | cons hitem hitems => simp [hitem.ne_nil]

/-- The slash heads the members that a token keeps out. -/
theorem members_slash {members : List Char} {chars : Set Char} (hmembers : Members members chars) :
    Members ('/' :: members) ({'/'} ∪ chars) :=
  .single (.itself (by decide)) hmembers

/-! ## Expressions of tokens -/

theorem mem_kstar_singles_iff {chars : Set Char} {text : List Char} :
    text ∈ KStar.kstar (singles chars) ↔ ∀ c ∈ text, c ∈ chars := by
  rw [Language.mem_kstar]
  constructor
  · rintro ⟨pieces, rfl, hpieces⟩ c hmem
    obtain ⟨piece, hpiece, hc⟩ := List.mem_flatten.1 hmem
    obtain ⟨d, hd, rfl⟩ := hpieces piece hpiece
    rwa [List.mem_singleton.1 hc]
  · intro hall
    refine ⟨text.map ([·]), ?_, ?_⟩
    · induction text with
      | nil => rfl
      | cons c rest ih =>
        rw [List.map_cons, List.flatten_cons,
          ← ih fun c hmem => hall c (List.mem_cons_of_mem _ hmem)]
        rfl
    · intro piece hpiece
      obtain ⟨c, hc, rfl⟩ := List.mem_map.1 hpiece
      exact ⟨c, hall c hc, rfl⟩

/-- The pieces of text that a token stands for. -/
def Token.pieces (token : Token) : Language Char := {piece | Fits token piece}

/-- The texts that a row of tokens matches. -/
def matched (tokens : List Token) : Language Char := {text | Splits tokens text}

theorem Token.pieces_of_single {token : Token} (hsingle : token ≠ .anyRun) :
    token.pieces = singles {c | Fits token [c]} := by
  ext piece
  constructor
  · intro hfits
    obtain ⟨c, rfl⟩ := Fits.eq_singleton hfits hsingle
    exact ⟨c, hfits, rfl⟩
  · rintro ⟨c, hfits, rfl⟩
    exact hfits

/-- A run of any length repeats what stands for one character. -/
theorem Token.pieces_anyRun :
    Token.anyRun.pieces = KStar.kstar (singles {c | Fits .anyOne [c]}) := by
  ext piece
  refine Iff.trans ?_ mem_kstar_singles_iff.symm
  constructor
  · intro hfits c hc
    cases hfits with
    | anyRun hslash => exact .anyOne (ne_of_mem_of_not_mem hc hslash)
  · intro hall
    refine .anyRun fun hmem => ?_
    cases hall _ hmem with
    | anyOne hslash => exact hslash rfl

theorem atom_anyOne : Atom ['[', '^', '/', ']'] {c | Fits .anyOne [c]} := by
  have hset : {c | Fits .anyOne [c]} = ({'/'} ∪ ∅)ᶜ := by
    ext c
    simp [← accepts_iff, Token.accepts]
  rw [hset]
  exact .complement (by simp) (members_slash .nil)

/-- Every token but a run is written as a part that stands for one character. -/
theorem Token.Expressed.atom {token : Token} {part : List Char} (hpart : token.Expressed part)
    (hproper : token.Proper) (hsingle : token ≠ .anyRun) : Atom part {c | Fits token [c]} := by
  cases hpart with
  | anyRun => exact absurd rfl hsingle
  | literal c =>
    have hset : {d | Fits (.literal c) [d]} = {c} := by
      ext d
      simp [← accepts_iff, Token.accepts]
    rw [hset]
    exact .character (shown_escape c)
  | anyOne => exact atom_anyOne
  | @oneOf ranges items hitems =>
    have hset : {c | Fits (.oneOf ranges) [c]} = {c | InClass ranges c} := by
      ext c
      rw [Set.mem_ofPred_eq, ← accepts_iff hsingle, Token.accepts, any_contains_iff]
      rfl
    rw [hset]
    exact .set (flatten_ne_nil_of_expressed hproper.1 hitems)
      (members_of_expressed hproper.2 hitems)
  | @noneOf ranges items hitems =>
    have hset : {c | Fits (.noneOf ranges) [c]} = ({'/'} ∪ {c | InClass ranges c})ᶜ := by
      ext c
      simp [← accepts_iff, Token.accepts, ← any_contains_iff]
    rw [hset]
    exact .complement (by simp) (members_slash (members_of_expressed hproper.2 hitems))

theorem Token.Expressed.denotes {token : Token} {part rest : List Char} {language : Language Char}
    (hpart : token.Expressed part) (hproper : token.Proper) (hrest : Denotes rest language) :
    Denotes (part ++ rest) (token.pieces * language) := by
  by_cases hrun : token = .anyRun
  · subst hrun
    cases hpart
    rw [Token.pieces_anyRun]
    exact .repeated atom_anyOne hrest
  · rw [Token.pieces_of_single hrun]
    exact .once (hpart.atom hproper hrun) hrest

/-! ## Expressions of patterns -/

theorem matched_nil : matched [] = 1 := by
  ext text
  exact splits_nil_iff.trans (Language.mem_one text).symm

theorem matched_cons (token : Token) (tokens : List Token) :
    matched (token :: tokens) = token.pieces * matched tokens := by
  ext text
  constructor
  · intro hsplits
    obtain ⟨piece, rest, rfl, hfits, hrest⟩ := splits_cons_iff.1 hsplits
    exact Language.append_mem_mul hfits hrest
  · intro hmem
    obtain ⟨piece, hfits, rest, hrest, rfl⟩ := Language.mem_mul.1 hmem
    exact splits_cons_iff.2 ⟨piece, rest, rfl, hfits, hrest⟩

/-- What is written for a row of tokens is a regular expression, and it stands for the texts that
the tokens match. -/
theorem Expressed.denotes {tokens : List Token} {expression : List Char}
    (hexpressed : Expressed tokens expression) (hproper : ∀ token ∈ tokens, token.Proper) :
    Denotes expression (matched tokens) := by
  obtain ⟨parts, hparts, rfl⟩ := hexpressed
  induction hparts with
  | nil =>
    rw [matched_nil]
    exact .finish
  | cons hpart hparts ih =>
    rw [List.forall_mem_cons] at hproper
    rw [matched_cons, List.flatten_cons, List.append_assoc]
    exact hpart.denotes hproper.1 (ih hproper.2)

/-- Every row of tokens can be written. -/
theorem exists_expressed (tokens : List Token) : ∃ expression, Expressed tokens expression := by
  have hitems : ∀ ranges : List CharRange,
      ∃ items, List.Forall₂ CharRange.Expressed ranges items := fun ranges =>
    ⟨_, List.forall₂_map_right_iff.2
      (List.forall₂_same.2 fun range _ => .ends range.low range.high)⟩
  have hpart : ∀ token : Token, ∃ part, token.Expressed part := by
    intro token
    cases token with
    | literal c => exact ⟨_, .literal c⟩
    | anyOne => exact ⟨_, .anyOne⟩
    | anyRun => exact ⟨_, .anyRun⟩
    | oneOf ranges => exact (hitems ranges).imp' _ fun items => .oneOf
    | noneOf ranges => exact (hitems ranges).imp' _ fun items => .noneOf
  choose part hpart using hpart
  have hparts : List.Forall₂ Token.Expressed tokens (tokens.map part) :=
    List.forall₂_map_right_iff.2 (List.forall₂_same.2 fun token _ => hpart token)
  exact ⟨_, _, hparts, rfl⟩

end Preflight.Glob
