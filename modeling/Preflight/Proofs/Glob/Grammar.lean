import Preflight.Glob.Pattern
import Preflight.Proofs.Action

/-!
# The grammar of glob patterns

A pattern is read in two steps, by way of its symbols.  The grammar below says in one step, on the
text of the pattern, which tokens it writes.  Reading accepts exactly the patterns of the grammar,
so every accepted pattern has one row of tokens.
-/

namespace Preflight.Glob

/-- A character as it is listed in a class: itself, unless it would end or escape something, or
behind a backslash. -/
inductive Listed : List Char → Char → Prop where
  | itself {c : Char} (hopen : c ≠ ']') (hplain : c ≠ '\\') : Listed [c] c
  | escaped (c : Char) : Listed ['\\', c] c

/-- What stands between the brackets of a class.  A hyphen between two characters makes a range; the
first or the last of all, or behind a range, it is listed itself. -/
inductive ClassBody : List Char → List CharRange → Prop where
  | nil : ClassBody [] []
  | single {spelling text : List Char} {c : Char} {ranges : List CharRange}
      (hlisted : Listed spelling c) (hsingle : ∀ next rest, text ≠ '-' :: next :: rest)
      (htext : ClassBody text ranges) : ClassBody (spelling ++ text) (⟨c, c⟩ :: ranges)
  | range {lowSpelling highSpelling text : List Char} {low high : Char} {ranges : List CharRange}
      (hlow : Listed lowSpelling low) (hhigh : Listed highSpelling high) (hordered : low ≤ high)
      (htext : ClassBody text ranges) :
      ClassBody (lowSpelling ++ '-' :: (highSpelling ++ text)) (⟨low, high⟩ :: ranges)

/-- The tokens that a pattern writes. -/
inductive Written : List Char → List Token → Prop where
  | nil : Written [] []
  | literal {c : Char} {text : List Char} {tokens : List Token}
      (hordinary : c ∉ ['*', '?', '[', '\\']) (htext : Written text tokens) :
      Written (c :: text) (.literal c :: tokens)
  | escaped {c : Char} {text : List Char} {tokens : List Token} (htext : Written text tokens) :
      Written ('\\' :: c :: text) (.literal c :: tokens)
  | anyOne {text : List Char} {tokens : List Token} (htext : Written text tokens) :
      Written ('?' :: text) (.anyOne :: tokens)
  | anyRun {text : List Char} {tokens : List Token} (further : Nat)
      (hend : ∀ rest, text ≠ '*' :: rest) (htext : Written text tokens) :
      Written (List.replicate (further + 1) '*' ++ text) (.anyRun :: tokens)
  | oneOf {body text : List Char} {ranges : List CharRange} {tokens : List Token}
      (hunmarked : ∀ c rest, body = c :: rest → c ∉ ['^', '!']) (hsome : body ≠ [])
      (hbody : ClassBody body ranges) (htext : Written text tokens) :
      Written ('[' :: (body ++ ']' :: text)) (.oneOf ranges :: tokens)
  | noneOf {mark : Char} {body text : List Char} {ranges : List CharRange} {tokens : List Token}
      (hmark : mark ∈ ['^', '!']) (hsome : body ≠ []) (hbody : ClassBody body ranges)
      (htext : Written text tokens) :
      Written ('[' :: mark :: (body ++ ']' :: text)) (.noneOf ranges :: tokens)

/-! ## Symbols and how they are written -/

def Symbol.spelling : Symbol → List Char
  | plain c => [c]
  | escaped c => ['\\', c]
  | dangling => ['\\']

/-- A row of symbols as it is written. -/
def spell (row : List Symbol) : List Char := row.flatMap Symbol.spelling

theorem spell_cons (symbol : Symbol) (row : List Symbol) :
    spell (symbol :: row) = symbol.spelling ++ spell row := List.flatMap_cons

theorem spell_append (first second : List Symbol) :
    spell (first ++ second) = spell first ++ spell second := List.flatMap_append

/-- A range as it is written. -/
theorem spell_range (low high : Symbol) (rest : List Symbol) :
    spell (low :: .plain '-' :: high :: rest) =
      low.spelling ++ '-' :: (high.spelling ++ spell rest) := by
  rw [spell_cons, spell_cons, spell_cons]
  rfl

theorem symbols_plain {c : Char} (hplain : c ≠ '\\') (text : List Char) :
    symbols (c :: text) = .plain c :: symbols text := by
  rw [symbols]
  · intro hbackslash
    exact absurd hbackslash hplain
  · intro next rest hbackslash
    exact absurd hbackslash hplain

theorem spell_symbols (text : List Char) : spell (symbols text) = text := by
  fun_induction symbols text with
  | case1 => rfl
  | case2 => rfl
  | case3 c rest ih => rw [spell_cons, ih]; rfl
  | case4 c rest hlast hpair ih => rw [spell_cons, ih]; rfl

/-- The text of a row of symbols starts with what is written for the first of them. -/
theorem eq_of_symbols_cons {text : List Char} {symbol : Symbol} {row : List Symbol}
    (hsymbols : symbols text = symbol :: row) : text = symbol.spelling ++ spell row := by
  rw [← spell_symbols text, hsymbols, spell_cons]

/-- A backslash is a symbol of its own only where nothing follows it. -/
theorem backslash_not_mem_symbols (text : List Char) : .plain '\\' ∉ symbols text := by
  fun_induction symbols text with
  | case1 => simp
  | case2 => simp
  | case3 c rest ih => simpa using ih
  | case4 c rest hlast hpair ih =>
    have hplain : c ≠ '\\' := by
      rintro rfl
      cases rest with
      | nil => exact hlast rfl rfl
      | cons next others => exact hpair next others rfl rfl
    simpa [ih] using hplain.symm

/-- Only the symbol for a character is written with that character in front, the backslash apart. -/
theorem eq_cons_of_spell {row : List Symbol} {c : Char} {text : List Char}
    (hspell : spell row = c :: text) (hplain : c ≠ '\\') :
    ∃ rest, row = .plain c :: rest ∧ spell rest = text := by
  cases row with
  | nil => cases hspell
  | cons symbol rest =>
    rw [spell_cons] at hspell
    cases symbol with
    | plain found =>
      obtain ⟨rfl, htext⟩ := List.cons.inj hspell
      exact ⟨rest, rfl, htext⟩
    | escaped found => exact absurd (List.cons.inj hspell).1.symm hplain
    | dangling => exact absurd (List.cons.inj hspell).1.symm hplain

/-- A hyphen with something behind it is written only where a range goes on. -/
theorem spell_ne_hyphen {row : List Symbol}
    (hsingle : ∀ high more, row = .plain '-' :: high :: more → False) (next : Char)
    (text : List Char) : spell row ≠ '-' :: next :: text := by
  intro hspell
  obtain ⟨more, rfl, hmore⟩ := eq_cons_of_spell hspell (by decide)
  cases more with
  | nil => cases hmore
  | cons high others => exact hsingle high _ rfl

/-! ## Classes -/

theorem listed_of_character {symbol : Symbol} {c : Char} (hopen : symbol ≠ .plain ']')
    (hplain : symbol ≠ .plain '\\') (hcharacter : symbol.character = .ok c) :
    Listed symbol.spelling c := by
  cases symbol with
  | plain found =>
    cases hcharacter
    exact .itself (fun heq => hopen (heq ▸ rfl)) fun heq => hplain (heq ▸ rfl)
  | escaped found =>
    cases hcharacter
    exact .escaped c
  | dangling => cases hcharacter

/-- A listed character is read as one symbol. -/
theorem Listed.symbol {spelling : List Char} {c : Char} (hlisted : Listed spelling c) :
    ∃ symbol : Symbol, symbol ≠ .plain ']' ∧ symbol.character = .ok c ∧
      ∀ text, symbols (spelling ++ text) = symbol :: symbols text := by
  cases hlisted with
  | itself hopen hplain =>
    refine ⟨.plain c, ?_, rfl, symbols_plain hplain⟩
    intro heq
    cases heq
    exact hopen rfl
  | escaped => exact ⟨.escaped c, by simp, rfl, fun text => rfl⟩

theorem rangeOf_eq_ok_iff {low high : Char} {range : CharRange} :
    rangeOf low high = .ok range ↔ low ≤ high ∧ range = ⟨low, high⟩ := by
  rw [rangeOf]
  split
  · rename_i hlt
    simp [Char.not_le.2 hlt]
  · rename_i hle
    simp [Char.not_lt.1 hle, eq_comm]

/-- The symbols of a class that was read are those of a class body, the bracket that closes it, and
what is left. -/
theorem classBody_of_classRanges {row after : List Symbol} {ranges : List CharRange}
    (hrow : .plain '\\' ∉ row) (hranges : classRanges row = .ok (ranges, after)) :
    ∃ body, row = body ++ .plain ']' :: after ∧ ClassBody (spell body) ranges := by
  fun_induction classRanges row generalizing ranges after with
  | case1 => cases hranges
  | case2 rest =>
    cases hranges
    exact ⟨[], rfl, .nil⟩
  | case3 low rest hopen =>
    obtain ⟨c, hcharacter, hrest⟩ := Fault.bind_eq_ok_iff.1 hranges
    cases hrest
    have hplain : low ≠ .plain '\\' := fun heq => hrow (heq ▸ List.mem_cons_self)
    have hhyphen : ClassBody ['-'] [⟨'-', '-'⟩] :=
      .single (.itself (by decide) (by decide)) (by simp) .nil
    refine ⟨[low, .plain '-'], rfl, ?_⟩
    exact .single (listed_of_character hopen hplain hcharacter) (by simp [Symbol.spelling]) hhyphen
  | case4 low high rest hlowOpen hhighOpen ih =>
    obtain ⟨c, hlow, hhighRest⟩ := Fault.bind_eq_ok_iff.1 hranges
    obtain ⟨d, hhigh, hrangeRest⟩ := Fault.bind_eq_ok_iff.1 hhighRest
    obtain ⟨range, hrange, hlater⟩ := Fault.bind_eq_ok_iff.1 hrangeRest
    obtain ⟨⟨others, left⟩, hothers, hpure⟩ := Fault.bind_eq_ok_iff.1 hlater
    cases hpure
    obtain ⟨hordered, rfl⟩ := rangeOf_eq_ok_iff.1 hrange
    simp only [List.mem_cons, not_or] at hrow
    obtain ⟨hlowPlain, -, hhighPlain, hrestPlain⟩ := hrow
    obtain ⟨body, rfl, hbody⟩ := ih hrestPlain hothers
    refine ⟨low :: .plain '-' :: high :: body, rfl, ?_⟩
    rw [spell_range]
    exact .range (listed_of_character hlowOpen (Ne.symm hlowPlain) hlow)
      (listed_of_character hhighOpen (Ne.symm hhighPlain) hhigh) hordered hbody
  | case5 low rest hopen hlast hrange ih =>
    obtain ⟨c, hcharacter, hlater⟩ := Fault.bind_eq_ok_iff.1 hranges
    obtain ⟨⟨others, left⟩, hothers, hpure⟩ := Fault.bind_eq_ok_iff.1 hlater
    cases hpure
    simp only [List.mem_cons, not_or] at hrow
    obtain ⟨body, rfl, hbody⟩ := ih hrow.2 hothers
    have hsingle : ∀ high more, body = .plain '-' :: high :: more → False := by
      rintro high more rfl
      exact hrange high _ rfl
    refine ⟨low :: body, rfl, ?_⟩
    exact .single (listed_of_character hopen (Ne.symm hrow.1) hcharacter) (spell_ne_hyphen hsingle)
      hbody

/-- A character that starts no range stands for itself. -/
theorem classRanges_single {low : Symbol} {rest after : List Symbol} {c : Char}
    {ranges : List CharRange} (hopen : low ≠ .plain ']') (hcharacter : low.character = .ok c)
    (hsingle : ∀ high more, rest = .plain '-' :: high :: more → high = .plain ']')
    (hrest : classRanges rest = .ok (ranges, after)) :
    classRanges (low :: rest) = .ok (⟨c, c⟩ :: ranges, after) := by
  by_cases hlast : ∃ more, rest = .plain '-' :: .plain ']' :: more
  · obtain ⟨more, rfl⟩ := hlast
    have hhyphen : classRanges (.plain '-' :: .plain ']' :: more) = .ok ([⟨'-', '-'⟩], more) := rfl
    rw [hhyphen] at hrest
    cases hrest
    rw [classRanges, hcharacter]
    · rfl
    · exact hopen
  · have hnever : ∀ high more, rest = .plain '-' :: high :: more → False := by
      intro high more heq
      exact hlast ⟨more, hsingle high more heq ▸ heq⟩
    rw [classRanges, hcharacter, hrest]
    · rfl
    · exact hopen
    · exact fun more heq => hnever _ more heq
    · exact hnever

/-- Two listed characters with a hyphen between them are read as a range. -/
theorem classRanges_range {lowSpelling highSpelling : List Char} {low high : Char}
    (hlow : Listed lowSpelling low) (hhigh : Listed highSpelling high) (text : List Char) :
    classRanges (symbols (lowSpelling ++ '-' :: (highSpelling ++ text))) = do
      let range ← rangeOf low high
      let (ranges, after) ← classRanges (symbols text)
      return (range :: ranges, after) := by
  obtain ⟨lowSymbol, hlowOpen, hlowCharacter, hlowSymbols⟩ := hlow.symbol
  obtain ⟨highSymbol, hhighOpen, hhighCharacter, hhighSymbols⟩ := hhigh.symbol
  rw [hlowSymbols, symbols_plain (by decide), hhighSymbols, classRanges, hlowCharacter,
    hhighCharacter]
  · rfl
  · exact hlowOpen
  · exact hhighOpen

theorem classRanges_of_classBody {body : List Char} {ranges : List CharRange}
    (hbody : ClassBody body ranges) (text : List Char) :
    classRanges (symbols (body ++ ']' :: text)) = .ok (ranges, symbols text) := by
  induction hbody with
  | nil => rw [List.nil_append, symbols_plain (by decide), classRanges]
  | @single spelling rest c ranges hlisted hsingle hrest ih =>
    obtain ⟨symbol, hopen, hcharacter, hsymbols⟩ := hlisted.symbol
    rw [List.append_assoc, hsymbols]
    apply classRanges_single hopen hcharacter _ ih
    intro high more heq
    have hspell : rest ++ ']' :: text = '-' :: spell (high :: more) := eq_of_symbols_cons heq
    cases rest with
    | nil => cases hspell
    | cons first others =>
      obtain ⟨rfl, hothers⟩ := List.cons.inj hspell
      cases others with
      | cons next following => exact absurd rfl (hsingle next following)
      | nil =>
        obtain ⟨left, hleft, -⟩ := eq_cons_of_spell hothers.symm (by decide)
        exact (List.cons.inj hleft).1
  | @range lowSpelling highSpelling rest low high ranges hlow hhigh hordered hrest ih =>
    have hrange : rangeOf low high = .ok ⟨low, high⟩ := rangeOf_eq_ok_iff.2 ⟨hordered, rfl⟩
    rw [List.append_assoc, List.cons_append, List.append_assoc, classRanges_range hlow hhigh,
      hrange, ih]
    rfl

/-! ## Patterns -/

/-- Only a run is written with a star in front. -/
theorem Written.eq_anyRun {rest : List Char} {tokens : List Token}
    (hwritten : Written ('*' :: rest) tokens) : ∃ others, tokens = .anyRun :: others := by
  generalize htext : '*' :: rest = text at hwritten
  cases hwritten with
  | nil => cases htext
  | literal hordinary => cases htext; simp at hordinary
  | anyRun => exact ⟨_, rfl⟩
  | escaped => cases htext
  | anyOne => cases htext
  | oneOf => cases htext
  | noneOf => cases htext

/-- A star in front of a pattern starts a run or goes on with it. -/
theorem Written.star {text : List Char} {tokens : List Token} (hwritten : Written text tokens) :
    Written ('*' :: text) (addRun tokens) := by
  rw [addRun.eq_def]
  split
  · cases hwritten with
    | anyRun further hend htext => exact .anyRun (further + 1) hend htext
  · rename_i hother
    refine .anyRun 0 ?_ hwritten
    rintro rest rfl
    obtain ⟨others, rfl⟩ := hwritten.eq_anyRun
    exact hother others rfl

theorem ClassBody.eq_nil_iff {body : List Char} {ranges : List CharRange}
    (hbody : ClassBody body ranges) : body = [] ↔ ranges = [] := by
  cases hbody with
  | nil => simp
  | single hlisted => cases hlisted <;> simp
  | range hlow => cases hlow <;> simp

/-- A class whose ranges make a token of some kind. -/
def classWith (make : List CharRange → Token) (row : List Symbol) :
    Except Defect (Token × List Symbol) := do
  let (ranges, after) ← classRanges row
  if ranges.isEmpty then throw .emptyClass
  return (make ranges, after)

theorem classWith_eq_ok_iff {make : List CharRange → Token} {row after : List Symbol}
    {token : Token} :
    classWith make row = .ok (token, after) ↔
      ∃ ranges, classRanges row = .ok (ranges, after) ∧ ranges ≠ [] ∧ token = make ranges := by
  rw [classWith, Fault.bind_eq_ok_iff]
  constructor
  · rintro ⟨⟨ranges, left⟩, hranges, htoken⟩
    cases ranges with
    | nil => cases htoken
    | cons range others =>
      cases htoken
      exact ⟨_, hranges, by simp, rfl⟩
  · rintro ⟨ranges, hranges, hsome, rfl⟩
    refine ⟨_, hranges, ?_⟩
    cases ranges with
    | nil => exact absurd rfl hsome
    | cons range others => rfl

theorem ne_backslash_of_mark {mark : Char} (hmark : mark ∈ ['^', '!']) : mark ≠ '\\' := by
  rintro rfl
  simp at hmark

/-- A text starts with no mark if its symbols do not. -/
theorem unmarked_spell {row : List Symbol}
    (hunmarked : ∀ mark rest, row = .plain mark :: rest → mark ∉ ['^', '!']) :
    ∀ c rest, spell row = c :: rest → c ∉ ['^', '!'] := by
  intro c rest hspell hmark
  obtain ⟨others, rfl, -⟩ := eq_cons_of_spell hspell (ne_backslash_of_mark hmark)
  exact hunmarked c _ rfl hmark

/-- The symbols of a text start with no mark if the text does not. -/
theorem unmarked_symbols {text : List Char}
    (hunmarked : ∀ c rest, text = c :: rest → c ∉ ['^', '!']) :
    ∀ mark rest, symbols text = .plain mark :: rest → mark ∉ ['^', '!'] := by
  intro mark rest hsymbols
  exact hunmarked mark _ (eq_of_symbols_cons hsymbols)

/-- A mark in front of a class negates it. -/
theorem classToken_marked {mark : Char} (hmark : mark ∈ ['^', '!']) (rest : List Symbol) :
    classToken (.plain mark :: rest) = classWith .noneOf rest := by
  simp only [List.mem_cons, List.not_mem_nil, or_false] at hmark
  rcases hmark with rfl | rfl <;> rfl

theorem classToken_unmarked {row : List Symbol}
    (hunmarked : ∀ mark rest, row = .plain mark :: rest → mark ∉ ['^', '!']) :
    classToken row = classWith .oneOf row := by
  rw [classToken]
  · rfl
  · rintro rest rfl
    exact absurd List.mem_cons_self (hunmarked '^' rest rfl)
  · rintro rest rfl
    exact absurd (by simp) (hunmarked '!' rest rfl)

/-- The symbols of a class that was read are those of a class of the grammar, with the bracket that
closes it, and what is left. -/
theorem written_of_classToken {row after : List Symbol} {token : Token}
    (hrow : .plain '\\' ∉ row) (htoken : classToken row = .ok (token, after)) :
    ∃ content, row = content ++ .plain ']' :: after ∧ ∀ text tokens, Written text tokens →
      Written ('[' :: (spell content ++ ']' :: text)) (token :: tokens) := by
  by_cases hmarked : ∃ mark rest, row = .plain mark :: rest ∧ mark ∈ ['^', '!']
  · obtain ⟨mark, rest, rfl, hmark⟩ := hmarked
    rw [classToken_marked hmark] at htoken
    obtain ⟨ranges, hranges, hsome, rfl⟩ := classWith_eq_ok_iff.1 htoken
    obtain ⟨body, rfl, hbody⟩ :=
      classBody_of_classRanges (List.not_mem_of_not_mem_cons hrow) hranges
    refine ⟨.plain mark :: body, rfl, fun text tokens htext => ?_⟩
    rw [spell_cons]
    exact .noneOf hmark (mt hbody.eq_nil_iff.1 hsome) hbody htext
  · have hunmarked : ∀ mark rest, row = .plain mark :: rest → mark ∉ ['^', '!'] :=
      fun mark rest heq hmark => hmarked ⟨mark, rest, heq, hmark⟩
    rw [classToken_unmarked hunmarked] at htoken
    obtain ⟨ranges, hranges, hsome, rfl⟩ := classWith_eq_ok_iff.1 htoken
    obtain ⟨body, rfl, hbody⟩ := classBody_of_classRanges hrow hranges
    refine ⟨body, rfl, fun text tokens htext => ?_⟩
    refine .oneOf (unmarked_spell ?_) (mt hbody.eq_nil_iff.1 hsome) hbody htext
    rintro mark rest rfl
    exact hunmarked mark _ rfl

/-- The tokens that were read are those that the grammar gives to the text. -/
theorem written_of_tokensWithin {fuel : Nat} {row : List Symbol} {tokens : List Token}
    (hfuel : row.length ≤ fuel) (hrow : .plain '\\' ∉ row)
    (htokens : tokensWithin fuel row = .ok tokens) : Written (spell row) tokens := by
  fun_induction tokensWithin fuel row generalizing tokens with
  | case1 =>
    cases htokens
    exact .nil
  | case2 row hsome => exact absurd (List.length_eq_zero_iff.1 (Nat.le_zero.1 hfuel)) hsome
  | case3 fuel rest ih =>
    obtain ⟨others, hothers, hpure⟩ := Fault.bind_eq_ok_iff.1 htokens
    cases hpure
    exact (ih (Nat.le_of_succ_le_succ hfuel) (List.not_mem_of_not_mem_cons hrow) hothers).star
  | case4 fuel rest ih =>
    obtain ⟨others, hothers, hpure⟩ := Fault.bind_eq_ok_iff.1 htokens
    cases hpure
    exact .anyOne (ih (Nat.le_of_succ_le_succ hfuel) (List.not_mem_of_not_mem_cons hrow) hothers)
  | case5 fuel rest ih =>
    obtain ⟨⟨token, after⟩, htoken, hlater⟩ := Fault.bind_eq_ok_iff.1 htokens
    obtain ⟨others, hothers, hpure⟩ := Fault.bind_eq_ok_iff.1 hlater
    cases hpure
    have hrest : .plain '\\' ∉ rest := List.not_mem_of_not_mem_cons hrow
    obtain ⟨content, rfl, hclass⟩ := written_of_classToken hrest htoken
    rw [spell_cons, spell_append, spell_cons]
    refine hclass _ _ (ih after ?_ ?_ hothers)
    · simp only [List.length_cons, List.length_append] at hfuel
      omega
    · exact fun hmem => hrest (List.mem_append_right _ (List.mem_cons_of_mem _ hmem))
  | case6 fuel rest c hstar hquestion hbracket ih =>
    obtain ⟨others, hothers, hpure⟩ := Fault.bind_eq_ok_iff.1 htokens
    cases hpure
    have hplain : c ≠ '\\' := fun heq => hrow (heq ▸ List.mem_cons_self)
    have hordinary : c ∉ ['*', '?', '[', '\\'] := by
      simp only [List.mem_cons, List.not_mem_nil, or_false, not_or]
      exact ⟨hstar, hquestion, hbracket, hplain⟩
    have hrest : .plain '\\' ∉ rest := List.not_mem_of_not_mem_cons hrow
    exact .literal hordinary (ih (Nat.le_of_succ_le_succ hfuel) hrest hothers)
  | case7 fuel rest c ih =>
    obtain ⟨others, hothers, hpure⟩ := Fault.bind_eq_ok_iff.1 htokens
    cases hpure
    exact .escaped (ih (Nat.le_of_succ_le_succ hfuel) (List.not_mem_of_not_mem_cons hrow) hothers)
  | case8 => cases htokens

/-! ## Reading a written pattern -/

theorem exists_steps {symbol : Symbol} {row : List Symbol} {fuel : Nat}
    (hfuel : (symbol :: row).length ≤ fuel) : ∃ steps, fuel = steps + 1 ∧ row.length ≤ steps := by
  cases fuel with
  | zero => simp at hfuel
  | succ steps => exact ⟨steps, rfl, Nat.le_of_succ_le_succ hfuel⟩

theorem symbols_stars (count : Nat) (text : List Char) :
    symbols (List.replicate count '*' ++ text) =
      List.replicate count (.plain '*') ++ symbols text := by
  induction count with
  | zero => rfl
  | succ count ih =>
    rw [List.replicate_succ, List.cons_append, symbols_plain (by decide), ih]
    rfl

theorem Written.eq_star {text : List Char} {others : List Token}
    (hwritten : Written text (.anyRun :: others)) : ∃ rest, text = '*' :: rest := by
  cases hwritten with
  | anyRun further hend htext => exact ⟨_, by rw [List.replicate_succ, List.cons_append]⟩

/-- All the stars of a run are read as one. -/
theorem tokensWithin_stars {row : List Symbol} {tokens : List Token}
    (hrow : ∀ steps, row.length ≤ steps → tokensWithin steps row = .ok tokens)
    (hend : ∀ others, tokens ≠ .anyRun :: others) (further : Nat) {fuel : Nat}
    (hfuel : (List.replicate (further + 1) (Symbol.plain '*') ++ row).length ≤ fuel) :
    tokensWithin fuel (List.replicate (further + 1) (.plain '*') ++ row) =
      .ok (.anyRun :: tokens) := by
  induction further generalizing fuel with
  | zero =>
    obtain ⟨steps, rfl, hsteps⟩ := exists_steps hfuel
    have hrun : addRun tokens = .anyRun :: tokens := by
      rw [addRun]
      exact hend
    rw [List.replicate_one, List.singleton_append, tokensWithin, hrow steps hsteps, ← hrun]
    rfl
  | succ further ih =>
    rw [List.replicate_succ, List.cons_append] at hfuel ⊢
    obtain ⟨steps, rfl, hsteps⟩ := exists_steps hfuel
    rw [tokensWithin, ih hsteps]
    rfl

theorem classToken_oneOf {body : List Char} {ranges : List CharRange}
    (hunmarked : ∀ c rest, body = c :: rest → c ∉ ['^', '!']) (hsome : body ≠ [])
    (hbody : ClassBody body ranges) (text : List Char) :
    classToken (symbols (body ++ ']' :: text)) = .ok (.oneOf ranges, symbols text) := by
  obtain ⟨first, others, rfl⟩ := List.exists_cons_of_ne_nil hsome
  have hopening : ∀ c rest, first :: others ++ ']' :: text = c :: rest → c ∉ ['^', '!'] := by
    intro c rest hcons
    rw [← (List.cons.inj hcons).1]
    exact hunmarked first others rfl
  rw [classToken_unmarked (unmarked_symbols hopening)]
  exact classWith_eq_ok_iff.2
    ⟨ranges, classRanges_of_classBody hbody text, mt hbody.eq_nil_iff.2 hsome, rfl⟩

theorem classToken_noneOf {mark : Char} {body : List Char} {ranges : List CharRange}
    (hmark : mark ∈ ['^', '!']) (hsome : body ≠ []) (hbody : ClassBody body ranges)
    (text : List Char) :
    classToken (symbols (mark :: (body ++ ']' :: text))) = .ok (.noneOf ranges, symbols text) := by
  rw [symbols_plain (ne_backslash_of_mark hmark), classToken_marked hmark]
  exact classWith_eq_ok_iff.2
    ⟨ranges, classRanges_of_classBody hbody text, mt hbody.eq_nil_iff.2 hsome, rfl⟩

/-- A class takes up symbols of its own. -/
theorem length_after_class {text rest : List Char} {token : Token}
    (htoken : classToken (symbols text) = .ok (token, symbols rest)) :
    (symbols rest).length ≤ (symbols text).length := by
  obtain ⟨before, hbefore, -⟩ := written_of_classToken (backslash_not_mem_symbols _) htoken
  rw [hbefore, List.length_append, List.length_cons]
  omega

/-- The steps suffice for what follows a class. -/
theorem tokensWithin_class {content text : List Char} {token : Token} {tokens : List Token}
    (htoken : classToken (symbols (content ++ ']' :: text)) = .ok (token, symbols text))
    (htext : ∀ steps, (symbols text).length ≤ steps →
      tokensWithin steps (symbols text) = .ok tokens)
    {fuel : Nat} (hfuel : (symbols ('[' :: (content ++ ']' :: text))).length ≤ fuel) :
    tokensWithin fuel (symbols ('[' :: (content ++ ']' :: text))) = .ok (token :: tokens) := by
  rw [symbols_plain (by decide)] at hfuel ⊢
  obtain ⟨steps, rfl, hsteps⟩ := exists_steps hfuel
  rw [tokensWithin, htoken]
  simp only [bind, Except.bind, htext steps (Nat.le_trans (length_after_class htoken) hsteps)]
  rfl

/-- A written pattern is read as its tokens, given one step for each of its symbols. -/
theorem Written.tokensWithin_symbols {text : List Char} {tokens : List Token}
    (hwritten : Written text tokens) {fuel : Nat} (hfuel : (symbols text).length ≤ fuel) :
    tokensWithin fuel (symbols text) = .ok tokens := by
  induction hwritten generalizing fuel with
  | nil => rw [symbols, tokensWithin]
  | literal hordinary hrest ih =>
    simp only [List.mem_cons, List.not_mem_nil, or_false, not_or] at hordinary
    obtain ⟨hstar, hquestion, hbracket, hplain⟩ := hordinary
    rw [symbols_plain hplain] at hfuel ⊢
    obtain ⟨steps, rfl, hsteps⟩ := exists_steps hfuel
    rw [tokensWithin, ih hsteps]
    · rfl
    · exact hstar
    · exact hquestion
    · exact hbracket
  | escaped hrest ih =>
    rw [symbols] at hfuel ⊢
    obtain ⟨steps, rfl, hsteps⟩ := exists_steps hfuel
    rw [tokensWithin, ih hsteps]
    rfl
  | anyOne hrest ih =>
    rw [symbols_plain (by decide)] at hfuel ⊢
    obtain ⟨steps, rfl, hsteps⟩ := exists_steps hfuel
    rw [tokensWithin, ih hsteps]
    rfl
  | anyRun further hend hrest ih =>
    rw [symbols_stars] at hfuel ⊢
    refine tokensWithin_stars (fun steps => ih) ?_ further hfuel
    rintro others rfl
    obtain ⟨following, hfollowing⟩ := hrest.eq_star
    exact hend following hfollowing
  | oneOf hunmarked hsome hbody hrest ih =>
    exact tokensWithin_class (classToken_oneOf hunmarked hsome hbody _) (fun steps => ih) hfuel
  | @noneOf mark body rest ranges tokens hmark hsome hbody hrest ih =>
    have hclass := classToken_noneOf hmark hsome hbody rest
    rw [← List.cons_append] at hclass hfuel ⊢
    exact tokensWithin_class hclass (fun steps => ih) hfuel

/-- Reading accepts the patterns of the grammar, and it gives the tokens that they write. -/
theorem parse_eq_ok_iff {pattern : String} {tokens : List Token} :
    parse pattern = .ok tokens ↔ Written pattern.toList tokens := by
  rw [parse]
  constructor
  · intro htokens
    have hwritten := written_of_tokensWithin Nat.le.refl (backslash_not_mem_symbols _) htokens
    rwa [spell_symbols] at hwritten
  · intro hwritten
    exact hwritten.tokensWithin_symbols Nat.le.refl

end Preflight.Glob
