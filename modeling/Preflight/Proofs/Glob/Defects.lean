import Preflight.Proofs.Glob.Grammar

/-!
# The defects of glob patterns

A pattern is refused where reading it from left to right comes to something that no pattern of the
grammar goes on with.  The relations below say on the text of the pattern what this can be.  Reading
fails exactly for the patterns that meet a defect, and it reports the defect that is met.
-/

namespace Preflight.Glob

/-- How a class goes on behind its opening bracket: with its content, or with a mark that negates
the class and then its content. -/
inductive Opening : List Char → List Char → Prop where
  | unmarked {content : List Char}
      (hunmarked : ∀ c rest, content = c :: rest → c ∉ ['^', '!']) : Opening content content
  | marked {mark : Char} {content : List Char} (hmark : mark ∈ ['^', '!']) :
      Opening (mark :: content) content

/-- The defect that is met in the content of a class: the text ends, with or without a backslash, or
a range is in the wrong order.  A closing bracket that nothing escapes ends the class without
any. -/
inductive ContentMeets : List Char → Defect → Prop where
  | unclosed : ContentMeets [] .unterminatedClass
  | dangling : ContentMeets ['\\'] .trailingEscape
  | danglingEnd {spelling : List Char} {low : Char} (hlow : Listed spelling low) :
      ContentMeets (spelling ++ ['-', '\\']) .trailingEscape
  | disordered {lowSpelling highSpelling : List Char} {low high : Char} (text : List Char)
      (hlow : Listed lowSpelling low) (hhigh : Listed highSpelling high) (hlt : high < low) :
      ContentMeets (lowSpelling ++ '-' :: (highSpelling ++ text)) (.invalidRange low high)
  | single {spelling text : List Char} {c : Char} {defect : Defect} (hlisted : Listed spelling c)
      (hsingle : ∀ next rest, text ≠ '-' :: next :: rest) (htext : ContentMeets text defect) :
      ContentMeets (spelling ++ text) defect
  | range {lowSpelling highSpelling text : List Char} {low high : Char} {defect : Defect}
      (hlow : Listed lowSpelling low) (hhigh : Listed highSpelling high) (hordered : low ≤ high)
      (htext : ContentMeets text defect) :
      ContentMeets (lowSpelling ++ '-' :: (highSpelling ++ text)) defect

/-- The defect that a pattern meets when it is read from left to right. -/
inductive Meets : List Char → Defect → Prop where
  | trailingEscape : Meets ['\\'] .trailingEscape
  | inClass {text content : List Char} {defect : Defect} (hopening : Opening text content)
      (hcontent : ContentMeets content defect) : Meets ('[' :: text) defect
  | emptyClass {text rest : List Char} (hopening : Opening text (']' :: rest)) :
      Meets ('[' :: text) .emptyClass
  | afterClass {text body rest : List Char} {ranges : List CharRange} {defect : Defect}
      (hopening : Opening text (body ++ ']' :: rest)) (hbody : ClassBody body ranges)
      (hsome : body ≠ []) (hrest : Meets rest defect) : Meets ('[' :: text) defect
  | afterEscape (c : Char) {rest : List Char} {defect : Defect} (hrest : Meets rest defect) :
      Meets ('\\' :: c :: rest) defect
  | afterCharacter {c : Char} {rest : List Char} {defect : Defect} (hordinary : c ∉ ['[', '\\'])
      (hrest : Meets rest defect) : Meets (c :: rest) defect

/-! ## Rows of symbols that a text has -/

/-- The symbols are those of the text that they write. -/
def Faithful (row : List Symbol) : Prop := symbols (spell row) = row

theorem faithful_symbols (text : List Char) : Faithful (symbols text) := by
  rw [Faithful, spell_symbols]

theorem Faithful.not_mem {row : List Symbol} (hrow : Faithful row) : .plain '\\' ∉ row := by
  rw [← hrow]
  exact backslash_not_mem_symbols _

theorem Faithful.tail {symbol : Symbol} {row : List Symbol} (hrow : Faithful (symbol :: row)) :
    Faithful row := by
  have hspell := hrow
  rw [Faithful, spell_cons] at hspell
  cases symbol with
  | plain c =>
    have hplain : c ≠ '\\' := by
      rintro rfl
      exact hrow.not_mem List.mem_cons_self
    rw [Symbol.spelling, List.singleton_append, symbols_plain hplain] at hspell
    exact (List.cons.inj hspell).2
  | escaped c => exact (List.cons.inj hspell).2
  | dangling =>
    cases row with
    | nil => rfl
    | cons next rest =>
      -- With something behind it the backslash would have escaped it.
      cases next <;> cases hspell

/-- A backslash that escapes nothing is the last symbol. -/
theorem Faithful.eq_nil_of_dangling {row : List Symbol} (hrow : Faithful (.dangling :: row)) :
    row = [] := by
  cases row with
  | nil => rfl
  | cons next rest =>
    rw [Faithful, spell_cons, spell_cons] at hrow
    cases next <;> cases hrow

theorem Faithful.listed {symbol : Symbol} {row : List Symbol} {c : Char}
    (hrow : Faithful (symbol :: row)) (hopen : symbol ≠ .plain ']')
    (hcharacter : symbol.character = .ok c) : Listed symbol.spelling c := by
  refine listed_of_character hopen ?_ hcharacter
  rintro rfl
  exact hrow.not_mem List.mem_cons_self

theorem character_eq_error_iff {symbol : Symbol} {defect : Defect} :
    symbol.character = .error defect ↔ symbol = .dangling ∧ defect = .trailingEscape := by
  cases symbol <;> simp [Symbol.character, eq_comm]

theorem rangeOf_eq_error_iff {low high : Char} {defect : Defect} :
    rangeOf low high = .error defect ↔ high < low ∧ defect = .invalidRange low high := by
  rw [rangeOf]
  split
  · rename_i hlt
    simp [hlt, eq_comm]
  · rename_i hle
    simp [hle]

/-! ## Classes -/

/-- The content of a class meets the defect with which reading its ranges fails. -/
theorem contentMeets_of_classRanges {row : List Symbol} {defect : Defect} (hrow : Faithful row)
    (hranges : classRanges row = .error defect) : ContentMeets (spell row) defect := by
  fun_induction classRanges row with
  | case1 =>
    cases hranges
    exact .unclosed
  | case2 rest => cases hranges
  | case3 low rest hopen =>
    obtain ⟨rfl, -⟩ := character_eq_error_iff.1 (Fault.bind_pure_eq_error_iff.1 hranges)
    cases hrow.eq_nil_of_dangling
  | case4 low high rest hlowOpen hhighOpen ih =>
    rcases Fault.bind_eq_error_iff.1 hranges with hlow | ⟨c, hlow, hlater⟩
    · obtain ⟨rfl, -⟩ := character_eq_error_iff.1 hlow
      cases hrow.eq_nil_of_dangling
    have hlowListed := hrow.listed hlowOpen hlow
    rw [spell_range]
    rcases Fault.bind_eq_error_iff.1 hlater with hhigh | ⟨d, hhigh, hlater⟩
    · obtain ⟨rfl, rfl⟩ := character_eq_error_iff.1 hhigh
      cases hrow.tail.tail.eq_nil_of_dangling
      exact .danglingEnd hlowListed
    have hhighListed := hrow.tail.tail.listed hhighOpen hhigh
    rcases Fault.bind_eq_error_iff.1 hlater with hrange | ⟨range, hrange, hlater⟩
    · obtain ⟨hlt, rfl⟩ := rangeOf_eq_error_iff.1 hrange
      exact .disordered _ hlowListed hhighListed hlt
    rcases Fault.bind_eq_error_iff.1 hlater with hrest | ⟨found, -, hpure⟩
    · have hordered := (rangeOf_eq_ok_iff.1 hrange).1
      exact .range hlowListed hhighListed hordered (ih hrow.tail.tail.tail hrest)
    · cases hpure
  | case5 low rest hopen hlast hrange ih =>
    rcases Fault.bind_eq_error_iff.1 hranges with hlow | ⟨c, hlow, hlater⟩
    · obtain ⟨rfl, rfl⟩ := character_eq_error_iff.1 hlow
      cases hrow.eq_nil_of_dangling
      exact .dangling
    rcases Fault.bind_eq_error_iff.1 hlater with hrest | ⟨found, -, hpure⟩
    · rw [spell_cons]
      exact .single (hrow.listed hopen hlow) (spell_ne_hyphen hrange) (ih hrow.tail hrest)
    · cases hpure

theorem ContentMeets.classRanges_symbols {content : List Char} {defect : Defect}
    (hcontent : ContentMeets content defect) :
    classRanges (symbols content) = .error defect := by
  induction hcontent with
  | unclosed => rfl
  | dangling => rfl
  | danglingEnd hlow =>
    obtain ⟨symbol, hopen, hcharacter, hsymbols⟩ := hlow.symbol
    have hrow : symbols ['-', '\\'] = [.plain '-', .dangling] := rfl
    rw [hsymbols, hrow, classRanges, hcharacter]
    · rfl
    · exact hopen
    · simp
  | @disordered lowSpelling highSpelling low high text hlow hhigh hlt =>
    have hrange : rangeOf low high = .error (.invalidRange low high) :=
      rangeOf_eq_error_iff.2 ⟨hlt, rfl⟩
    rw [classRanges_range hlow hhigh, hrange]
    rfl
  | @single spelling text c defect hlisted hsingle htext ih =>
    obtain ⟨symbol, hopen, hcharacter, hsymbols⟩ := hlisted.symbol
    have hnever : ∀ high more, symbols text = .plain '-' :: high :: more → False := by
      intro high more heq
      have hspell := eq_of_symbols_cons heq
      cases high with
      | plain found => exact hsingle _ _ hspell
      | escaped found => exact hsingle _ _ hspell
      | dangling => exact hsingle _ _ hspell
    rw [hsymbols, classRanges, hcharacter, ih]
    · rfl
    · exact hopen
    · exact fun more heq => hnever _ more heq
    · exact hnever
  | @range lowSpelling highSpelling text low high defect hlow hhigh hordered htext ih =>
    have hrange : rangeOf low high = .ok ⟨low, high⟩ := rangeOf_eq_ok_iff.2 ⟨hordered, rfl⟩
    rw [classRanges_range hlow hhigh, hrange, ih]
    rfl

/-- A class fails with its content, or because it has none. -/
theorem classWith_eq_error_iff {make : List CharRange → Token} {row : List Symbol}
    {defect : Defect} :
    classWith make row = .error defect ↔
      classRanges row = .error defect ∨
        (∃ after, classRanges row = .ok ([], after)) ∧ defect = .emptyClass := by
  rw [classWith]
  cases classRanges row with
  | error found => simp [bind, Except.bind]
  | ok found =>
    obtain ⟨ranges, after⟩ := found
    cases ranges with
    | nil => simp [bind, Except.bind, throw, throwThe, MonadExceptOf.throw, eq_comm]
    | cons range others => simp [bind, Except.bind, pure, Except.pure]

theorem Opening.classToken_symbols {text content : List Char} (hopening : Opening text content) :
    ∃ make, classToken (symbols text) = classWith make (symbols content) := by
  cases hopening with
  | unmarked hunmarked =>
    exact ⟨.oneOf, classToken_unmarked (unmarked_symbols hunmarked)⟩
  | marked hmark =>
    refine ⟨.noneOf, ?_⟩
    rw [symbols_plain (ne_backslash_of_mark hmark), classToken_marked hmark]

/-- Whatever stands behind an opening bracket opens a class. -/
theorem exists_opening {row : List Symbol} (hrow : Faithful row) :
    ∃ content make, Faithful content ∧ Opening (spell row) (spell content) ∧
      classToken row = classWith make content ∧ content.length ≤ row.length := by
  by_cases hmarked : ∃ mark rest, row = .plain mark :: rest ∧ mark ∈ ['^', '!']
  · obtain ⟨mark, rest, rfl, hmark⟩ := hmarked
    exact ⟨rest, .noneOf, hrow.tail, .marked hmark, classToken_marked hmark rest, by simp⟩
  · have hunmarked : ∀ mark rest, row = .plain mark :: rest → mark ∉ ['^', '!'] :=
      fun mark rest heq hmark => hmarked ⟨mark, rest, heq, hmark⟩
    exact ⟨row, .oneOf, hrow, .unmarked (unmarked_spell hunmarked), classToken_unmarked hunmarked,
      Nat.le_refl _⟩

/-! ## Patterns -/

/-- A class that is closed at once has no content, and it is the only one that reads as empty. -/
theorem spell_of_classRanges_nil {row after : List Symbol} (hrow : Faithful row)
    (hranges : classRanges row = .ok ([], after)) : spell row = ']' :: spell after := by
  obtain ⟨body, rfl, hbody⟩ := classBody_of_classRanges hrow.not_mem hranges
  have hnone : spell body = [] := hbody.eq_nil_iff.2 rfl
  rw [spell_append, hnone, spell_cons]
  rfl

/-- An opening bracket in front of a class that cannot be read meets the defect of the class. -/
theorem meets_of_classToken {row : List Symbol} {defect : Defect} (hrow : Faithful row)
    (htoken : classToken row = .error defect) : Meets ('[' :: spell row) defect := by
  obtain ⟨content, make, hcontent, hopening, hclass, -⟩ := exists_opening hrow
  rw [hclass] at htoken
  rcases classWith_eq_error_iff.1 htoken with hranges | ⟨⟨after, hranges⟩, rfl⟩
  · exact .inClass hopening (contentMeets_of_classRanges hcontent hranges)
  · rw [spell_of_classRanges_nil hcontent hranges] at hopening
    exact .emptyClass hopening

theorem Faithful.append {before after : List Symbol} (hrow : Faithful (before ++ after)) :
    Faithful after := by
  induction before with
  | nil => exact hrow
  | cons symbol rest ih => exact ih hrow.tail

/-- A pattern meets the defect with which reading its symbols fails. -/
theorem meets_of_tokensWithin {fuel : Nat} {row : List Symbol} {defect : Defect}
    (hfuel : row.length ≤ fuel) (hrow : Faithful row)
    (htokens : tokensWithin fuel row = .error defect) : Meets (spell row) defect := by
  fun_induction tokensWithin fuel row with
  | case1 => cases htokens
  | case2 => cases htokens
  | case3 fuel rest ih =>
    have hrest := Fault.bind_pure_eq_error_iff.1 htokens
    rw [spell_cons]
    exact .afterCharacter (by decide) (ih (Nat.le_of_succ_le_succ hfuel) hrow.tail hrest)
  | case4 fuel rest ih =>
    have hrest := Fault.bind_pure_eq_error_iff.1 htokens
    rw [spell_cons]
    exact .afterCharacter (by decide) (ih (Nat.le_of_succ_le_succ hfuel) hrow.tail hrest)
  | case5 fuel rest ih =>
    rw [spell_cons]
    rcases Fault.bind_eq_error_iff.1 htokens with htoken | ⟨⟨token, after⟩, htoken, hlater⟩
    · exact meets_of_classToken hrow.tail htoken
    have hrest := Fault.bind_pure_eq_error_iff.1 hlater
    obtain ⟨content, make, hcontent, hopening, hclass, hlength⟩ := exists_opening hrow.tail
    rw [hclass] at htoken
    obtain ⟨ranges, hranges, hsome, -⟩ := classWith_eq_ok_iff.1 htoken
    obtain ⟨body, rfl, hbody⟩ := classBody_of_classRanges hcontent.not_mem hranges
    have hshorter : after.length ≤ fuel := by
      simp only [List.length_cons, List.length_append] at hfuel hlength
      omega
    rw [spell_append, spell_cons] at hopening
    exact .afterClass hopening hbody (mt hbody.eq_nil_iff.1 hsome)
      (ih after hshorter hcontent.append.tail hrest)
  | case6 fuel rest c hstar hquestion hbracket ih =>
    have hrest := Fault.bind_pure_eq_error_iff.1 htokens
    have hplain : c ≠ '\\' := by
      rintro rfl
      exact hrow.not_mem List.mem_cons_self
    rw [spell_cons]
    refine .afterCharacter ?_ (ih (Nat.le_of_succ_le_succ hfuel) hrow.tail hrest)
    simpa using ⟨hbracket, hplain⟩
  | case7 fuel rest c ih =>
    have hrest := Fault.bind_pure_eq_error_iff.1 htokens
    rw [spell_cons]
    exact .afterEscape c (ih (Nat.le_of_succ_le_succ hfuel) hrow.tail hrest)
  | case8 fuel rest =>
    cases htokens
    cases hrow.eq_nil_of_dangling
    exact .trailingEscape

/-- Whatever a symbol other than a bracket stands for, reading fails with what follows it. -/
theorem tokensWithin_plain_eq_error {c : Char} {row : List Symbol} {fuel : Nat} {defect : Defect}
    (hbracket : c ≠ '[') (hrest : tokensWithin fuel row = .error defect) :
    tokensWithin (fuel + 1) (.plain c :: row) = .error defect := by
  by_cases hstar : c = '*'
  · subst hstar
    rw [tokensWithin, hrest]
    rfl
  by_cases hquestion : c = '?'
  · subst hquestion
    rw [tokensWithin, hrest]
    rfl
  rw [tokensWithin, hrest]
  · rfl
  · exact hstar
  · exact hquestion
  · exact hbracket

theorem Meets.tokensWithin_symbols {text : List Char} {defect : Defect} (hmeets : Meets text defect)
    {fuel : Nat} (hfuel : (symbols text).length ≤ fuel) :
    tokensWithin fuel (symbols text) = .error defect := by
  induction hmeets generalizing fuel with
  | trailingEscape =>
    have hone : [Symbol.dangling].length ≤ fuel := hfuel
    obtain ⟨steps, rfl, hsteps⟩ := exists_steps hone
    rfl
  | inClass hopening hcontent =>
    obtain ⟨make, hclass⟩ := hopening.classToken_symbols
    rw [symbols_plain (by decide)] at hfuel ⊢
    obtain ⟨steps, rfl, hsteps⟩ := exists_steps hfuel
    rw [tokensWithin, hclass, classWith_eq_error_iff.2 (.inl hcontent.classRanges_symbols)]
    rfl
  | @emptyClass text rest hopening =>
    obtain ⟨make, hclass⟩ := hopening.classToken_symbols
    have hranges : classRanges (symbols (']' :: rest)) = .ok ([], symbols rest) :=
      classRanges_of_classBody .nil rest
    rw [symbols_plain (by decide)] at hfuel ⊢
    obtain ⟨steps, rfl, hsteps⟩ := exists_steps hfuel
    rw [tokensWithin, hclass, classWith_eq_error_iff.2 (.inr ⟨⟨_, hranges⟩, rfl⟩)]
    rfl
  | @afterClass text body rest ranges defect hopening hbody hsome hrest ih =>
    obtain ⟨make, hclass⟩ := hopening.classToken_symbols
    have hranges := classRanges_of_classBody hbody rest
    have htoken : classToken (symbols text) = .ok (make ranges, symbols rest) := by
      rw [hclass]
      exact classWith_eq_ok_iff.2 ⟨ranges, hranges, mt hbody.eq_nil_iff.2 hsome, rfl⟩
    rw [symbols_plain (by decide)] at hfuel ⊢
    obtain ⟨steps, rfl, hsteps⟩ := exists_steps hfuel
    rw [tokensWithin, htoken]
    simp only [bind, Except.bind, ih (Nat.le_trans (length_after_class htoken) hsteps)]
  | afterEscape c hrest ih =>
    rw [symbols] at hfuel ⊢
    obtain ⟨steps, rfl, hsteps⟩ := exists_steps hfuel
    rw [tokensWithin, ih hsteps]
    rfl
  | afterCharacter hordinary hrest ih =>
    simp only [List.mem_cons, List.not_mem_nil, or_false, not_or] at hordinary
    rw [symbols_plain hordinary.2] at hfuel ⊢
    obtain ⟨steps, rfl, hsteps⟩ := exists_steps hfuel
    exact tokensWithin_plain_eq_error hordinary.1 (ih hsteps)

/-- Reading refuses the patterns that meet a defect, and it reports the defect that is met. -/
theorem parse_eq_error_iff {pattern : String} {defect : Defect} :
    parse pattern = .error defect ↔ Meets pattern.toList defect := by
  rw [parse]
  constructor
  · intro hrefused
    have hmeets := meets_of_tokensWithin Nat.le.refl (faithful_symbols pattern.toList) hrefused
    rwa [spell_symbols] at hmeets
  · intro hmeets
    exact hmeets.tokensWithin_symbols Nat.le.refl

end Preflight.Glob
