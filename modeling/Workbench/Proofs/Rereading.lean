import Workbench.Proofs.Tokens

/-! Tokens written out and read again.

A lexeme that is cut out of its text and set between spaces is taken as a whole once more, and by
the same row. Only a name may become a word: one that is spelled like a word, but stood behind or
before another word character.
-/

set_option autoImplicit false

namespace Workbench

open Line (Word Ended)

def wordTokens : List Token :=
  wordKinds.map fun (word, kind, number) => ⟨String.ofList word, kind, number⟩

/-- What a token is read as when its lexeme stands alone. -/
def Token.reread (token : Token) : Token :=
  if token.kind = .identifier then (wordTokens.find? (·.lexeme == token.lexeme)).getD token
    else token

namespace Pattern

def isPlain : Pattern → Bool
  | words _ => false
  | signs _ | blanks | identifier | real | integer | quotation => true

/-! ## What a pattern takes, it takes again -/

theorem closingQuote_again {text quoted : List Char} (closed : closingQuote text = some quoted)
    (rest : List Char) :
    closingQuote (quoted ++ rest) = some quoted := by
  induction text generalizing quoted with
  | nil => cases closed
  | cons c text ih =>
    rw [closingQuote] at closed
    split at closed
    case isTrue quote =>
      obtain rfl := Option.some.inj closed
      simp [closingQuote, quote]
    case isFalse other =>
      split at closed
      case isTrue => cases closed
      case isFalse inLine =>
        obtain ⟨more, inner, rfl⟩ := Option.map_eq_some_iff.1 closed
        simp [closingQuote, other, inLine, ih inner]

theorem exists_quote {before : Option Char} {text lexeme : List Char}
    (taken : quotation.lexeme? before text = some lexeme) :
    ∃ tail quoted, text = '"' :: tail ∧ closingQuote tail = some quoted ∧
      lexeme = '"' :: quoted := by
  cases text with
  | nil => cases taken
  | cons c tail =>
    by_cases quote : c = '"'
    · subst quote
      obtain ⟨quoted, closed, rfl⟩ := Option.map_eq_some_iff.1 taken
      exact ⟨tail, quoted, rfl, closed, rfl⟩
    · rw [lexeme?_unquoted before quote] at taken
      cases taken

theorem exists_point {before : Option Char} {text lexeme : List Char}
    (taken : real.lexeme? before text = some lexeme) :
    ∃ whole tail, text = whole ++ '.' :: tail ∧ whole ≠ [] ∧
      (∀ c ∈ whole, Text.isDecimal c = true) ∧
      tail.takeWhile Text.isDecimal ≠ [] ∧
        lexeme = whole ++ '.' :: tail.takeWhile Text.isDecimal := by
  have digits : ∀ c ∈ text.takeWhile Text.isDecimal, Text.isDecimal c = true :=
    fun c => List.mem_takeWhile_imp
  have parts : text.takeWhile Text.isDecimal ++ text.dropWhile Text.isDecimal = text :=
    List.takeWhile_append_dropWhile
  rw [lexeme?] at taken
  split at taken
  · cases taken
  case h_2 tail point some_digit =>
    rw [point] at parts
    split at taken
    · cases taken
    case h_2 some_place =>
      exact ⟨_, tail, parts.symm, some_digit, digits, some_place, (Option.some.inj taken).symm⟩
  · cases taken

theorem lexeme?_again {pattern : Pattern} (plain : pattern.isPlain = true)
    {before other : Option Char}
    {text lexeme : List Char} (taken : pattern.lexeme? before text = some lexeme) :
    pattern.lexeme? other lexeme = some lexeme := by
  cases pattern with
  | words spellings => cases plain
  | signs spellings =>
    obtain ⟨sign, found, rfl⟩ := Option.map_eq_some_iff.1 taken
    obtain ⟨fits, earlier, later, rfl, misfits⟩ := List.find?_eq_some_iff_append.1 found
    have start := List.isPrefixOf_iff_prefix.1 fits
    refine Option.map_eq_some_iff.2 ⟨sign,
      List.find?_eq_some_iff_append.2 ⟨?_, earlier, later, rfl, ?_⟩, rfl⟩
    · exact List.isPrefixOf_iff_prefix.2 (List.prefix_refl _)
    · -- A spelling before it would also have started the text.
      intro early member
      have misfit := misfits early member
      simp only [Bool.not_eq_true', ← Bool.not_eq_true, List.isPrefixOf_iff_prefix] at misfit ⊢
      exact fun fits => misfit (fits.trans start)
  | blanks | integer =>
    simp only [lexeme?] at taken ⊢
    split at taken
    · cases taken
    case h_2 some_char =>
      obtain rfl := Option.some.inj taken
      rw [List.takeWhile_idem]
      split
      · contradiction
      · rfl
  | identifier =>
    cases text with
    | nil => cases taken
    | cons c text =>
      simp only [lexeme?, Option.ite_none_right_eq_some] at taken
      obtain ⟨starts, same⟩ := taken
      obtain rfl := Option.some.inj same
      simp only [lexeme?, starts, if_true, List.takeWhile_idem]
  | real =>
    obtain ⟨whole, tail, -, some_digit, digits, some_place, rfl⟩ := exists_point taken
    rw [lexeme?_point other some_digit digits, List.takeWhile_idem, if_neg some_place]
  | quotation =>
    obtain ⟨tail, quoted, -, closed, rfl⟩ := exists_quote taken
    have again := closingQuote_again closed []
    rw [List.append_nil] at again
    simp only [lexeme?, again, Option.map_some]

theorem takeWhile_start {accepts : Char → Bool} {front rest : List Char}
    (nothing : (front ++ rest).takeWhile accepts = []) : front.takeWhile accepts = [] := by
  cases front with
  | nil => rfl
  | cons c front => simpa [List.takeWhile_cons] using nothing

theorem lexeme?_start {pattern : Pattern} (plain : pattern.isPlain = true)
    {before other : Option Char}
    {front rest : List Char} (nothing : pattern.lexeme? before (front ++ rest) = none) :
    pattern.lexeme? other front = none := by
  cases pattern with
  | words spellings => cases plain
  | signs spellings =>
    simp only [lexeme?, Option.map_eq_none_iff, List.find?_eq_none,
      List.isPrefixOf_iff_prefix] at nothing ⊢
    exact fun sign member fits => nothing sign member (fits.trans (List.prefix_append ..))
  | blanks | integer =>
    simp only [lexeme?] at nothing ⊢
    split at nothing
    case h_1 none_here => rw [takeWhile_start none_here]
    case h_2 => cases nothing
  | identifier =>
    cases front with
    | nil => rfl
    | cons c front =>
      simp only [List.cons_append, lexeme?, ite_eq_right_iff, reduceCtorEq, imp_false] at nothing ⊢
      exact nothing
  | real =>
    rw [← Option.not_isSome_iff_eq_none, Option.isSome_iff_exists]
    rintro ⟨lexeme, taken⟩
    obtain ⟨whole, tail, rfl, some_digit, digits, some_place, -⟩ := exists_point taken
    rw [List.append_assoc, List.cons_append, lexeme?_point before some_digit digits] at nothing
    split at nothing
    -- The digits behind the point may go on in the rest, but there are some.
    case isTrue none_here => exact some_place (takeWhile_start none_here)
    case isFalse => cases nothing
  | quotation =>
    rw [← Option.not_isSome_iff_eq_none, Option.isSome_iff_exists]
    rintro ⟨lexeme, taken⟩
    obtain ⟨tail, quoted, rfl, closed, -⟩ := exists_quote taken
    obtain ⟨more, rfl⟩ := closingQuote_prefix closed
    simp only [List.cons_append, List.append_assoc, lexeme?, closingQuote_again closed] at nothing
    cases nothing

end Pattern

/-! ## What comes first, comes first again -/

namespace Row

/-- A row comes first again where no row takes anything that took nothing before. -/
theorem first?_again {before other : Option Char} {text again lexeme : List Char}
    {index : Nat} {row : Row} (found : first? before text = some (index, row, lexeme))
    (nothing : ∀ row ∈ table, row.pattern.lexeme? before text = none →
      row.pattern.lexeme? other again = none)
    (taken : row.pattern.lexeme? other again = some lexeme) :
    first? other again = some (index, row, lexeme) := by
  obtain ⟨-, earlier, later, split, none_before⟩ := first?_eq_some.1 found
  refine first?_eq_some.2 ⟨taken, earlier, later, split, fun entry member => ?_⟩
  have listed : entry ∈ table.zipIdx := split ▸ List.mem_append_left _ member
  exact nothing entry.1 (mem_of_zipIdx listed) (none_before entry member)

theorem plain_or_wordy : ∀ row ∈ table, row.pattern.isPlain = true ∨ row.pattern.Wordy := by
  decide

theorem first?_unnamed {before : Option Char} {c : Char} {more rest : List Char}
    {index : Nat} {row : Row} (unnamed : Pattern.startsName c = false)
    (found : first? before (c :: more ++ rest) = some (index, row, c :: more)) :
    first? none (c :: more) = some (index, row, c :: more) := by
  have wordless : ∀ before rest, ∀ word ∈ reserved, Pattern.standsAlone before word (c :: rest) =
      false := by
    intro before rest
    refine Pattern.standsAlone_start Pattern.startsName (by decide) before ?_
    rintro _ ⟨⟩
    exact unnamed
  have took := (first?_eq_some.1 found).1
  -- Rows for words take nothing here, neither before nor now; for the others a shorter text is no
  -- gain.
  refine first?_again found (fun row member nothing => ?_) ?_
  · rcases plain_or_wordy row member with plain | wordy
    · exact Pattern.lexeme?_start plain nothing
    · exact Pattern.lexeme?_wordless wordy (wordless none more)
  · rcases plain_or_wordy row (mem_of_first? found) with plain | wordy
    · exact Pattern.lexeme?_again plain took
    · rw [List.cons_append, Pattern.lexeme?_wordless wordy (wordless before (more ++ rest))] at took
      cases took

theorem first?_quote (before : Option Char) (tail : List Char) :
    first? before ('"' :: tail) = (Pattern.quotation.lexeme? none ('"' :: tail)).map fun lexeme =>
      (10, ⟨.quotation, some .quotation, some 3⟩, lexeme) := by
  have ended : Ended ('"' :: tail) := by
    rintro _ ⟨⟩
    decide
  have rows : table.zipIdx.drop 6 = (table.zipIdx.drop 6).take 4 ++
      ((⟨.quotation, some .quotation, some 3⟩, 10) :: table.zipIdx.drop 11) := rfl
  have early : firstOf none ('"' :: tail) ((table.zipIdx.drop 6).take 4) = none := rfl
  have late : firstOf none ('"' :: tail) (table.zipIdx.drop 11) = none := rfl
  rw [first?_wordless before (Pattern.standsAlone_ended before ended), rows, firstOf_append,
    early, Option.none_or]
  cases taken : Pattern.quotation.lexeme? none ('"' :: tail) with
  | some lexeme => rw [firstOf_taken taken, Option.map_some]
  | none => rw [firstOf_passed taken, late, Option.map_none]

end Row

def Spaced (rest : List Char) : Prop := rest = [] ∨ ∃ more, rest = ' ' :: more

theorem Spaced.ended {rest : List Char} (spaced : Spaced rest) : Ended rest := by
  rcases spaced with rfl | ⟨more, rfl⟩
  · exact nofun
  · rintro _ ⟨⟩
    decide

theorem Row.first?_spaced {c : Char} (inked : Pattern.isSpace c = false) (unquoted : c ≠ '"')
    (more : List Char)
    {rest : List Char} (spaced : Spaced rest) :
    Row.first? none (c :: more ++ rest) = Row.first? none (c :: more) := by
  rcases spaced with rfl | ⟨back, rfl⟩
  · rw [List.append_nil]
  · exact Row.first?_congr fun row member =>
      Pattern.lexeme?_append (Row.solid_of_mem member) none inked
      (fun quote => absurd quote unquoted) more (by decide) back

/-! ## Tokens -/

theorem Token.reread_of_ne {token : Token} (other : token.kind ≠ .identifier) :
    token.reread = token :=
  if_neg other

def ReadAs (lexeme rest : List Char) (token : Token) : Prop :=
  ∃ index row, Row.first? none (lexeme ++ rest) = some (index, row, lexeme) ∧
    (Piece.taken index row lexeme).token? = some token

theorem Piece.token?_taken {index : Nat} {row : Row} {lexeme : List Char} {token : Token}
    (made : (Piece.taken index row lexeme).token? = some token) :
    row.kind = some token.kind ∧ token.lexeme = String.ofList lexeme := by
  obtain ⟨kind, known, rfl⟩ := Option.map_eq_some_iff.1 made
  exact ⟨known, rfl⟩

theorem Row.first?_wordToken {word : List Char} (member : word ∈ reserved) :
    ∃ index row token, Row.first? none word = some (index, row, word) ∧
      (Piece.taken index row word).token? = some token ∧
      wordTokens.find? (·.lexeme == String.ofList word) = some token ∧
        token.kind ≠ .identifier := by
  have taken : ∀ word ∈ reserved, (Row.first? none word).map (fun found =>
      (found.2.2, (Piece.taken found.1 found.2.1 found.2.2).token?)) =
      some (word, wordTokens.find? (·.lexeme == String.ofList word)) := by decide
  have known : ∀ word ∈ reserved, ∃ token ∈ wordTokens,
      wordTokens.find? (·.lexeme == String.ofList word) = some token ∧
        token.kind ≠ .identifier := by decide
  obtain ⟨⟨index, row, lexeme⟩, found, same⟩ := Option.map_eq_some_iff.1 (taken word member)
  obtain ⟨rfl, made⟩ := Prod.mk.inj same
  obtain ⟨token, -, listed, worded⟩ := known _ member
  exact ⟨index, row, token, found, made.trans listed, listed, worded⟩

section
variable {before : Option Char} {c : Char} {more rest after : List Char} {index : Nat}
    {row : Row} {token : Token}
  (found : Row.first? before (c :: more ++ rest) = some (index, row, c :: more))
  (made : (Piece.taken index row (c :: more)).token? = some token) (spaced : Spaced after)
include found made

theorem inked_of_token : Pattern.isSpace c = false := by
  rw [← Bool.not_eq_true]
  intro space
  obtain ⟨run, gap⟩ := Row.first?_space before space (more ++ rest)
  obtain ⟨-, rfl, -⟩ : 6 = index ∧ ⟨.blanks, none, none⟩ = row ∧ run = c :: more := by
    simpa using gap.symm.trans found
  cases made

include spaced

theorem readAs_word {word : List Char} (member : word ∈ reserved)
    (alone : Pattern.standsAlone before word (c :: more ++ rest) = true) :
    ReadAs (c :: more) after token.reread := by
  have inked := inked_of_token found made
  obtain ⟨place, tried, known, taken, worded, -, other⟩ := Row.first?_wordToken member
  rw [Row.first?_reserved member alone] at found
  obtain ⟨rfl, rfl, rfl⟩ : place = index ∧ tried = row ∧ word = c :: more := by
    simpa using taken.symm.trans found
  obtain rfl : known = token := by simpa using worded.symm.trans made
  have unquoted : c ≠ '"' := by
    rintro rfl
    exact absurd (isWord_of_mem_reserved _ member '"' (List.mem_cons_self ..)) (by decide)
  exact ⟨place, tried,
    (Row.first?_spaced inked unquoted more spaced).trans
      found, by rw [Token.reread_of_ne other, made]⟩

/-- A name stays a name, unless it is spelled like a word. -/
theorem readAs_name (starts : Pattern.startsName c = true)
    (wordless : ∀ word ∈ reserved, Pattern.standsAlone before word (c :: more ++ rest) = false) :
    ReadAs (c :: more) after token.reread := by
  have first := Row.first?_name starts wordless
  obtain ⟨rfl, rfl, run⟩ : 7 = index ∧ ⟨.identifier, some .identifier, some 0⟩ = row ∧
      (more ++ rest).takeWhile Pattern.continuesName = more := by simpa using first.symm.trans found
  obtain rfl := Option.some.inj made
  have continues : ∀ d ∈ more, Pattern.continuesName d = true :=
    fun d member => List.mem_takeWhile_imp (run ▸ member)
  have named := word_of_startsName starts continues
  by_cases member : c :: more ∈ reserved
  · -- It stood behind or before a word character that belongs to no name.
    obtain ⟨place, tried, known, taken, worded, listed, -⟩ := Row.first?_wordToken member
    have alone := Pattern.standsAlone_self named spaced.ended
    refine ⟨place, tried, (Row.first?_reserved member alone).trans taken, ?_⟩
    rw [worded, Token.reread, if_pos rfl, listed]
    rfl
  · have spelled : ∀ token ∈ wordTokens, token.lexeme.toList ∈ reserved := by decide
    have unlisted : wordTokens.find? (·.lexeme == String.ofList (c :: more)) = none := by
      refine List.find?_eq_none.2 fun token listed same => member ?_
      have chars := congrArg String.toList (eq_of_beq same)
      rw [String.toList_ofList] at chars
      exact chars ▸ spelled token listed
    have again : Row.first? none (c :: (more ++ after)) = _ :=
      Row.first?_name starts (Pattern.standsAlone_free named spaced.ended member)
    rw [takeWhile_ended (fun _ => Pattern.isWord_of_continuesName) continues spaced.ended] at again
    refine ⟨_, _, again, ?_⟩
    rw [Token.reread, if_pos rfl, unlisted]
    rfl

omit spaced in
/-- A quotation ends at its mark, whatever follows. -/
theorem readAs_quotation (quote : c = '"') : ReadAs (c :: more) after token.reread := by
  subst quote
  rw [List.cons_append, Row.first?_quote] at found
  obtain ⟨lexeme, taken, same⟩ := Option.map_eq_some_iff.1 found
  obtain ⟨rfl, rfl, rfl⟩ : 10 = index ∧ ⟨.quotation, some .quotation, some 3⟩ = row ∧
      lexeme = '"' :: more := by
    simpa using same
  obtain ⟨tail, quoted, -, closed, split⟩ := Pattern.exists_quote taken
  obtain rfl := (List.cons.inj split).2
  have again : Pattern.quotation.lexeme? none ('"' :: (more ++ after)) = some ('"' :: more) := by
    simp only [Pattern.lexeme?, Pattern.closingQuote_again closed after, Option.map_some]
  refine ⟨10, ⟨.quotation, some .quotation, some 3⟩, ?_, ?_⟩
  · rw [List.cons_append, Row.first?_quote, again]
    rfl
  · obtain rfl := Option.some.inj made
    rfl

theorem readAs_unnamed (unnamed : Pattern.startsName c = false) (unquoted : c ≠ '"') :
    ReadAs (c :: more) after token.reread := by
  have inked := inked_of_token found made
  have again := Row.first?_unnamed unnamed found
  have other : token.kind ≠ .identifier := by
    intro named
    have rows : ∀ row ∈ Row.table, row.kind = some .identifier → row.pattern = .identifier := by
      decide
    have taken := (Row.first?_eq_some.1 found).1
    rw [rows row (Row.mem_of_first? found)
      ((Piece.token?_taken made).1.trans (congrArg some named))] at taken
    simp [Pattern.lexeme?, unnamed] at taken
  exact ⟨index, row,
    (Row.first?_spaced inked unquoted more spaced).trans
      again, by rw [Token.reread_of_ne other, made]⟩

end

theorem readAs_reread {before : Option Char} {lexeme rest : List Char} {index : Nat}
    {row : Row} {token : Token}
    (found : Row.first? before (lexeme ++ rest) = some (index, row, lexeme))
    (made : (Piece.taken index row lexeme).token? = some token) {after : List Char}
    (spaced : Spaced after) :
    ReadAs lexeme after token.reread := by
  obtain ⟨c, more, rfl⟩ := List.exists_cons_of_ne_nil (Row.first?_prefix found).1
  by_cases word : ∃ word ∈ reserved, Pattern.standsAlone before word (c :: more ++ rest) = true
  · obtain ⟨word, member, alone⟩ := word
    exact readAs_word found made spaced member alone
  · cases starts : Pattern.startsName c with
    | true =>
      refine readAs_name found made spaced starts fun other member => ?_
      exact Bool.eq_false_iff.2 fun alone => word ⟨other, member, alone⟩
    | false =>
      by_cases quote : c = '"'
      · exact readAs_quotation found made quote
      · exact readAs_unnamed found made spaced starts quote

theorem readAs_of_lex {source : String} {token : Token} (member : token ∈ (lex source).tokens)
    {after : List Char}
    (spaced : Spaced after) : ReadAs token.lexeme.toList after token.reread := by
  obtain ⟨piece, tiled, made⟩ := List.mem_filterMap.1 member
  cases piece with
  | taken index row lexeme =>
    obtain ⟨before, rest, found⟩ := first?_of_mem_pieces tiled
    rw [(Piece.token?_taken made).2, String.toList_ofList]
    exact readAs_reread found made spaced
  | unknown c => cases made

theorem ReadAs.lexFrom {lexeme after : List Char} {token : Token} (read : ReadAs lexeme after token)
    (spaced : Spaced after) :
    lexFrom none (lexeme ++ after) = ⟨[token], []⟩ ++ lexFrom none after := by
  obtain ⟨index, row, found, made⟩ := read
  have single : Lexed.ofPieces [.taken index row lexeme] = ⟨[token], []⟩ := by
    simp [Lexed.ofPieces, made]
  rw [lexFrom_taken found, single, Workbench.lexFrom, pieces_ended _ spaced.ended]
  rfl

theorem lexFrom_joined {tokens : List Token}
    (readable : ∀ token ∈ tokens, ∀ after, Spaced after →
      ReadAs token.lexeme.toList after token.reread) :
    lexFrom none (" ".intercalate (tokens.map Token.lexeme)).toList =
      ⟨tokens.map Token.reread, []⟩ := by
  induction tokens with
  | nil => exact lexFrom_nil none
  | cons token tokens ih =>
    obtain ⟨first, others⟩ := List.forall_mem_cons.1 readable
    cases tokens with
    | nil =>
      have read := (first [] (.inl rfl)).lexFrom (.inl rfl)
      rw [List.append_nil, lexFrom_nil] at read
      rw [List.map_singleton, String.intercalate_singleton, read]
      rfl
    | cons next tokens =>
      have chars : (" ".intercalate ((token :: next :: tokens).map Token.lexeme)).toList =
          token.lexeme.toList ++ ' ' ::
            (" ".intercalate ((next :: tokens).map Token.lexeme)).toList := by
        simp only [List.map_cons, String.intercalate_cons_cons, String.toList_append,
          List.append_assoc]
        rfl
      have spaced : Spaced (' ' :: (" ".intercalate ((next :: tokens).map Token.lexeme)).toList) :=
        .inr ⟨_, rfl⟩
      rw [chars, (first _ spaced).lexFrom spaced, lexFrom_space none (by decide), ih others]
      rfl

/-- Reading the lexemes of a text again, with spaces between them, gives its tokens again. -/
theorem lex_lexemes (source : String) :
    lex (" ".intercalate ((lex source).tokens.map Token.lexeme)) =
      ⟨(lex source).tokens.map Token.reread, []⟩ :=
  lexFrom_joined fun _ member _ spaced => readAs_of_lex member spaced

end Workbench
