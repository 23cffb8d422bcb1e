import Mathlib.Data.List.Find
import Workbench.Proofs.Lines
import Workbench.Proofs.Substitution
import Workbench.Token.Lexer

/-! Where a blank cuts a text, the lexer cuts it too.

No pattern but that of quotations sees beyond a blank, and quotations end with their line. So the
parts of a text before and after a newline are read on their own, and the tokens of a text without
quotation marks are those of its lines, whatever blanks stand around them.
-/

set_option autoImplicit false

namespace Workbench

/-- What is made of a text, given the character in front of it. -/
def lexFrom (before : Option Char) (text : List Char) : Lexed := .ofPieces (pieces before text)

def tokensFrom (before : Option Char) (text : List Char) : List Token :=
  (pieces before text).filterMap Piece.token?

instance : Append Lexed :=
  ⟨fun first second => ⟨first.tokens ++ second.tokens, first.errors ++ second.errors⟩⟩

namespace Lexed

@[simp] theorem tokens_append (first second : Lexed) :
    (first ++ second).tokens = first.tokens ++ second.tokens := rfl

@[simp] theorem errors_append (first second : Lexed) :
    (first ++ second).errors = first.errors ++ second.errors := rfl

theorem append_assoc (first second third : Lexed) :
    first ++ second ++ third = first ++ (second ++ third) :=
  congrArg₂ mk (List.append_assoc ..) (List.append_assoc ..)

theorem ofPieces_append (front back : List Piece) :
    ofPieces (front ++ back) = ofPieces front ++ ofPieces back :=
  congrArg₂ mk List.filterMap_append List.filterMap_append

end Lexed

namespace Pattern

/-- Nothing is spelled with blanks, and nothing without characters. -/
def Solid : Pattern → Prop
  | words spellings | signs spellings =>
    ∀ spelling ∈ spellings, spelling.toList ≠ [] ∧ ∀ c ∈ spelling.toList, Text.isBlank c = false
  | _ => True

def isSolid : Pattern → Bool
  | words spellings | signs spellings =>
    spellings.all fun spelling => !spelling.toList.isEmpty && spelling.toList.all fun c =>
      !Text.isBlank c
  | blanks | identifier | real | integer | quotation => true

theorem solid_of_isSolid {pattern : Pattern} (solid : pattern.isSolid = true) : pattern.Solid := by
  cases pattern with
  | words spellings | signs spellings => simpa [isSolid, Solid] using solid
  | blanks | identifier | real | integer | quotation => trivial

theorem isWord_of_continuesName {c : Char} (continues : continuesName c = true) :
    Text.isWord c = true := by
  simp only [continuesName, Char.isAlphanum, Bool.or_eq_true, beq_iff_eq] at continues
  rcases continues with (letter | digit) | rfl
  · simp [Text.isWord, Text.isLetter_of_isAlpha letter]
  · exact Text.isWord_of_isDecimal (Text.isDecimal_of_isDigit digit)
  · decide

theorem continuesName_of_startsName {c : Char} (starts : startsName c = true) :
    continuesName c = true := by
  simp only [startsName, continuesName, Char.isAlphanum, Bool.or_eq_true] at starts ⊢
  exact starts.imp_left Or.inl

theorem not_continuesName_of_isBlank {c : Char} (blank : Text.isBlank c = true) :
    continuesName c = false := by
  rw [← Bool.not_eq_true]
  intro continues
  have word := isWord_of_continuesName continues
  rw [Text.isWord_of_isBlank blank] at word
  cases word

theorem not_isDecimal_of_isBlank {c : Char} (blank : Text.isBlank c = true) :
    Text.isDecimal c = false := by
  rw [← Bool.not_eq_true]
  intro decimal
  have word := Text.isWord_of_isDecimal decimal
  rw [Text.isWord_of_isBlank blank] at word
  cases word

theorem closingQuote_prefix {text quoted : List Char} (closed : closingQuote text = some quoted) :
    quoted <+: text := by
  induction text generalizing quoted with
  | nil => cases closed
  | cons c rest ih =>
    rw [closingQuote] at closed
    split at closed
    · obtain rfl := Option.some.inj closed
      simp
    · split at closed
      · cases closed
      · obtain ⟨more, inner, rfl⟩ := Option.map_eq_some_iff.1 closed
        exact List.cons_prefix_cons.2 ⟨rfl, ih inner⟩

theorem lexeme?_prefix {pattern : Pattern} (solid : pattern.Solid) {before : Option Char}
    {text lexeme : List Char} :
    pattern.lexeme? before text = some lexeme → lexeme ≠ [] ∧ lexeme <+: text := by
  -- The cases in which something is taken come first; in all others there is nothing to show.
  fun_cases lexeme? before text pattern with
  | case1 spellings =>
    intro taken
    obtain ⟨word, found, rfl⟩ := Option.map_eq_some_iff.1 taken
    have alone : standsAlone before word.toList text = true := by simpa using List.find?_some found
    simp only [standsAlone, Bool.and_eq_true] at alone
    exact ⟨(solid word (List.mem_of_find?_eq_some found)).1, List.isPrefixOf_iff_prefix.1 alone.1.2⟩
  | case2 spellings =>
    intro taken
    obtain ⟨sign, found, rfl⟩ := Option.map_eq_some_iff.1 taken
    have fits : sign.toList.isPrefixOf text = true := by simpa using List.find?_some found
    exact ⟨(solid sign (List.mem_of_find?_eq_some found)).1, List.isPrefixOf_iff_prefix.1 fits⟩
  | case4 _ some_blank =>
    intro taken
    obtain rfl := Option.some.inj taken
    exact ⟨some_blank, List.takeWhile_prefix isSpace⟩
  | case6 c rest starts =>
    intro taken
    obtain rfl := Option.some.inj taken
    exact ⟨List.cons_ne_nil _ _, List.cons_prefix_cons.2 ⟨rfl, List.takeWhile_prefix continuesName⟩⟩
  | case10 _ tail point some_digit some_place =>
    intro taken
    obtain rfl := Option.some.inj taken
    have parts : text.takeWhile Text.isDecimal ++ '.' :: tail = text := by
      rw [← point, List.takeWhile_append_dropWhile]
    refine ⟨by simp, ?_⟩
    conv_rhs => rw [← parts]
    exact (List.prefix_append_right_inj _).2
      (List.cons_prefix_cons.2 ⟨rfl, List.takeWhile_prefix Text.isDecimal⟩)
  | case13 _ some_digit =>
    intro taken
    obtain rfl := Option.some.inj taken
    exact ⟨some_digit, List.takeWhile_prefix Text.isDecimal⟩
  | case14 tail =>
    intro taken
    obtain ⟨quoted, closed, rfl⟩ := Option.map_eq_some_iff.1 taken
    exact ⟨List.cons_ne_nil _ _, List.cons_prefix_cons.2 ⟨rfl, closingQuote_prefix closed⟩⟩
  | case3 | case5 | case7 | case8 | case9 | case11 | case12 | case15 =>
    rintro ⟨⟩

theorem lexeme?_unquoted (before : Option Char) {c : Char} (other : c ≠ '"') (rest : List Char) :
    quotation.lexeme? before (c :: rest) = none := by
  simp only [lexeme?]
  split
  case h_1 same => exact absurd (List.cons.inj same).1 other
  case h_2 => rfl

/-- A quotation ends on its line. -/
theorem closingQuote_newline (front back : List Char) :
    closingQuote (front ++ '\n' :: back) = closingQuote front := by
  induction front with
  | nil => rfl
  | cons c front ih => rw [List.cons_append, closingQuote, closingQuote, ih]

section
variable {c : Char} (blank : Text.isBlank c = true) (front back : List Char)

theorem takeWhile_append_of_neg {accepts : Char → Bool} (ends : accepts c = false) :
    (front ++ c :: back).takeWhile accepts = front.takeWhile accepts := by
  induction front with
  | nil => simp [ends]
  | cons d front ih => simp [List.takeWhile_cons, ih]

theorem dropWhile_append_of_neg {accepts : Char → Bool} (ends : accepts c = false) :
    (front ++ c :: back).dropWhile accepts = front.dropWhile accepts ++ c :: back := by
  induction front with
  | nil => simp [ends]
  | cons d front ih =>
    simp only [List.cons_append, List.dropWhile_cons, ih]
    split <;> rfl

include blank

theorem not_mem_of_solid {word : List Char} (solid : ∀ d ∈ word, Text.isBlank d = false) :
    c ∉ word := by
  intro member
  rw [solid c member] at blank
  cases blank

theorem isPrefixOf_append_blank {word : List Char} (solid : ∀ d ∈ word, Text.isBlank d = false) :
    word.isPrefixOf (front ++ c :: back) = word.isPrefixOf front := by
  rw [Bool.eq_iff_iff, List.isPrefixOf_iff_prefix, List.isPrefixOf_iff_prefix]
  constructor
  · exact Text.prefix_of_not_mem (not_mem_of_solid blank solid)
  · exact fun fits => fits.trans (List.prefix_append ..)

theorem standsAlone_append_blank (before : Option Char) {word : List Char}
    (solid : ∀ d ∈ word, Text.isBlank d = false) :
    standsAlone before word (front ++ c :: back) = standsAlone before word front := by
  rw [standsAlone, standsAlone, isPrefixOf_append_blank blank front back solid]
  by_cases fits : word.isPrefixOf front = true
  · obtain ⟨rest, rfl⟩ := List.isPrefixOf_iff_prefix.1 fits
    rw [List.append_assoc, List.drop_left, List.drop_left]
    cases rest with
    | nil => simp [Text.isWord_of_isBlank blank]
    | cons d rest => rfl
  · simp [fits]

end

/-- A blank ends everything that is not a quotation or itself blank, and a newline ends
quotations. -/
theorem lexeme?_append {pattern : Pattern} (solid : pattern.Solid)
    (before : Option Char) {d c : Char}
    (plain : isSpace d = false) (closed : d = '"' → c = '\n') (front : List Char)
    (blank : Text.isBlank c = true) (back : List Char) :
    pattern.lexeme? before (d :: front ++ c :: back) = pattern.lexeme? before (d :: front) := by
  have undecimal := not_isDecimal_of_isBlank blank
  cases pattern with
  | words spellings =>
    refine congrArg (Option.map _) (List.find?_congr fun word member => ?_)
    exact standsAlone_append_blank blank _ back before (solid word member).2
  | signs spellings =>
    refine congrArg (Option.map _) (List.find?_congr fun sign member => ?_)
    exact isPrefixOf_append_blank blank _ back (solid sign member).2
  | blanks => simp [lexeme?, plain]
  | identifier =>
    have unnamed := not_continuesName_of_isBlank blank
    simp only [lexeme?, List.cons_append, takeWhile_append_of_neg front back unnamed]
  | real =>
    simp only [lexeme?, takeWhile_append_of_neg _ back undecimal,
      dropWhile_append_of_neg _ back undecimal]
    have pointless : c ≠ '.' := by
      rintro rfl
      exact absurd blank (by decide)
    -- After the first digits comes the point, something else, or the blank.
    cases (d :: front).dropWhile Text.isDecimal with
    | nil => split <;> simp_all
    | cons e rest =>
      by_cases point : e = '.'
      · subst point
        cases (d :: front).takeWhile Text.isDecimal with
        | nil => rfl
        | cons first whole =>
          simp only [List.cons_append, takeWhile_append_of_neg rest back undecimal]
      · split <;> simp_all
  | integer => simp only [lexeme?, takeWhile_append_of_neg _ back undecimal]
  | quotation =>
    by_cases quote : d = '"'
    · obtain rfl := closed quote
      subst quote
      simp only [List.cons_append, lexeme?, closingQuote_newline]
    · rw [List.cons_append, lexeme?_unquoted before quote, lexeme?_unquoted before quote]

theorem lexeme?_blank {pattern : Pattern} (solid : pattern.Solid) (before : Option Char) {c : Char}
    (blank : Text.isBlank c = true) (plain : isSpace c = false) (rest : List Char) :
    pattern.lexeme? before (c :: rest) = none := by
  have undecimal := not_isDecimal_of_isBlank blank
  -- No word or sign starts with a blank, so that none is a prefix here.
  have misfit : ∀ word : List Char, word ≠ [] → (∀ d ∈ word, Text.isBlank d = false) →
      word.isPrefixOf (c :: rest) = false := by
    intro word some_char solid
    obtain ⟨d, word, rfl⟩ := List.exists_cons_of_ne_nil some_char
    have other : d ≠ c := by
      rintro rfl
      rw [solid d (List.mem_cons_self ..)] at blank
      cases blank
    simp [List.isPrefixOf, other]
  cases pattern with
  | words spellings =>
    refine congrArg (Option.map _) (List.find?_eq_none.2 fun word member => ?_)
    simp [standsAlone, misfit word.toList (solid word member).1 (solid word member).2]
  | signs spellings =>
    refine congrArg (Option.map _) (List.find?_eq_none.2 fun sign member => ?_)
    simp [misfit sign.toList (solid sign member).1 (solid sign member).2]
  | blanks => simp [lexeme?, plain]
  | identifier =>
    have unnamed : startsName c = false := by
      rw [← Bool.not_eq_true]
      intro starts
      have continues := continuesName_of_startsName starts
      rw [not_continuesName_of_isBlank blank] at continues
      cases continues
    simp [lexeme?, unnamed]
  | real =>
    simp [lexeme?, undecimal]
  | integer => simp [lexeme?, undecimal]
  | quotation =>
    refine lexeme?_unquoted before ?_ rest
    rintro rfl
    exact absurd blank (by decide)

end Pattern

theorem Row.solid_of_mem {row : Row} (member : row ∈ Row.table) : row.pattern.Solid := by
  have all : (Row.table.all fun row => row.pattern.isSolid) = true := by decide
  exact Pattern.solid_of_isSolid (List.all_eq_true.1 all row member)

def Row.firstOf (before : Option Char) (text : List Char) (rows : List (Row × Nat)) :
    Option (Nat × Row × List Char) :=
  rows.findSome? fun (row, index) => (row.pattern.lexeme? before text).map fun lexeme =>
    (index, row, lexeme)

namespace Row

variable {before other : Option Char} {text longer : List Char} {row : Row} {index : Nat}
    {lexeme : List Char}

theorem first?_eq_firstOf : first? before text = firstOf before text table.zipIdx := rfl

theorem firstOf_append (front back : List (Row × Nat)) :
    firstOf before text (front ++ back) =
      (firstOf before text front).or (firstOf before text back) :=
  List.findSome?_append

theorem firstOf_taken (taken : row.pattern.lexeme? before text = some lexeme)
    (rows : List (Row × Nat)) :
    firstOf before text ((row, index) :: rows) = some (index, row, lexeme) := by
  simp [firstOf, taken]

theorem firstOf_passed (nothing : row.pattern.lexeme? before text = none)
    (rows : List (Row × Nat)) :
    firstOf before text ((row, index) :: rows) = firstOf before text rows := by
  simp [firstOf, nothing]

theorem firstOf_eq_none {rows : List (Row × Nat)} :
    firstOf before text rows = none ↔
      ∀ entry ∈ rows, entry.1.pattern.lexeme? before text = none := by
  rw [firstOf, List.findSome?_eq_none_iff]
  exact forall₂_congr fun _ _ => Option.map_eq_none_iff

theorem firstOf_congr {rows : List (Row × Nat)}
    (same : ∀ entry ∈ rows, entry.1.pattern.lexeme? before text =
      entry.1.pattern.lexeme? other longer) :
    firstOf before text rows = firstOf other longer rows := by
  induction rows with
  | nil => rfl
  | cons entry rows ih =>
    obtain ⟨first, others⟩ := List.forall_mem_cons.1 same
    cases taken : entry.1.pattern.lexeme? before text with
    | some lexeme => rw [firstOf_taken taken, firstOf_taken (first.symm.trans taken)]
    | none => rw [firstOf_passed taken, firstOf_passed (first.symm.trans taken), ih others]

/-- The row that comes first, as one of the table behind others that take nothing. -/
theorem first?_eq_some : first? before text = some (index, row, lexeme) ↔
    row.pattern.lexeme? before text = some lexeme ∧
      ∃ earlier later, table.zipIdx = earlier ++ (row, index) :: later ∧
      ∀ other ∈ earlier, other.1.pattern.lexeme? before text = none := by
  rw [first?, List.findSome?_eq_some_iff]
  constructor
  · rintro ⟨earlier, ⟨tried, place⟩, later, split, taken, nothing⟩
    obtain ⟨_, took, same⟩ := Option.map_eq_some_iff.1 taken
    obtain ⟨rfl, rfl, rfl⟩ := Prod.mk.inj same |>.imp_right Prod.mk.inj
    exact ⟨took, earlier, later, split, fun other member =>
      Option.map_eq_none_iff.1 (nothing other member)⟩
  · rintro ⟨took, earlier, later, split, nothing⟩
    exact ⟨earlier, (row, index), later, split, by simp [took],
      fun other member => congrArg (Option.map _) (nothing other member)⟩

end Row

theorem Row.mem_of_zipIdx {row : Row} {index : Nat} (member : (row, index) ∈ Row.table.zipIdx) :
    row ∈ Row.table :=
  (List.mem_zipIdx member).2.2 ▸ List.getElem_mem _

theorem Row.first?_eq_none {before : Option Char} {text : List Char} :
    Row.first? before text = none ↔ ∀ row ∈ Row.table, row.pattern.lexeme? before text = none := by
  rw [Row.first?_eq_firstOf, Row.firstOf_eq_none]
  constructor
  · intro nothing row member
    rw [← List.zipIdx_map_fst 0 Row.table] at member
    obtain ⟨entry, listed, rfl⟩ := List.mem_map.1 member
    exact nothing entry listed
  · exact fun nothing entry listed => nothing entry.1 (Row.mem_of_zipIdx listed)

theorem Row.mem_of_first? {before : Option Char} {text lexeme : List Char} {index : Nat} {row : Row}
    (found : Row.first? before text = some (index, row, lexeme)) : row ∈ Row.table := by
  obtain ⟨-, earlier, later, split, -⟩ := Row.first?_eq_some.1 found
  exact @Row.mem_of_zipIdx row index (by simp [split])

theorem Row.first?_prefix {before : Option Char} {text lexeme : List Char} {index : Nat} {row : Row}
    (found : Row.first? before text = some (index, row, lexeme)) : lexeme ≠ [] ∧ lexeme <+: text :=
  Pattern.lexeme?_prefix (Row.solid_of_mem (Row.mem_of_first? found)) (Row.first?_eq_some.1 found).1

theorem Row.first?_congr {before other : Option Char} {text longer : List Char}
    (same : ∀ row ∈ Row.table, row.pattern.lexeme? before text = row.pattern.lexeme? other longer) :
    Row.first? before text = Row.first? other longer :=
  Row.firstOf_congr fun entry member => same entry.1 (Row.mem_of_zipIdx member)

@[simp] theorem lexFrom_nil (before : Option Char) : lexFrom before [] = ⟨[], []⟩ := by
  rw [lexFrom, pieces]
  rfl

@[simp] theorem tokensFrom_nil (before : Option Char) : tokensFrom before [] = [] :=
  congrArg Lexed.tokens (lexFrom_nil before)

theorem pieces_taken {before : Option Char} {lexeme rest : List Char} {index : Nat} {row : Row}
    (found : Row.first? before (lexeme ++ rest) = some (index, row, lexeme)) :
    pieces before (lexeme ++ rest) = .taken index row lexeme :: pieces lexeme.getLast? rest := by
  obtain ⟨some_char, -⟩ := Row.first?_prefix found
  cases lexeme with
  | nil => exact absurd rfl some_char
  | cons c lexeme =>
    rw [List.cons_append] at found ⊢
    rw [pieces]
    simp only [found, List.length_cons, Nat.add_sub_cancel, List.drop_left,
      List.getLast?_cons, Option.or]

theorem pieces_unknown {before : Option Char} {c : Char} {rest : List Char}
    (unknown : Row.first? before (c :: rest) = none) :
    pieces before (c :: rest) = .unknown c :: pieces (some c) rest := by
  rw [pieces, unknown]

theorem lexFrom_taken {before : Option Char} {lexeme rest : List Char} {index : Nat} {row : Row}
    (found : Row.first? before (lexeme ++ rest) = some (index, row, lexeme)) :
    lexFrom before (lexeme ++ rest) = .ofPieces [.taken index row lexeme] ++
      lexFrom lexeme.getLast? rest := by
  rw [lexFrom, pieces_taken found]
  exact Lexed.ofPieces_append [.taken index row lexeme] _

theorem lexFrom_unknown {before : Option Char} {c : Char} {rest : List Char}
    (unknown : Row.first? before (c :: rest) = none) :
    lexFrom before (c :: rest) = .ofPieces [.unknown c] ++ lexFrom (some c) rest := by
  rw [lexFrom, pieces_unknown unknown]
  exact Lexed.ofPieces_append [.unknown c] _

theorem tokensFrom_taken {before : Option Char} {lexeme rest : List Char} {index : Nat} {row : Row}
    (found : Row.first? before (lexeme ++ rest) = some (index, row, lexeme)) :
    tokensFrom before (lexeme ++ rest) =
      (Piece.taken index row lexeme).token?.toList ++ tokensFrom lexeme.getLast? rest := by
  rw [tokensFrom, pieces_taken found, List.filterMap_cons]
  cases (Piece.taken index row lexeme).token? <;> rfl

theorem tokensFrom_unknown {before : Option Char} {c : Char} {rest : List Char}
    (unknown : Row.first? before (c :: rest) = none) :
    tokensFrom before (c :: rest) = tokensFrom (some c) rest := by
  rw [tokensFrom, pieces_unknown unknown]
  rfl

/-- Only whether the character in front belongs to a word counts. -/
theorem pieces_before {before other : Option Char}
    (same : before.any Text.isWord = other.any Text.isWord)
    (text : List Char) : pieces before text = pieces other text := by
  have first : Row.first? before text = Row.first? other text := by
    refine Row.first?_congr fun row _ => ?_
    cases row.pattern with
    | words spellings => simp only [Pattern.lexeme?, Pattern.standsAlone, same]
    | _ => rfl
  cases text with
  | nil => rw [pieces, pieces]
  | cons c rest => rw [pieces, pieces, first]

theorem tokensFrom_before {before other : Option Char}
    (same : before.any Text.isWord = other.any Text.isWord)
    (text : List Char) : tokensFrom before text = tokensFrom other text :=
  congrArg (List.filterMap Piece.token?) (pieces_before same text)

theorem first?_of_mem_pieces {index : Nat} {row : Row} {lexeme : List Char} {before : Option Char}
    {text : List Char} (member : .taken index row lexeme ∈ pieces before text) :
    ∃ before rest, Row.first? before (lexeme ++ rest) = some (index, row, lexeme) := by
  fun_induction pieces before text with
  | case1 => simp at member
  | case2 before c tail place tried taken found ih =>
    rcases List.mem_cons.1 member with same | later
    · obtain ⟨rfl, rfl, rfl⟩ := Piece.taken.inj same
      obtain ⟨-, rest, split⟩ := Row.first?_prefix found
      exact ⟨before, rest, split ▸ found⟩
    · exact ih later
  | case3 before c tail found ih =>
    rcases List.mem_cons.1 member with same | later
    · cases same
    · exact ih later

/-! ## Blanks -/

theorem isSpace_cases {c : Char} (space : Pattern.isSpace c = true) :
    c = ' ' ∨ c = '\n' ∨ c = '\t' := by
  simpa [Pattern.isSpace, or_assoc] using space

theorem isBlank_of_isSpace {c : Char} (space : Pattern.isSpace c = true) :
    Text.isBlank c = true := by
  rcases isSpace_cases space with rfl | rfl | rfl <;> decide

theorem not_isSpace_of_isWord {c : Char} (word : Text.isWord c = true) :
    Pattern.isSpace c = false := by
  rw [← Bool.not_eq_true]
  intro space
  rw [Text.isWord_of_isBlank (isBlank_of_isSpace space)] at word
  cases word

def reserved : List (List Char) :=
  ["int".toList, "float".toList, "print".toList, "if".toList, "else".toList, "void".toList]

def Pattern.Wordy : Pattern → Prop
  | .words spellings => ∀ spelling ∈ spellings, spelling.toList ∈ reserved
  | _ => False

instance (pattern : Pattern) : Decidable pattern.Wordy := by
  cases pattern <;> unfold Pattern.Wordy <;> infer_instance

/-- Rows for words see only which reserved words stand alone. -/
theorem Pattern.lexeme?_wordy {pattern : Pattern} (wordy : pattern.Wordy)
    {before other : Option Char}
    {text longer : List Char}
    (same : ∀ word ∈ reserved, standsAlone before word text = standsAlone other word longer) :
    pattern.lexeme? before text = pattern.lexeme? other longer := by
  cases pattern with
  | words spellings =>
    exact congrArg (Option.map _) (List.find?_congr fun word member => same _ (wordy word member))
  | _ => cases wordy

theorem Pattern.lexeme?_wordless {pattern : Pattern} (wordy : pattern.Wordy) {before : Option Char}
    {text : List Char}
    (wordless : ∀ word ∈ reserved, standsAlone before word text = false) :
    pattern.lexeme? before text = none := by
  cases pattern with
  | words spellings =>
    exact congrArg (Option.map _) (List.find?_eq_none.2 fun word member => by
      simp [wordless _ (wordy word member)])
  | _ => cases wordy

/-- Where no reserved word stands, only the rows after those for words are to be tried. -/
theorem Row.first?_wordless (before : Option Char) {text : List Char}
    (wordless : ∀ word ∈ reserved, Pattern.standsAlone before word text = false) :
    Row.first? before text = Row.firstOf none text (Row.table.zipIdx.drop 6) := by
  have wordy : ∀ entry ∈ Row.table.zipIdx.take 6, entry.1.pattern.Wordy := by decide
  -- The first six rows are those for words.
  have front : Row.firstOf before text (Row.table.zipIdx.take 6) = none :=
    Row.firstOf_eq_none.2 fun entry member => Pattern.lexeme?_wordless (wordy entry member) wordless
  rw [Row.first?_eq_firstOf, ← List.take_append_drop 6 Row.table.zipIdx, Row.firstOf_append,
    front, Option.none_or]
  rfl

theorem Pattern.standsAlone_start (accepts : Char → Bool)
    (starts : ∀ word ∈ reserved, word.head?.any accepts = true)
    (before : Option Char) {text : List Char} (refused : ∀ c ∈ text.head?, accepts c = false) :
    ∀ word ∈ reserved, standsAlone before word text = false := by
  intro word member
  rw [← Bool.not_eq_true]
  intro alone
  simp only [standsAlone, Bool.and_eq_true] at alone
  obtain ⟨rest, rfl⟩ := List.isPrefixOf_iff_prefix.1 alone.1.2
  obtain ⟨c, head, accepted⟩ := (Option.any_eq_true ..).1 (starts word member)
  obtain ⟨more, rfl⟩ := List.head?_eq_some_iff.1 head
  rw [refused c rfl] at accepted
  cases accepted

theorem Pattern.standsAlone_ended (before : Option Char) {text : List Char}
    (ended : ∀ c ∈ text.head?, Text.isWord c = false) :
    ∀ word ∈ reserved, standsAlone before word text = false :=
  standsAlone_start Text.isWord (by decide) before ended

theorem Row.first?_spaces (before : Option Char) {run rest : List Char} (some_space : run ≠ [])
    (spaces : ∀ c ∈ run, Pattern.isSpace c = true)
    (ended : ∀ c ∈ rest.head?, Pattern.isSpace c = false) :
    Row.first? before (run ++ rest) = some (6, ⟨.blanks, none, none⟩, run) := by
  have taken : (run ++ rest).takeWhile Pattern.isSpace = run := by
    have stop : rest.takeWhile Pattern.isSpace = [] := by
      cases rest with
      | nil => rfl
      | cons c rest => rw [List.takeWhile_cons_of_neg (by simp [ended c rfl])]
    rw [List.takeWhile_append_of_pos spaces, stop, List.append_nil]
  obtain ⟨c, more, rfl⟩ := List.exists_cons_of_ne_nil some_space
  have unworded : ∀ d ∈ (c :: more ++ rest).head?, Text.isWord d = false := by
    rintro _ ⟨⟩
    exact Text.isWord_of_isBlank (isBlank_of_isSpace (spaces c (List.mem_cons_self ..)))
  have blank : Pattern.blanks.lexeme? none (c :: more ++ rest) = some (c :: more) := by
    simp only [Pattern.lexeme?, taken]
  have rows : Row.table.zipIdx.drop 6 = (Row.mk .blanks none none, 6) :: Row.table.zipIdx.drop 7 :=
    rfl
  rw [Row.first?_wordless before (Pattern.standsAlone_ended before unworded), rows,
    Row.firstOf_taken blank]

theorem dropWhile_isSpace_ended (text : List Char) :
    ∀ c ∈ (text.dropWhile Pattern.isSpace).head?, Pattern.isSpace c = false := by
  intro c head
  simpa [Option.mem_def.1 head] using List.head?_dropWhile_not Pattern.isSpace text

theorem Row.first?_space (before : Option Char) {c : Char} (space : Pattern.isSpace c = true)
    (rest : List Char) :
    ∃ run, Row.first? before (c :: rest) = some (6, ⟨.blanks, none, none⟩, run) := by
  have some_space : (c :: rest).takeWhile Pattern.isSpace ≠ [] := by simp [space]
  have found :=
    Row.first?_spaces before some_space (fun d => List.mem_takeWhile_imp)
      (dropWhile_isSpace_ended (c :: rest))
  rw [List.takeWhile_append_dropWhile] at found
  exact ⟨_, found⟩

/-- Before anything but a word it does not count what stood there. -/
theorem pieces_ended (before : Option Char) {text : List Char}
    (ended : ∀ c ∈ text.head?, Text.isWord c = false) :
    pieces before text = pieces none text := by
  have first : Row.first? before text = Row.first? none text :=
    (Row.first?_wordless before (Pattern.standsAlone_ended before ended)).trans
      (Row.first?_wordless none (Pattern.standsAlone_ended none ended)).symm
  cases text with
  | nil => rw [pieces, pieces]
  | cons c rest => rw [pieces, pieces, first]

theorem lexFrom_run (before : Option Char) {run rest : List Char} (some_space : run ≠ [])
    (spaces : ∀ c ∈ run, Pattern.isSpace c = true)
    (ended : ∀ c ∈ rest.head?, Pattern.isSpace c = false) :
    lexFrom before (run ++ rest) = lexFrom none rest := by
  have outside : run.getLast?.any Text.isWord = (none : Option Char).any Text.isWord := by
    rw [List.getLast?_eq_some_getLast some_space]
    exact Text.isWord_of_isBlank (isBlank_of_isSpace (spaces _ (List.getLast_mem some_space)))
  rw [lexFrom_taken (Row.first?_spaces before some_space spaces ended), lexFrom,
    pieces_before outside]
  rfl

theorem lexFrom_spaces (before : Option Char) {run : List Char} (some_space : run ≠ [])
    (spaces : ∀ c ∈ run, Pattern.isSpace c = true) (rest : List Char) :
    lexFrom before (run ++ rest) = lexFrom none rest := by
  -- The run may go on in the rest.
  have more : ∀ c ∈ rest.takeWhile Pattern.isSpace, Pattern.isSpace c = true :=
    fun c => List.mem_takeWhile_imp
  have ended := dropWhile_isSpace_ended rest
  have parts : rest.takeWhile Pattern.isSpace ++ rest.dropWhile Pattern.isSpace = rest :=
    List.takeWhile_append_dropWhile
  calc lexFrom before (run ++ rest)
      = lexFrom before ((run ++ rest.takeWhile Pattern.isSpace) ++ rest.dropWhile Pattern.isSpace) := by
        rw [List.append_assoc, parts]
    _ = lexFrom none (rest.dropWhile Pattern.isSpace) :=
        lexFrom_run before (by simp [some_space]) (List.forall_mem_append.2 ⟨spaces, more⟩) ended
    _ = lexFrom none rest := by
        by_cases nothing : rest.takeWhile Pattern.isSpace = []
        · conv_rhs => rw [← parts, nothing, List.nil_append]
        · conv_rhs => rw [← parts]
          exact (lexFrom_run none nothing more ended).symm

theorem lexFrom_space (before : Option Char) {c : Char} (space : Pattern.isSpace c = true)
    (rest : List Char) :
    lexFrom before (c :: rest) = lexFrom none rest :=
  lexFrom_spaces before (List.cons_ne_nil c []) (by simpa using space) rest

theorem tokensFrom_spaces (before : Option Char) {run : List Char} (some_space : run ≠ [])
    (spaces : ∀ c ∈ run, Pattern.isSpace c = true) (rest : List Char) :
    tokensFrom before (run ++ rest) = tokensFrom none rest :=
  congrArg Lexed.tokens (lexFrom_spaces before some_space spaces rest)

theorem tokensFrom_blank {c : Char} (blank : Text.isBlank c = true) (rest : List Char)
    (before : Option Char) :
    tokensFrom before (c :: rest) = tokensFrom none rest := by
  by_cases space : Pattern.isSpace c = true
  · exact tokensFrom_spaces before (List.cons_ne_nil c []) (by simpa using space) rest
  · have unknown : Row.first? before (c :: rest) = none := by
      refine Row.first?_eq_none.2 fun row member => ?_
      exact Pattern.lexeme?_blank (Row.solid_of_mem member) before blank (by simpa using space) rest
    rw [tokensFrom_unknown unknown]
    exact tokensFrom_before (by simp [Text.isWord_of_isBlank blank]) rest

/-- What stands before a blank is read on its own, and so is what follows. A quotation could go on
behind other blanks than a newline. -/
theorem lexFrom_append {front : List Char} {c : Char} (blank : Text.isBlank c = true)
    (closed : '"' ∈ front → c = '\n') (back : List Char) (before : Option Char) :
    lexFrom before (front ++ c :: back) = lexFrom before front ++ lexFrom none (c :: back) := by
  -- By the length of the front, since a lexeme takes several characters at once.
  induction size : front.length using Nat.strong_induction_on generalizing front before with
  | _ size ih =>
    cases front with
    | nil =>
      have ended : ∀ d ∈ (c :: back).head?, Text.isWord d = false := by
        rintro _ ⟨⟩
        exact Text.isWord_of_isBlank blank
      rw [List.nil_append, lexFrom_nil, lexFrom, pieces_ended before ended]
      rfl
    | cons d front =>
      subst size
      have closedFront : '"' ∈ front → c = '\n' :=
        fun member => closed (List.mem_cons_of_mem d member)
      by_cases space : Pattern.isSpace d = true
      · rw [List.cons_append, lexFrom_space before space, lexFrom_space before space]
        exact ih front.length (by simp) closedFront none rfl
      · have same : Row.first? before (d :: front ++ c :: back) = Row.first? before (d :: front) :=
          Row.first?_congr fun row member =>
            Pattern.lexeme?_append (Row.solid_of_mem member) before (by simpa using space)
            (fun quote => closed (quote ▸ List.mem_cons_self ..)) front blank back
        cases found : Row.first? before (d :: front) with
        | none =>
          rw [List.cons_append] at same ⊢
          rw [lexFrom_unknown (same.trans found), lexFrom_unknown found, Lexed.append_assoc,
            ih front.length (by simp) closedFront (some d) rfl]
        | some taken =>
          -- The same lexeme is taken from both texts, and less than the front is left.
          obtain ⟨index, row, lexeme⟩ := taken
          obtain ⟨some_char, rest, split⟩ := Row.first?_prefix found
          have alone : Row.first? before (lexeme ++ rest) = some (index, row, lexeme) := by
            rw [split, found]
          have shorter : rest.length < (d :: front).length := by
            have positive := List.length_pos_iff.2 some_char
            rw [← split, List.length_append]
            omega
          have closedRest : '"' ∈ rest → c = '\n' :=
            fun member => closed (split ▸ List.mem_append_right lexeme member)
          rw [found, ← split, List.append_assoc] at same
          rw [← split, lexFrom_taken alone, List.append_assoc, lexFrom_taken same,
            Lexed.append_assoc, ih rest.length shorter closedRest lexeme.getLast? rfl]

/-- A newline divides a text into two that are read as if each stood alone. -/
theorem lex_across_newline (first second : String) :
    (lex (first ++ "\n" ++ second)).tokens = (lex first).tokens ++ (lex second).tokens ∧
      (lex (first ++ "\n" ++ second)).errors = (lex first).errors ++ (lex second).errors := by
  have chars : (first ++ "\n" ++ second).toList = first.toList ++ '\n' :: second.toList := by
    simp only [String.toList_append, List.append_assoc]
    rfl
  have divided : lex (first ++ "\n" ++ second) = lex first ++ lex second := by
    change lexFrom none _ = lexFrom none _ ++ lexFrom none _
    rw [chars, lexFrom_append (by decide) (fun _ => rfl), lexFrom_space none (by decide)]
  rw [divided]
  exact ⟨rfl, rfl⟩

theorem tokensFrom_append {front : List Char} (unquoted : '"' ∉ front) {c : Char}
    (blank : Text.isBlank c = true) (back : List Char) (before : Option Char) :
    tokensFrom before (front ++ c :: back) = tokensFrom before front ++ tokensFrom none back := by
  have cut := lexFrom_append blank (fun member => absurd member unquoted) back before
  exact (congrArg Lexed.tokens cut).trans (congrArg _ (tokensFrom_blank blank back none))

/-! ## Lines -/

theorem tokensFrom_blanks {text : List Char} (blank : ∀ c ∈ text, Text.isBlank c = true) :
    tokensFrom none text = [] := by
  induction text with
  | nil => exact tokensFrom_nil none
  | cons c rest ih =>
    obtain ⟨first, others⟩ := List.forall_mem_cons.1 blank
    rw [tokensFrom_blank first, ih others]

theorem tokensFrom_trimStart (text : List Char) :
    tokensFrom none (Text.trimStart text) = tokensFrom none text := by
  induction text with
  | nil => rfl
  | cons c rest ih =>
    by_cases blank : Text.isBlank c = true
    · rw [Text.trimStart, List.dropWhile_cons_of_pos blank, tokensFrom_blank blank]
      exact ih
    · rw [Text.trimStart, List.dropWhile_cons_of_neg blank]

theorem tokensFrom_trimEnd {text : List Char} (unquoted : '"' ∉ text) :
    tokensFrom none (Text.trimEnd text) = tokensFrom none text := by
  have parts : Text.trimEnd text ++ text.rtakeWhile Text.isBlank = text :=
    List.rdropWhile_append_rtakeWhile ..
  have blank : ∀ c ∈ text.rtakeWhile Text.isBlank, Text.isBlank c = true :=
    fun c => List.mem_rtakeWhile_imp
  cases tail : text.rtakeWhile Text.isBlank with
  | nil => rw [tail, List.append_nil] at parts; rw [parts]
  | cons c rest =>
    rw [tail] at parts blank
    obtain ⟨first, others⟩ := List.forall_mem_cons.1 blank
    have front : '"' ∉ Text.trimEnd text :=
      fun member => unquoted (parts ▸ List.mem_append_left _ member)
    conv_rhs => rw [← parts, tokensFrom_append front first, tokensFrom_blanks others,
      List.append_nil]

theorem tokensFrom_trim {text : List Char} (unquoted : '"' ∉ text) :
    tokensFrom none (Text.trim text) = tokensFrom none text := by
  have inner : '"' ∉ Text.trimStart text :=
    fun member => unquoted ((List.dropWhile_suffix _).mem member)
  rw [Text.trim, tokensFrom_trimEnd inner, tokensFrom_trimStart]

theorem tokensFrom_splitLines {text : List Char} (unquoted : '"' ∉ text) :
    (Text.splitLines text).flatMap (tokensFrom none) = tokensFrom none text := by
  induction size : text.length using Nat.strong_induction_on generalizing text with
  | _ size ih =>
    subst size
    -- The first line goes up to the first boundary, if there is one.
    have parts : (text.takeWhile fun c => !Text.isBoundary c) ++
      (text.dropWhile fun c => !Text.isBoundary c) = text :=
      List.takeWhile_append_dropWhile
    have plain : ∀ c ∈ text.takeWhile fun c => !Text.isBoundary c, Text.isBoundary c = false :=
      fun c member => by simpa using List.mem_takeWhile_imp member
    cases tail : text.dropWhile fun c => !Text.isBoundary c with
    | nil =>
      rw [tail, List.append_nil] at parts
      rw [parts] at plain
      by_cases nothing : text = []
      · subst nothing
        rw [tokensFrom_nil]
        rfl
      · rw [Text.splitLines_line nothing plain, List.flatMap_singleton]
    | cons c rest =>
      rw [tail] at parts
      have boundary : Text.isBoundary c = true := by
        have first := List.head?_dropWhile_not (fun c => !Text.isBoundary c) text
        simpa [tail] using first
      have blank := Text.isBlank_of_isBoundary boundary
      have front : '"' ∉ text.takeWhile fun c => !Text.isBoundary c :=
        fun member => unquoted (parts ▸ List.mem_append_left _ member)
      have back : '"' ∉ rest := fun member => unquoted (parts ▸ by simp [member])
      have shorter : rest.length < text.length := by
        rw [← parts, List.length_append, List.length_cons]
        omega
      rw [← parts]
      generalize (text.takeWhile fun c => !Text.isBoundary c) = line at plain front
      rw [tokensFrom_append front blank]
      -- A carriage return and the newline after it are one boundary.
      by_cases pair : c = '\r' ∧ rest.head? = some '\n'
      · obtain ⟨rfl, head⟩ := pair
        obtain ⟨more, rfl⟩ := List.head?_eq_some_iff.1 head
        rw [Text.splitLines_append plain (Text.splitLines.eq_2 more), List.flatMap_cons,
          tokensFrom_blank (by decide)]
        rw [List.length_cons] at shorter
        rw [ih more.length (by omega) (fun member => back (List.mem_cons_of_mem _ member)) rfl]
      · have ended := Text.splitLines_boundary boundary fun same head => pair ⟨same, head⟩
        rw [Text.splitLines_append plain ended, List.flatMap_cons, ih rest.length shorter back rfl]

/-- Neither blank lines nor the blanks around a line count. -/
theorem tokensFrom_contentLines {text : List Char} (unquoted : '"' ∉ text) :
    tokensFrom none text = (Text.contentLines text).flatMap (tokensFrom none) := by
  rw [← tokensFrom_splitLines unquoted, Text.contentLines]
  have inside : ∀ line ∈ Text.splitLines text, '"' ∉ line :=
    fun line member quoted => unquoted (Text.mem_of_mem_splitLines member quoted)
  generalize Text.splitLines text = lines at inside ⊢
  induction lines with
  | nil => rfl
  | cons line rest ih =>
    obtain ⟨first, others⟩ := List.forall_mem_cons.1 inside
    rw [List.flatMap_cons, ih others, List.map_cons, ← tokensFrom_trim first]
    cases Text.trim line with
    | nil => rw [tokensFrom_nil]; rfl
    | cons c more => rfl

end Workbench
