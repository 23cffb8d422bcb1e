import Workbench.Proofs.Occurrences

/-! When a token that is spelled like a reserved word is one.

The rows for words come before the row for names, and want no word character on either side. Whether
one stands in front depends on the piece that ends there. In ASCII every other piece goes on as long
as there are word characters, or ends with none; so only a number leaves a word character in front
of a word, which then is taken for a name.
-/

set_option autoImplicit false

namespace Workbench

open Line (Ended)

theorem Text.isWord_of_isAscii {c : Char} (ascii : isAscii c = true) :
    isWord c = Pattern.continuesName c := by
  rw [isWord, isLetter, isDigit, isDecimal, if_pos ascii, if_pos ascii, ascii,
    Pattern.continuesName, Char.isAlphanum]
  cases c == '_' <;> simp

def Kind.isNumber : Kind → Bool
  | .integer | .real => true
  | _ => false

namespace Pattern

def isNumeric : Pattern → Bool
  | real | integer => true
  | words _ | signs _ | blanks | identifier | quotation => false

theorem decimal_ends {digits : List Char} (some_digit : digits ≠ [])
    (all : ∀ c ∈ digits, Text.isDecimal c = true) :
    digits.head?.any Text.isDecimal = true ∧ digits.getLast?.any Text.isDecimal = true := by
  rw [List.head?_eq_some_head some_digit, List.getLast?_eq_some_getLast some_digit]
  exact ⟨all _ (List.head_mem some_digit), all _ (List.getLast_mem some_digit)⟩

theorem lexeme?_number {pattern : Pattern} (number : pattern.isNumeric = true)
    {before : Option Char}
    {text lexeme : List Char} (taken : pattern.lexeme? before text = some lexeme) :
    lexeme.head?.any Text.isDecimal = true ∧ lexeme.getLast?.any Text.isDecimal = true := by
  cases pattern with
  | integer =>
    rw [lexeme?] at taken
    split at taken
    · cases taken
    case h_2 some_digit =>
      obtain rfl := Option.some.inj taken
      exact decimal_ends some_digit fun c => List.mem_takeWhile_imp
  | real =>
    obtain ⟨whole, tail, -, some_digit, digits, some_place, rfl⟩ := exists_point taken
    have places := decimal_ends some_place fun c => List.mem_takeWhile_imp
    rw [List.head?_append_of_ne_nil _ some_digit,
      List.getLast?_append_of_ne_nil _ (List.cons_ne_nil _ _),
      List.getLast?_cons_of_ne_nil some_place]
    exact ⟨(decimal_ends some_digit digits).1, places.2⟩
  | words _ | signs _ | blanks | identifier | quotation => cases number

theorem isNumeric_of_followed {pattern : Pattern} (signs : ∀ spelling ∈ pattern.signSpellings,
      ∀ c ∈ spelling.toList, Text.isWord c = false) {before : Option Char} {lexeme rest : List Char}
    (taken : pattern.lexeme? before (lexeme ++ rest) = some lexeme)
    (last : lexeme.getLast?.any Text.isWord = true)
    (next : rest.head?.any continuesName = true) : pattern.isNumeric = true := by
  obtain ⟨d, back, rfl⟩ : ∃ d back, rest = d :: back := by
    cases rest with
    | nil => cases next
    | cons d back => exact ⟨d, back, rfl⟩
  have word : Text.isWord d = true := isWord_of_continuesName next
  obtain ⟨c, ends, worded⟩ := (Option.any_eq_true ..).1 last
  have member := List.mem_of_getLast? ends
  cases pattern with
  | words spellings =>
    obtain ⟨spelling, found, rfl⟩ := Option.map_eq_some_iff.1 taken
    have alone := List.find?_some found
    simp [standsAlone, word] at alone
  | signs spellings =>
    obtain ⟨spelling, found, rfl⟩ := Option.map_eq_some_iff.1 taken
    rw [signs spelling (List.mem_of_find?_eq_some found) c member] at worded
    cases worded
  | blanks =>
    rw [lexeme?] at taken
    split at taken
    · cases taken
    case h_2 =>
      have space : isSpace c = true := List.mem_takeWhile_imp (Option.some.inj taken ▸ member)
      rw [not_isSpace_of_isWord worded] at space
      cases space
  | identifier =>
    cases lexeme with
    | nil => cases ends
    | cons first more =>
      simp only [List.cons_append, lexeme?, Option.ite_none_right_eq_some, Option.some.injEq,
        List.cons.injEq, true_and] at taken
      have named : ∀ c ∈ more, continuesName c = true :=
        fun c member => List.mem_takeWhile_imp (taken.2 ▸ member)
      have longer := taken.2
      rw [List.takeWhile_append_of_pos named,
        List.takeWhile_cons_of_pos (show continuesName d = true from next)] at longer
      simp at longer
  | quotation =>
    obtain ⟨tail, quoted, -, closed, rfl⟩ := exists_quote taken
    rw [List.getLast?_cons, getLast?_closingQuote closed] at ends
    obtain rfl : '"' = c := Option.some.inj ends
    exact absurd worded (by decide)
  | real | integer => rfl

end Pattern

namespace Row

theorem isNumeric_iff : ∀ row ∈ table, row.pattern.isNumeric = row.kind.any Kind.isNumber := by
  decide

theorem unworded_of_signSpellings {row : Row} (member : row ∈ table) :
    ∀ spelling ∈ row.pattern.signSpellings, ∀ c ∈ spelling.toList, Text.isWord c = false := by
  have all : (signSpellings.all fun spelling => spelling.toList.all fun c => !Text.isWord c) =
    true := by decide
  intro spelling listed c inside
  simpa using List.all_eq_true.1
    (List.all_eq_true.1 all spelling (mem_signSpellings member listed)) c inside

section
variable {before : Option Char} {lexeme rest : List Char} {index : Nat} {row : Row}

theorem isNumber_of_followed (found : first? before (lexeme ++ rest) = some (index, row, lexeme))
    (last : lexeme.getLast?.any Text.isWord = true)
    (next : rest.head?.any Pattern.continuesName = true) :
    row.kind.any Kind.isNumber = true := by
  have member := mem_of_first? found
  rw [← isNumeric_iff row member]
  exact Pattern.isNumeric_of_followed (unworded_of_signSpellings member)
    (first?_eq_some.1 found).1 last next

theorem decimal_of_isNumber {text : List Char}
    (found : first? before text = some (index, row, lexeme))
    (number : row.kind.any Kind.isNumber = true) :
    lexeme.head?.any Text.isDecimal = true ∧ lexeme.getLast?.any Text.isDecimal = true := by
  rw [← isNumeric_iff row (mem_of_first? found)] at number
  exact Pattern.lexeme?_number number (first?_eq_some.1 found).1

end

theorem first?_spelling {before : Option Char} {word rest : List Char} (member : word ∈ reserved)
    (ended : Ended rest) :
    first? before (word ++ rest) =
      if before.any Text.isWord then some (7, ⟨.identifier, some .identifier, some 0⟩, word)
        else first? none word := by
  split
  case isTrue behind =>
    -- Behind a word character no reserved word stands alone, and the spelling is a name.
    have wordless : ∀ other ∈ reserved, Pattern.standsAlone before other (word ++ rest) =
        false := by
      intro other _
      simp [Pattern.standsAlone, behind]
    have named : ∀ word ∈ reserved, word.head?.any Pattern.startsName = true ∧
        word.tail.all Pattern.continuesName = true := by decide
    obtain ⟨starts, continues⟩ := named word member
    cases word with
    | nil => cases starts
    | cons c more =>
      have run : (more ++ rest).takeWhile Pattern.continuesName = more :=
        takeWhile_ended (fun _ => Pattern.isWord_of_continuesName)
          (List.all_eq_true.1 continues) ended
      rw [List.cons_append] at wordless ⊢
      rw [first?_name starts wordless, run]
  case isFalse apart =>
    refine first?_reserved member ?_
    have stopped : rest.head?.any Text.isWord = false := by
      cases rest with
      | nil => rfl
      | cons c rest => exact ended c rfl
    simp [Pattern.standsAlone, apart, stopped]

end Row

theorem first?_of_pieces_unknown {before : Option Char} {text : List Char} {c : Char}
    {back : List Piece}
    (split : pieces before text = .unknown c :: back) :
    ∃ rest, text = c :: rest ∧ Row.first? before text = none := by
  cases text with
  | nil =>
    rw [pieces] at split
    cases split
  | cons d text =>
    rw [pieces] at split
    split at split
    case h_1 => cases split
    case h_2 nothing =>
      obtain ⟨same, -⟩ := List.cons.inj split
      exact ⟨text, by rw [Piece.unknown.inj same], nothing⟩

theorem not_isWord_of_unknown {before : Option Char} {c : Char} (ascii : Text.isAscii c = true)
    {rest : List Char}
    (nothing : Row.first? before (c :: rest) = none) : Text.isWord c = false := by
  have refused := Row.first?_eq_none.1 nothing
  have unnamed : Pattern.startsName c = false := by
    have name := refused ⟨.identifier, some .identifier, some 0⟩ (by decide)
    simpa [Pattern.lexeme?] using name
  have undecimal : Text.isDecimal c = false := by
    have digits := refused ⟨.integer, some .integer, some 1⟩ (by decide)
    by_contra decimal
    simp [Pattern.lexeme?, decimal] at digits
  rw [Text.isDecimal, if_pos ascii] at undecimal
  simp only [Pattern.startsName, Bool.or_eq_false_iff] at unnamed
  simp [Text.isWord_of_isAscii ascii, Pattern.continuesName, Char.isAlphanum, unnamed, undecimal]

/-- Between two word characters a piece only ends if it is a number. -/
theorem number_before {source : String} (ascii : ∀ c ∈ source.toList, Text.isAscii c = true)
    {front back : List Piece} (split : pieces none source.toList = front ++ back)
    (behind : (front.flatMap Piece.text).getLast?.any Text.isWord = true)
    (next : (back.flatMap Piece.text).head?.any Text.isWord = true) :
    ∃ number ∈ tokensAt source, number.1 + number.2.lexeme.length =
      (front.flatMap Piece.text).length ∧
      number.2.kind.isNumber = true := by
  obtain ⟨whole, -⟩ := pieces_at split
  rcases List.eq_nil_or_concat front with rfl | ⟨early, last, rfl⟩
  · cases behind
  rw [List.concat_eq_append, List.append_assoc, List.singleton_append] at split
  obtain ⟨-, cut⟩ := pieces_at split
  rw [List.flatMap_cons] at cut
  obtain ⟨some_char, -⟩ := pieces_cons cut
  rw [List.concat_eq_append, List.flatMap_append, List.flatMap_singleton] at behind whole ⊢
  rw [List.getLast?_append_of_ne_nil _ some_char] at behind
  have inside : ∀ c ∈ last.text ++ back.flatMap Piece.text, Text.isAscii c = true := by
    intro c member
    rw [whole, List.append_assoc] at ascii
    exact ascii c (List.mem_append_right _ member)
  cases last with
  | unknown c =>
    obtain ⟨rest, same, nothing⟩ := first?_of_pieces_unknown cut
    have outside : Text.isWord c = false :=
      not_isWord_of_unknown (inside c (by simp [Piece.text])) nothing
    simp [Piece.text, outside] at behind
  | taken index row lexeme =>
    have found := first?_of_pieces cut
    have follows : (back.flatMap Piece.text).head?.any Pattern.continuesName = true := by
      obtain ⟨c, head, word⟩ := (Option.any_eq_true ..).1 next
      rw [Text.isWord_of_isAscii
        (inside c (List.mem_append_right _ (List.mem_of_head? head)))] at word
      rw [head]
      exact word
    obtain ⟨kind, known, number⟩ :=
      (Option.any_eq_true ..).1 (Row.isNumber_of_followed found behind follows)
    refine ⟨(_, ⟨String.ofList lexeme, kind, row.number⟩),
      mem_occurrences.2 ⟨early, _, back, split, ?_, rfl⟩, ?_, number⟩
    · rw [Piece.token?, Option.mem_def.1 known]
      rfl
    · simp [Piece.text]

def reservedKinds : List (String × Kind) :=
  [("int", .intWord), ("float", .floatWord), ("print", .printWord), ("if", .ifWord),
    ("else", .elseWord),
   ("void", .typeName)]

theorem ended_of_reserved {before : Option Char} {word rest : List Char} {index : Nat} {row : Row}
    (member : word ∈ reserved) (found : Row.first? before (word ++ rest) = some (index, row, word))
    (ascii : ∀ c ∈ rest.head?, Text.isAscii c = true) : Ended rest := by
  have wordy : ∀ word ∈ reserved, word.getLast?.any Text.isWord = true ∧
      word.head?.any Text.isDecimal = false := by
    decide
  intro c head
  rw [← Bool.not_eq_true]
  intro goes_on
  rw [Text.isWord_of_isAscii (ascii c head)] at goes_on
  have number :=
    Row.isNumber_of_followed found (wordy word member).1
      (by rw [Option.mem_def.1 head]; exact goes_on)
  have digit := (Row.decimal_of_isNumber found number).1
  rw [(wordy word member).2] at digit
  cases digit

section
variable {source : String} (ascii : ∀ c ∈ source.toList, Text.isAscii c = true)
    {place : Nat} {token : Token}
  (member : (place, token) ∈ tokensAt source)
include ascii member

theorem kind_of_reserved {kind : Kind} (listed : (token.lexeme, kind) ∈ reservedKinds) :
    token.kind = if (source.toList.take place).getLast?.any Text.isWord then
      .identifier else kind := by
  have spelled : ∀ entry ∈ reservedKinds, entry.1.toList ∈ reserved ∧
      (Row.first? none entry.1.toList).map (·.2.1.kind) = some (some entry.2) := by decide
  obtain ⟨reserved, worded⟩ := spelled _ listed
  obtain ⟨index, row, found, known, -⟩ := first?_of_mem_tokensAt member
  obtain ⟨-, rest, whole⟩ := Row.first?_prefix found
  rw [← whole] at found
  have ended : Ended rest := by
    refine ended_of_reserved reserved found fun c head =>
      ascii c (List.mem_of_mem_drop (i := place) ?_)
    rw [← whole]
    exact List.mem_append_right _ (List.mem_of_head? head)
  rw [Row.first?_spelling reserved ended] at found
  split at found
  case isTrue behind =>
    obtain ⟨-, rfl⟩ : 7 = index ∧ ⟨.identifier, some .identifier, some 0⟩ = row := by
      simpa using found
    rw [if_pos behind]
    exact (Option.some.inj known).symm
  case isFalse apart =>
    rw [found, Option.map_some, known, Option.some.injEq, Option.some.injEq] at worded
    rw [if_neg apart, worded]

/-- A word character stands in front of a token that starts with one exactly if a number ends
there. -/
theorem word_before_iff (starts : token.lexeme.toList.head?.any Text.isWord = true) :
    (source.toList.take place).getLast?.any Text.isWord = true ↔
      ∃ number ∈ tokensAt source, number.1 + number.2.lexeme.length = place ∧
        number.2.kind.isNumber = true := by
  constructor
  · intro behind
    obtain ⟨front, piece, back, split, made, rfl⟩ := mem_occurrences.1 member
    obtain ⟨whole, cut⟩ := pieces_at split
    rw [Nat.zero_add] at behind ⊢
    rw [whole, List.take_left] at behind
    -- The character before belongs to the last piece in front, which has to be a number.
    refine number_before ascii split behind ?_
    cases piece with
    | unknown c => cases made
    | taken index row lexeme =>
      have lexed := (Piece.token?_taken made).2
      rw [lexed, String.toList_ofList] at starts
      have some_char : lexeme ≠ [] := by
        rintro rfl
        cases starts
      rwa [List.flatMap_cons, Piece.text, List.head?_append_of_ne_nil _ some_char]
  · rintro ⟨⟨earlier, number⟩, listed, rfl, numeric⟩
    obtain ⟨index, row, found, known, -⟩ := first?_of_mem_tokensAt listed
    -- Every number ends in a digit, and that is a word character.
    have digit := (Row.decimal_of_isNumber found (by rw [known]; exact numeric)).2
    obtain ⟨some_char, rest, whole⟩ := Row.first?_prefix found
    have ends : source.toList.take (earlier + number.lexeme.length) =
        source.toList.take earlier ++ number.lexeme.toList := by
      rw [List.take_add, ← whole, ← String.length_toList, List.take_left]
    obtain ⟨c, last, decimal⟩ := (Option.any_eq_true ..).1 digit
    rw [ends, List.getLast?_append_of_ne_nil _ some_char, last]
    exact Text.isWord_of_isDecimal decimal

end

/-- In an ASCII text a token spelled like a reserved word is a name exactly if it directly follows a
number, and has the kind of the word otherwise. -/
theorem reserved_unless_after_number (source : String)
    (ascii : ∀ c ∈ source.toList, Text.isAscii c = true) :
    (tokensAt source).map Prod.snd = (lex source).tokens ∧
      ∀ place token, (place, token) ∈ tokensAt source →
        token.lexeme.toList <+: source.toList.drop place ∧
        ∀ kind, (token.lexeme, kind) ∈ reservedKinds →
          (token.kind = .identifier ↔
            ∃ number ∈ tokensAt source, number.1 + number.2.lexeme.length = place ∧
            (number.2.kind = .integer ∨ number.2.kind = .real)) ∧
          (token.kind ≠ .identifier → token.kind = kind) := by
  have wordy : ∀ entry ∈ reservedKinds, entry.1.toList.head?.any Text.isWord = true ∧
    entry.2 ≠ .identifier := by decide
  have numeric : ∀ kind : Kind, kind.isNumber = true ↔ kind = .integer ∨ kind = .real := by
    intro kind
    cases kind <;> simp [Kind.isNumber]
  refine ⟨map_tokensAt source, fun place token member =>
    ⟨prefix_of_mem_tokensAt member, fun kind listed => ?_⟩⟩
  obtain ⟨starts, other⟩ := wordy _ listed
  have behind := word_before_iff ascii member starts
  simp only [numeric] at behind
  rw [kind_of_reserved ascii member listed, ← behind]
  split <;> simp_all

theorem reserved_unless_after_number_mixed :
    (∀ c ∈ "2.5if \"1\"int@void".toList, Text.isAscii c = true) ∧
      (3, ⟨"if", .identifier, some 0⟩) ∈ tokensAt "2.5if \"1\"int@void" ∧
      (9, ⟨"int", .intWord, some 23⟩) ∈ tokensAt "2.5if \"1\"int@void" ∧
      (13, ⟨"void", .typeName, some 4⟩) ∈ tokensAt "2.5if \"1\"int@void" ∧
      ¬ ∃ number ∈ tokensAt "2.5if \"1\"int@void", number.1 + number.2.lexeme.length = 9 ∧
        (number.2.kind = .integer ∨ number.2.kind = .real) := by
  obtain ⟨all, named, worded, typed⟩ : "2.5if \"1\"int@void".toList.all Text.isAscii = true ∧
      (3, ⟨"if", .identifier, some 0⟩) ∈ tokensAt "2.5if \"1\"int@void" ∧
      (9, ⟨"int", .intWord, some 23⟩) ∈ tokensAt "2.5if \"1\"int@void" ∧
      (13, ⟨"void", .typeName, some 4⟩) ∈ tokensAt "2.5if \"1\"int@void" := by decide +kernel
  have ascii := List.all_eq_true.1 all
  obtain ⟨-, told⟩ := reserved_unless_after_number _ ascii
  refine ⟨ascii, named, worded, typed, fun number => ?_⟩
  have name := ((told 9 _ worded).2 .intWord (by decide)).1.2 number
  exact absurd name (by decide)

end Workbench
