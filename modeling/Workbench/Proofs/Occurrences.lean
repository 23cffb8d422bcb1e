import Workbench.Proofs.Rereading
import Workbench.Proofs.Tiling

/-! Where the tokens of a text stand, and what was to be read there.

What the lexer takes at a place depends on the character in front of it and on the text from there
on. So a token can be compared with all that the rows of the table match at its place. A sign is the
longest of these, unless the equals sign that follows would have made it a longer one.
-/

set_option autoImplicit false

namespace Workbench

open Line (Ended)

/-! ## Places -/

def occurrences (place : Nat) : List Piece → List (Nat × Token)
  | [] => []
  | piece :: rest =>
    (piece.token?.map fun token => (place, token)).toList ++
      occurrences (place + piece.text.length) rest

/-- The tokens of a text, each with its place. -/
def tokensAt (source : String) : List (Nat × Token) := occurrences 0 (pieces none source.toList)

theorem map_occurrences (place : Nat) (found : List Piece) :
    (occurrences place found).map Prod.snd = found.filterMap Piece.token? := by
  induction found generalizing place with
  | nil => rfl
  | cons piece rest ih =>
    rw [occurrences, List.map_append, ih, List.filterMap_cons]
    cases piece.token? <;> rfl

theorem map_tokensAt (source : String) : (tokensAt source).map Prod.snd = (lex source).tokens :=
  map_occurrences 0 _

theorem mem_occurrences {start place : Nat} {token : Token} {found : List Piece} :
    (place, token) ∈ occurrences start found ↔ ∃ front piece back, found = front ++ piece :: back ∧
      piece.token? = some token ∧ place = start + (front.flatMap Piece.text).length := by
  induction found generalizing start with
  | nil => simp [occurrences]
  | cons first rest ih =>
    have here : (place, token) ∈ (first.token?.map fun token => (start, token)).toList ↔
        first.token? = some token ∧ place = start := by
      cases first.token? with
      | none => simp
      | some made => simp [and_comm, eq_comm]
    rw [occurrences, List.mem_append, here, ih]
    constructor
    · rintro (⟨made, rfl⟩ | ⟨front, piece, back, rfl, made, rfl⟩)
      · exact ⟨[], first, rest, rfl, made, rfl⟩
      · refine ⟨first :: front, piece, back, rfl, made, ?_⟩
        rw [List.flatMap_cons, List.length_append, Nat.add_assoc]
    · rintro ⟨front, piece, back, split, made, rfl⟩
      cases front with
      | nil =>
        obtain ⟨rfl, rfl⟩ := List.cons.inj split
        exact .inl ⟨made, rfl⟩
      | cons other front =>
        obtain ⟨rfl, rfl⟩ := List.cons.inj split
        refine .inr ⟨front, piece, back, rfl, made, ?_⟩
        rw [List.flatMap_cons, List.length_append, Nat.add_assoc]

theorem pieces_cons {before : Option Char} {text : List Char} {piece : Piece} {back : List Piece}
    (split : pieces before text = piece :: back) :
    piece.text ≠ [] ∧ ∃ rest, text = piece.text ++ rest ∧
      back = pieces piece.text.getLast? rest := by
  cases text with
  | nil =>
    rw [pieces] at split
    cases split
  | cons c text =>
    cases found : Row.first? before (c :: text) with
    | none =>
      rw [pieces_unknown found] at split
      obtain ⟨rfl, rfl⟩ := List.cons.inj split
      exact ⟨List.cons_ne_nil c [], text, rfl, rfl⟩
    | some taken =>
      obtain ⟨index, row, lexeme⟩ := taken
      obtain ⟨some_char, rest, whole⟩ := Row.first?_prefix found
      rw [← whole, pieces_taken (whole ▸ found)] at split
      obtain ⟨rfl, rfl⟩ := List.cons.inj split
      exact ⟨some_char, rest, whole.symm, rfl⟩

theorem flatMap_pieces (before : Option Char) (text : List Char) :
    (pieces before text).flatMap Piece.text = text := by
  induction size : text.length using Nat.strong_induction_on generalizing before text with
  | _ size ih =>
    subst size
    cases cut : pieces before text with
    | nil =>
      cases text with
      | nil => rfl
      | cons c text =>
        rw [pieces] at cut
        split at cut <;> cases cut
    | cons piece back =>
      obtain ⟨some_char, rest, rfl, rfl⟩ := pieces_cons cut
      have shorter : rest.length < (piece.text ++ rest).length := by
        have positive := List.length_pos_iff.2 some_char
        rw [List.length_append]
        omega
      rw [List.flatMap_cons, ih rest.length shorter _ rest rfl]

/-- What follows some pieces is cut as the rest of the text, behind their last character. -/
theorem pieces_append {read text : List Char} {front back : List Piece}
    (split : pieces read.getLast? text = front ++ back) :
    pieces (read ++ front.flatMap Piece.text).getLast? (back.flatMap Piece.text) = back := by
  induction front generalizing read text with
  | nil =>
    rw [List.nil_append] at split
    rw [List.flatMap_nil, List.append_nil, ← split, flatMap_pieces]
  | cons piece front ih =>
    obtain ⟨some_char, rest, -, others⟩ := pieces_cons split
    have last : (read ++ piece.text).getLast? = piece.text.getLast? :=
      List.getLast?_append_of_ne_nil _ some_char
    rw [← last] at others
    rw [List.flatMap_cons, ← List.append_assoc]
    exact ih others.symm

/-- A piece at its place: the text in front of it, and the text from there on, of which it is the
first piece. -/
theorem pieces_at {source : List Char} {front back : List Piece}
    (split : pieces none source = front ++ back) :
    source = front.flatMap Piece.text ++ back.flatMap Piece.text ∧
      pieces (front.flatMap Piece.text).getLast? (back.flatMap Piece.text) = back := by
  refine ⟨?_, @pieces_append [] source front back split⟩
  rw [← List.flatMap_append, ← split, flatMap_pieces]

theorem first?_of_pieces {before : Option Char} {text : List Char} {index : Nat} {row : Row}
    {lexeme : List Char}
    {back : List Piece} (split : pieces before text = .taken index row lexeme :: back) :
    Row.first? before text = some (index, row, lexeme) := by
  cases text with
  | nil =>
    rw [pieces] at split
    cases split
  | cons c text =>
    rw [pieces] at split
    split at split
    case h_1 found =>
      obtain ⟨same, -⟩ := List.cons.inj split
      obtain ⟨rfl, rfl, rfl⟩ := Piece.taken.inj same
      exact found
    case h_2 => cases split

theorem first?_of_mem_tokensAt {source : String} {place : Nat} {token : Token}
    (member : (place, token) ∈ tokensAt source) :
    ∃ index row, Row.first? (source.toList.take place).getLast? (source.toList.drop place) =
      some (index, row, token.lexeme.toList) ∧ row.kind = some token.kind ∧
        row.number = token.number := by
  obtain ⟨front, piece, back, split, made, rfl⟩ := mem_occurrences.1 member
  obtain ⟨whole, cut⟩ := pieces_at split
  cases piece with
  | unknown c => cases made
  | taken index row lexeme =>
    obtain ⟨kind, known, rfl⟩ := Option.map_eq_some_iff.1 made
    refine ⟨index, row, ?_, known, rfl⟩
    rw [Nat.zero_add, whole, List.take_left, List.drop_left, String.toList_ofList]
    exact first?_of_pieces cut

theorem prefix_of_mem_tokensAt {source : String} {place : Nat} {token : Token}
    (member : (place, token) ∈ tokensAt source) :
    token.lexeme.toList <+: source.toList.drop place := by
  obtain ⟨index, row, found, -⟩ := first?_of_mem_tokensAt member
  exact (Row.first?_prefix found).2

/-! ## Signs -/

def Kind.isSign : Kind → Bool
  | .intWord | .floatWord | .printWord | .ifWord | .elseWord | .typeName | .identifier | .real | .integer | .quotation =>
    false
  | _ => true

namespace Pattern

def signSpellings : Pattern → List String
  | signs spellings => spellings
  | words _ | blanks | identifier | real | integer | quotation => []

def startsSign (c : Char) : Bool := !Text.isWord c && !isSpace c && c != '"'

/-- Where a sign starts, only patterns for signs take something. -/
theorem lexeme?_sign {pattern : Pattern} (known : pattern.isPlain = true ∨ pattern.Wordy)
    (unsigned : pattern.signSpellings = []) (before : Option Char) {c : Char}
    (sign : startsSign c = true)
    (rest : List Char) : pattern.lexeme? before (c :: rest) = none := by
  simp only [startsSign, Bool.and_eq_true, Bool.not_eq_true', bne_iff_ne] at sign
  obtain ⟨⟨unworded, inked⟩, unquoted⟩ := sign
  have undecimal : Text.isDecimal c = false := by
    rw [← Bool.not_eq_true]
    exact fun decimal => absurd (Text.isWord_of_isDecimal decimal) (by simp [unworded])
  have unnamed : startsName c = false := by
    rw [← Bool.not_eq_true]
    intro starts
    exact absurd (isWord_of_continuesName (continuesName_of_startsName starts)) (by simp [unworded])
  cases pattern with
  | words spellings =>
    have ended : Ended (c :: rest) := by
      rintro _ ⟨⟩
      exact unworded
    exact lexeme?_wordless (known.resolve_left Bool.false_ne_true) (standsAlone_ended before ended)
  | signs spellings =>
    obtain rfl : spellings = [] := unsigned
    rfl
  | blanks => simp [lexeme?, inked]
  | identifier => simp [lexeme?, unnamed]
  | real | integer => simp [lexeme?, undecimal]
  | quotation => exact lexeme?_unquoted before unquoted rest

end Pattern

namespace Row

def signSpellings : List String := table.flatMap fun row => row.pattern.signSpellings

theorem mem_signSpellings {row : Row} (member : row ∈ table) {spelling : String}
    (listed : spelling ∈ row.pattern.signSpellings) : spelling ∈ signSpellings :=
  List.mem_flatMap.2 ⟨row, member, listed⟩

theorem mem_ends_sign {row : Row} (member : row ∈ table) {c : Char}
    (sign : Pattern.startsSign c = true)
    (front rest : List Char) (stop : Nat) :
    stop ∈ row.pattern.regex.ends (front ++ c :: rest) front.length ↔
      ∃ spelling ∈ row.pattern.signSpellings, spelling.toList <+: c :: rest ∧
        stop = front.length + spelling.toList.length := by
  by_cases unsigned : row.pattern.signSpellings = []
  · have nothing :=
      Pattern.lexeme?_sign (plain_or_wordy row member) unsigned front.getLast? sign rest
    rw [ends_eq_nil member nothing, unsigned]
    simp
  · obtain ⟨spellings, signs⟩ : ∃ spellings, row.pattern = .signs spellings := by
      cases pattern : row.pattern with
      | signs spellings => exact ⟨spellings, rfl⟩
      | _ => exact absurd (congrArg Pattern.signSpellings pattern) unsigned
    have some_spelling : spellings ≠ [] := by simpa [signs, Pattern.signSpellings] using unsigned
    rw [signs, Pattern.regex, Regex.ends_anyOf _ _ (by simpa using some_spelling), List.flatMap_map,
      List.mem_flatMap]
    simp only [Pattern.signSpellings, Regex.ends_spelled, List.isPrefixOf_iff_prefix, Regex.ends]
    refine exists_congr fun spelling => and_congr_right fun _ => ?_
    split <;> simp_all

theorem spelled_of_isSign {row : Row} (member : row ∈ table) {kind : Kind}
    (known : row.kind = some kind)
    (sign : kind.isSign = true) {before : Option Char} {text lexeme : List Char}
    (took : row.pattern.lexeme? before text = some lexeme) :
    ∃ spelling ∈ row.pattern.signSpellings, spelling.toList = lexeme := by
  have signed : ∀ row ∈ table, row.kind.any Kind.isSign = true →
      row.pattern = .signs row.pattern.signSpellings := by
    decide
  have pattern := signed row member (by rw [known]; exact sign)
  rw [pattern] at took ⊢
  obtain ⟨spelling, found, same⟩ := Option.map_eq_some_iff.1 took
  exact ⟨spelling, List.mem_of_find?_eq_some found, same⟩

theorem startsSign_of_mem {spelling : String} (member : spelling ∈ signSpellings) :
    ∃ c rest, spelling.toList = c :: rest ∧ Pattern.startsSign c = true := by
  have all : (signSpellings.all fun spelling => spelling.toList.head?.any Pattern.startsSign) =
    true := by decide
  obtain ⟨c, head, starts⟩ := (Option.any_eq_true ..).1 (List.all_eq_true.1 all spelling member)
  obtain ⟨rest, chars⟩ := List.head?_eq_some_iff.1 head
  exact ⟨c, rest, chars, starts⟩

def extended : List (String × String) := [("<", "<="), (">", ">="), ("!", "!="), ("=", "==")]

theorem mem_extended {short long : String} (first : short ∈ signSpellings)
    (second : long ∈ signSpellings)
    (starts : short.toList <+: long.toList) (shorter : short.toList.length < long.toList.length) :
    (short, long) ∈ extended := by
  have all : (signSpellings.all fun short => signSpellings.all fun long =>
      !(short.toList.isPrefixOf long.toList && short.toList.length < long.toList.length) ||
        extended.contains (short, long)) = true := by decide +kernel
  have pair := List.all_eq_true.1 (List.all_eq_true.1 all short first) long second
  simpa [List.isPrefixOf_iff_prefix.2 starts, shorter] using pair

theorem first?_alone (before : Option Char) {c : Char} (member : c ∈ ['<', '>', '!'])
    (rest : List Char) :
    ∃ index row, first? before (c :: rest) = some (index, row, [c]) := by
  have unworded : (['<', '>', '!'].all fun c => !Text.isWord c) = true := by decide
  have ended : Ended (c :: rest) := by
    rintro _ ⟨⟩
    simpa using List.all_eq_true.1 unworded c member
  rw [first?_wordless before (Pattern.standsAlone_ended before ended)]
  simp only [List.mem_cons, List.not_mem_nil, or_false] at member
  rcases member with rfl | rfl | rfl <;> exact ⟨_, _, rfl⟩

theorem first?_equals (before : Option Char) (rest : List Char) :
    first? before ('=' :: '=' :: rest) =
    some (19, ⟨.signs ["==", "!="], some .equality, some 11⟩, ['=', '=']) := by
  have ended : Ended ('=' :: '=' :: rest) := by
    rintro _ ⟨⟩
    decide
  exact (first?_wordless before (Pattern.standsAlone_ended before ended)).trans rfl

theorem exists_extended {c : Char} (member : c ∈ ['<', '>', '!']) :
    ∃ row ∈ table, String.ofList [c, '='] ∈ row.pattern.signSpellings := by
  have all : (['<', '>', '!'].all fun c => signSpellings.contains (String.ofList [c, '='])) =
    true := by decide
  exact List.mem_flatMap.1 (List.contains_iff_mem.1 (List.all_eq_true.1 all c member))

section
variable {front text lexeme : List Char} {index : Nat} {row : Row} {kind : Kind}
  (found : first? front.getLast? text = some (index, row, lexeme)) (known : row.kind = some kind)
  (sign : kind.isSign = true)
include found known sign

/-- A row matches more than the sign that is taken exactly if this is one of three and an equals
sign follows. -/
theorem exists_longer_iff :
    (∃ other ∈ table, ∃ stop ∈ other.pattern.regex.ends (front ++ text) front.length,
        front.length + lexeme.length < stop) ↔ (∃ c ∈ ['<', '>', '!'], lexeme = [c]) ∧
          text[1]? = some '=' := by
  have member := mem_of_first? found
  obtain ⟨short, listed, rfl⟩ := spelled_of_isSign member known sign (first?_eq_some.1 found).1
  obtain ⟨-, start⟩ := first?_prefix found
  obtain ⟨c, more, chars, starts⟩ := startsSign_of_mem (mem_signSpellings member listed)
  obtain ⟨rest, rfl⟩ : ∃ rest, text = c :: rest := by
    rw [chars] at start
    obtain ⟨rest, rfl⟩ := start
    exact ⟨more ++ rest, rfl⟩
  -- What is longer starts with what was taken, so that the table's signs alone decide.
  constructor
  · rintro ⟨other, tried, stop, ends, longer⟩
    obtain ⟨long, spelled, fits, rfl⟩ := (mem_ends_sign tried starts front rest stop).1 ends
    have shorter : short.toList.length < long.toList.length := Nat.lt_of_add_lt_add_left longer
    have pair := mem_extended (mem_signSpellings member listed) (mem_signSpellings tried spelled)
      (List.prefix_of_prefix_length_le start fits shorter.le) shorter
    simp only [extended, List.mem_cons, Prod.mk.injEq, List.not_mem_nil, or_false] at pair
    rcases pair with ⟨rfl, rfl⟩ | ⟨rfl, rfl⟩ | ⟨rfl, rfl⟩ | ⟨rfl, rfl⟩
    all_goals obtain ⟨back, same⟩ := fits
    · exact ⟨⟨'<', by simp, rfl⟩, by rw [← same]; rfl⟩
    · exact ⟨⟨'>', by simp, rfl⟩, by rw [← same]; rfl⟩
    · exact ⟨⟨'!', by simp, rfl⟩, by rw [← same]; rfl⟩
    · -- Of two equals signs the first is not taken alone.
      rw [← same, show "==".toList ++ back = '=' :: '=' :: back from rfl, first?_equals] at found
      cases found
  · rintro ⟨⟨d, single, same⟩, follows⟩
    obtain ⟨rfl, rfl⟩ : c = d ∧ more = [] := by simpa [chars] using same
    obtain ⟨back, rfl⟩ : ∃ back, rest = '=' :: back := by
      cases rest with
      | nil => cases follows
      | cons e back => exact ⟨back, by simpa using follows⟩
    obtain ⟨other, tried, spelled⟩ := exists_extended single
    refine ⟨other, tried, _, (mem_ends_sign tried starts front _ _).2 ⟨_, spelled, ?_, rfl⟩, ?_⟩
    · rw [String.toList_ofList]
      exact ⟨back, rfl⟩
    · simp [chars]

end

end Row

theorem take_of_mem_tokensAt {source : String} {place : Nat} {token : Token}
    (member : (place, token) ∈ tokensAt source) :
    (source.toList.take place).length = place := by
  have start := prefix_of_mem_tokensAt member
  obtain ⟨index, row, found, -⟩ := first?_of_mem_tokensAt member
  have some_char := (Row.first?_prefix found).1
  have positive := List.length_pos_iff.2 some_char
  have bound := start.length_le
  rw [List.length_drop] at bound
  rw [List.length_take]
  omega

theorem not_mem_cut {source : String} {token : Token} (member : token ∈ (lex source).tokens) :
    token.lexeme ∉ ["<=", ">=", "!="] := by
  rw [← map_tokensAt] at member
  obtain ⟨⟨place, token⟩, listed, rfl⟩ := List.mem_map.1 member
  obtain ⟨index, row, found, -⟩ := first?_of_mem_tokensAt listed
  obtain ⟨-, back, whole⟩ := Row.first?_prefix found
  rw [← whole] at found
  have alone : ∀ c ∈ ['<', '>', '!'], token.lexeme ≠ String.ofList [c, '='] := by
    intro c single same
    obtain ⟨place, tried, taken⟩ := Row.first?_alone _ single ('=' :: back)
    rw [same, String.toList_ofList] at found
    exact absurd (taken.symm.trans found) (by simp)
  intro cut
  simp only [List.mem_cons, List.not_mem_nil, or_false] at cut
  rcases cut with same | same | same
  · exact alone '<' (by simp) same
  · exact alone '>' (by simp) same
  · exact alone '!' (by simp) same

/-- Of all that the rows of the table match at the place of an operator or a punctuation mark, the
token there is the longest, unless it is one of `<`, `>` and `!` and an equals sign follows: these
are always taken alone. Two equals signs are one token wherever a token starts with them. -/
theorem longest_sign_unless_equals (source : String) :
    (tokensAt source).map Prod.snd = (lex source).tokens ∧
      (∀ place token, (place, token) ∈ tokensAt source → token.kind.isSign = true →
        token.lexeme.toList <+: source.toList.drop place ∧
          ((∃ row ∈ Row.table, ∃ stop ∈ row.pattern.regex.ends source.toList place,
              place + token.lexeme.length < stop) ↔
            token.lexeme ∈ ["<", ">", "!"] ∧ source.toList[place + 1]? = some '=')) ∧
      (∀ token ∈ (lex source).tokens, token.lexeme ∉ ["<=", ">=", "!="]) ∧
      ∀ place token, (place, token) ∈ tokensAt source → ['=', '='] <+: source.toList.drop place →
        token = ⟨"==", .equality, some 11⟩ := by
  refine ⟨map_tokensAt source, fun place token member sign => ⟨prefix_of_mem_tokensAt member, ?_⟩,
    fun token => not_mem_cut, fun place token member doubled => ?_⟩
  · obtain ⟨index, row, found, known, -⟩ := first?_of_mem_tokensAt member
    have longer := Row.exists_longer_iff found known sign
    have single : (∃ c ∈ ['<', '>', '!'], token.lexeme.toList = [c]) ↔
        token.lexeme ∈ ["<", ">", "!"] := by
      simp only [List.mem_cons, List.not_mem_nil, or_false, exists_eq_or_imp, exists_eq_left,
        ← String.toList_inj]
      rfl
    rw [List.take_append_drop, take_of_mem_tokensAt member, String.length_toList, single,
      List.getElem?_drop] at longer
    exact longer
  · obtain ⟨index, row, found, known, number⟩ := first?_of_mem_tokensAt member
    obtain ⟨back, whole⟩ := doubled
    -- Two equals signs are taken at once, whatever stands before or behind them.
    rw [← whole] at found
    have taken := (Row.first?_equals (source.toList.take place).getLast? back).symm.trans found
    simp only [Option.some.injEq, Prod.mk.injEq] at taken
    obtain ⟨-, rfl, chars⟩ := taken
    obtain ⟨lexeme, kind, count⟩ := token
    obtain rfl : kind = .equality := (Option.some.inj known).symm
    obtain rfl : count = some 11 := number.symm
    obtain rfl : lexeme = "==" := String.toList_injective chars.symm
    rfl

theorem longest_sign_unless_equals_chain :
    (1, ⟨"<", .relation, some 7⟩) ∈ tokensAt "a<=b==c" ∧
      (4, ⟨"==", .equality, some 11⟩) ∈ tokensAt "a<=b==c" ∧
      (∃ row ∈ Row.table, ∃ stop ∈ row.pattern.regex.ends "a<=b==c".toList 1, 1 +
        "<".length < stop) ∧
      ¬ ∃ row ∈ Row.table, ∃ stop ∈ row.pattern.regex.ends "a<=b==c".toList 4, 4 +
        "==".length < stop := by
  obtain ⟨less, equal⟩ : (1, ⟨"<", .relation, some 7⟩) ∈ tokensAt "a<=b==c" ∧
      (4, ⟨"==", .equality, some 11⟩) ∈ tokensAt "a<=b==c" := by decide +kernel
  obtain ⟨-, longest, -⟩ := longest_sign_unless_equals "a<=b==c"
  refine ⟨less, equal, (longest 1 _ less rfl).2.2 ⟨by simp, by decide⟩, fun longer => ?_⟩
  have cut := ((longest 4 _ equal rfl).2.1 longer).1
  exact absurd cut (by decide)

/-- `<=` is read as two tokens, although a row of the table matches it at the place of the first. -/
theorem less_equal_cut_in_two :
    (lex "a<=b").tokens =
      [⟨"a", .identifier, some 0⟩, ⟨"<", .relation, some 7⟩, ⟨"=", .assign, some 18⟩,
        ⟨"b", .identifier, some 0⟩] ∧
      ¬ ∀ source place token, (place, token) ∈ tokensAt source → token.kind.isSign = true →
        ∀ row ∈ Row.table, ∀ stop ∈ row.pattern.regex.ends source.toList place, stop ≤
          place + token.lexeme.length := by
  obtain ⟨tokens, listed, matched⟩ : (lex "a<=b").tokens =
    [⟨"a", .identifier, some 0⟩, ⟨"<", .relation, some 7⟩,
      ⟨"=", .assign, some 18⟩, ⟨"b", .identifier, some 0⟩] ∧
        (1, ⟨"<", .relation, some 7⟩) ∈ tokensAt "a<=b" ∧
      3 ∈ (Pattern.signs ["<", "<=", ">", ">="]).regex.ends "a<=b".toList 1 := by decide +kernel
  refine ⟨tokens, fun longest => ?_⟩
  have bound :=
    longest "a<=b" 1 _ listed rfl ⟨.signs ["<", "<=", ">", ">="], some .relation,
      some 7⟩ (by decide) 3 matched
  exact absurd bound (by decide)

end Workbench
