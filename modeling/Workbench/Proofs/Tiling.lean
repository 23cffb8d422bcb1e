import Workbench.Proofs.Matching

/-! The lexer tiles its text.

Read on its own, a tiling says of every piece of a text why it stands where it does: it is the
lexeme of a token, whose row is the first of the table to match there; or a run of spaces that ends
at no other space; or one character at which no row matches. The lexer returns the tokens and the
faults of such a tiling, in their order.
-/

set_option autoImplicit false

namespace Workbench

inductive Tile where
  | token (made : Token)
  | gap (run : List Char)
  | fault (c : Char)
  deriving DecidableEq, Repr

namespace Tile

def text : Tile → List Char
  | token made => made.lexeme.toList
  | gap run => run
  | fault c => [c]

def token? : Tile → Option Token
  | token made => some made
  | gap _ | fault _ => none

def error? : Tile → Option LexicalError
  | fault c => some (.unknown c)
  | token _ | gap _ => none

end Tile

/-- A row is the first of the table to match at a place, and its preferred match ends at `stop`. -/
def Row.Leads (source : List Char) (place stop : Nat) (row : Row) : Prop :=
  row.pattern.regex.stop? source place = some stop ∧
  ∃ earlier later, Row.table = earlier ++ row :: later ∧
    ∀ other ∈ earlier, other.pattern.regex.ends source place = []

/-- Why a tile stands at a place of a text. -/
inductive Tile.Fits (source : List Char) (place : Nat) : Tile → Prop where
  | token {row : Row} {kind : Kind} {lexeme : List Char} : row.Leads source place (place + lexeme.length) →
      row.kind = some kind → Fits source place (.token ⟨String.ofList lexeme, kind, row.number⟩)
  | gap {run : List Char} : (∀ c ∈ run, Pattern.isSpace c = true) →
      (source.take place).getLast?.any Pattern.isSpace = false →
      (source.drop (place + run.length)).head?.any Pattern.isSpace = false →
        Fits source place (.gap run)
  | fault {c : Char} : (∀ row ∈ Row.table, row.pattern.regex.ends source place = []) → Fits source place (.fault c)

inductive Tiled (source : List Char) : Nat → List Tile → Prop where
  | done : Tiled source source.length []
  | next {place : Nat} {tile : Tile} {tiles : List Tile} : tile.text ≠ [] → tile.text <+: source.drop place →
      tile.Fits source place → Tiled source (place + tile.text.length) tiles →
        Tiled source place (tile :: tiles)

theorem Tiled.flatMap_text {source : List Char} {place : Nat} {tiles : List Tile}
    (tiled : Tiled source place tiles) :
    tiles.flatMap Tile.text = source.drop place := by
  induction tiled with
  | done => simp
  | next _ covered _ _ ih =>
    obtain ⟨rest, split⟩ := covered
    rw [List.flatMap_cons, ih, ← List.drop_drop, ← split, List.drop_left]

/-! ## What is taken first -/

theorem Row.spelled_of_mem {row : Row} (member : row ∈ Row.table) : row.pattern.Spelled := by
  have all : (Row.table.all fun row => row.pattern.isSpelled) = true := by decide
  exact Pattern.spelled_of_isSpelled (List.all_eq_true.1 all row member)

theorem Row.ends_eq_nil {row : Row} (member : row ∈ Row.table) {front rest : List Char}
    (nothing : row.pattern.lexeme? front.getLast? rest = none) :
    row.pattern.regex.ends (front ++ rest) front.length = [] := by
  have stop := Pattern.stop?_regex (Row.spelled_of_mem member) front rest
  rw [nothing] at stop
  exact List.head?_eq_none_iff.1 stop

theorem Row.leads_of_first? {front rest lexeme : List Char} {index : Nat} {row : Row}
    (found : Row.first? front.getLast? rest = some (index, row, lexeme)) :
    row.Leads (front ++ rest) front.length (front.length + lexeme.length) := by
  have spelled := Row.spelled_of_mem (Row.mem_of_first? found)
  obtain ⟨took, earlier, later, split, nothing⟩ := Row.first?_eq_some.1 found
  refine ⟨?_, earlier.map Prod.fst, later.map Prod.fst, ?_, fun other listed => ?_⟩
  · rw [Pattern.stop?_regex spelled, took]
    rfl
  · have rows := congrArg (List.map Prod.fst) split
    rwa [List.zipIdx_map_fst, List.map_append] at rows
  · obtain ⟨⟨tried, place⟩, member, rfl⟩ := List.mem_map.1 listed
    have known : tried ∈ Row.table := Row.mem_of_zipIdx (split ▸ List.mem_append_left _ member)
    exact Row.ends_eq_nil known (nothing _ member)

/-! ## Where lexemes end -/

namespace Pattern

theorem getLast?_closingQuote {text quoted : List Char} (closed : closingQuote text = some quoted) :
    quoted.getLast? = some '"' := by
  induction text generalizing quoted with
  | nil => cases closed
  | cons c rest ih =>
    rw [closingQuote] at closed
    split at closed
    case isTrue quote =>
      obtain rfl := Option.some.inj closed
      rw [eq_of_beq quote]
      rfl
    case isFalse =>
      split at closed
      · cases closed
      · obtain ⟨more, inner, rfl⟩ := Option.map_eq_some_iff.1 closed
        simp [List.getLast?_cons, ih inner]

theorem getLast?_any_isSpace {text : List Char} (inked : ∀ c ∈ text, isSpace c = false) :
    text.getLast?.any isSpace = false := by
  rw [Option.any_eq_false_iff_get]
  exact fun _ => inked _ (List.mem_of_getLast? (by simp))

theorem not_isSpace_getLast? {pattern : Pattern} (solid : pattern.Solid) (inked : pattern ≠ blanks)
    {before : Option Char}
    {text lexeme : List Char} :
    pattern.lexeme? before text = some lexeme → lexeme.getLast?.any isSpace = false := by
  have spelled : ∀ word : List Char, (∀ c ∈ word, Text.isBlank c = false) →
      word.getLast?.any isSpace = false := by
    intro word unblank
    refine getLast?_any_isSpace fun c member => ?_
    rw [← Bool.not_eq_true]
    intro space
    exact absurd (isBlank_of_isSpace space) (by simp [unblank c member])
  have digits : ∀ text : List Char, ∀ c ∈ text.takeWhile Text.isDecimal, isSpace c = false :=
    fun text c member =>
      not_isSpace_of_isWord (Text.isWord_of_isDecimal (List.mem_takeWhile_imp member))
  fun_cases lexeme? before text pattern with
  | case1 spellings =>
    intro taken
    obtain ⟨word, found, rfl⟩ := Option.map_eq_some_iff.1 taken
    exact spelled word.toList (solid word (List.mem_of_find?_eq_some found)).2
  | case2 spellings =>
    intro taken
    obtain ⟨sign, found, rfl⟩ := Option.map_eq_some_iff.1 taken
    exact spelled sign.toList (solid sign (List.mem_of_find?_eq_some found)).2
  | case4 => exact absurd rfl inked
  | case6 c rest starts =>
    intro taken
    obtain rfl := Option.some.inj taken
    refine getLast?_any_isSpace (List.forall_mem_cons.2 ⟨?_, fun d member => ?_⟩)
    · exact not_isSpace_of_isWord (isWord_of_continuesName (continuesName_of_startsName starts))
    · exact not_isSpace_of_isWord (isWord_of_continuesName (List.mem_takeWhile_imp member))
  | case10 _ tail point some_digit some_place =>
    intro taken
    obtain rfl := Option.some.inj taken
    exact getLast?_any_isSpace
      (List.forall_mem_append.2 ⟨digits text, List.forall_mem_cons.2 ⟨rfl, digits tail⟩⟩)
  | case13 _ some_digit =>
    intro taken
    obtain rfl := Option.some.inj taken
    exact getLast?_any_isSpace (digits text)
  | case14 tail =>
    intro taken
    obtain ⟨quoted, closed, rfl⟩ := Option.map_eq_some_iff.1 taken
    rw [List.getLast?_cons, getLast?_closingQuote closed]
    rfl
  | case3 | case5 | case7 | case8 | case9 | case11 | case12 | case15 =>
    rintro ⟨⟩

end Pattern

/-! ## From pieces to tiles -/

def Piece.tile : Piece → Tile
  | taken _ row lexeme =>
    match row.kind with
    | some kind => .token ⟨String.ofList lexeme, kind, row.number⟩
    | none => .gap lexeme
  | unknown c => .fault c

namespace Piece

theorem text_tile (piece : Piece) : piece.tile.text = piece.text := by
  cases piece with
  | taken index row lexeme =>
    rw [tile]
    cases row.kind with
    | some kind => exact String.toList_ofList
    | none => rfl
  | unknown c => rfl

theorem token?_tile (piece : Piece) : piece.tile.token? = piece.token? := by
  cases piece with
  | taken index row lexeme =>
    rw [tile, token?]
    cases row.kind <;> rfl
  | unknown c => rfl

end Piece

theorem Lexed.ofPieces_eq (found : List Piece) :
    ofPieces found =
      ⟨(found.map Piece.tile).filterMap Tile.token?,
        (found.map Piece.tile).filterMap Tile.error?⟩ := by
  rw [List.filterMap_map, List.filterMap_map, ofPieces]
  congr 1
  · exact (List.filterMap_congr fun piece _ => piece.token?_tile).symm
  · refine List.filterMap_congr fun piece _ => ?_
    cases piece with
    | taken index row lexeme =>
      rw [Function.comp_apply, Piece.tile]
      cases row.kind <;> rfl
    | unknown c => rfl

theorem Row.pattern_eq_blanks : ∀ row ∈ Row.table, row.kind = none ↔ row.pattern = .blanks := by
  decide

/-- What is passed over is all the spaces that come next. -/
theorem Row.first?_gap {before : Option Char} {lexeme rest : List Char} {index : Nat} {row : Row}
    (found : Row.first? before (lexeme ++ rest) = some (index, row, lexeme))
    (passed : row.kind = none) :
    (∀ c ∈ lexeme, Pattern.isSpace c = true) ∧ rest.head?.any Pattern.isSpace = false := by
  have took := (Row.first?_eq_some.1 found).1
  rw [(Row.pattern_eq_blanks row (Row.mem_of_first? found)).1 passed, Pattern.lexeme?] at took
  have run : (lexeme ++ rest).takeWhile Pattern.isSpace = lexeme := by
    split at took
    · cases took
    · exact Option.some.inj took
  have spaces : ∀ c ∈ lexeme, Pattern.isSpace c = true :=
    fun c member => List.mem_takeWhile_imp (run ▸ member)
  refine ⟨spaces, ?_⟩
  rw [List.takeWhile_append_of_pos spaces, List.append_right_eq_self] at run
  cases rest with
  | nil => rfl
  | cons c rest => simpa [List.takeWhile_cons] using run

theorem Row.first?_token {before : Option Char} {text lexeme : List Char} {index : Nat}
    {row : Row} {kind : Kind}
    (found : Row.first? before text = some (index, row, lexeme)) (made : row.kind = some kind) :
    lexeme.getLast?.any Pattern.isSpace = false := by
  have member := Row.mem_of_first? found
  refine Pattern.not_isSpace_getLast? (Row.solid_of_mem member) (fun blank => ?_)
    (Row.first?_eq_some.1 found).1
  rw [(Row.pattern_eq_blanks row member).2 blank] at made
  cases made

def Apart (before : Option Char) (rest : List Char) : Prop :=
  before.any Pattern.isSpace = true → rest.head?.any Pattern.isSpace = false

theorem next_piece {front : List Char} {c : Char} {rest : List Char}
    (apart : Apart front.getLast? (c :: rest)) :
    ∃ piece back, c :: rest = Piece.text piece ++ back ∧ piece.text ≠ [] ∧
      pieces front.getLast? (c :: rest) = piece :: pieces piece.text.getLast? back ∧
      piece.tile.Fits (front ++ c :: rest) front.length ∧ Apart piece.text.getLast? back := by
  cases found : Row.first? front.getLast? (c :: rest) with
  | none =>
    have nothing := Row.first?_eq_none.1 found
    have inked : Pattern.isSpace c = false := by
      have blank := nothing ⟨.blanks, none, none⟩ (by decide)
      by_contra space
      simp [Pattern.lexeme?, space] at blank
    refine ⟨.unknown c, rest, rfl, List.cons_ne_nil c [], pieces_unknown found, ?_, fun space => ?_⟩
    · exact .fault fun row member => Row.ends_eq_nil member (nothing row member)
    · exact absurd space (by simp [Piece.text, inked])
  | some taken =>
    obtain ⟨index, row, lexeme⟩ := taken
    obtain ⟨some_char, back, split⟩ := Row.first?_prefix found
    have first := pieces_taken (split ▸ found)
    refine ⟨.taken index row lexeme, back, split.symm, some_char, split ▸ first, ?_⟩
    -- A row without a kind is the one for spaces, and only there the text in front counts.
    cases made : row.kind with
    | some kind =>
      have fits : (Piece.taken index row lexeme).tile =
          .token ⟨String.ofList lexeme, kind, row.number⟩ := by
        simp only [Piece.tile, made]
      rw [fits]
      refine ⟨.token (Row.leads_of_first? found) made, fun space => ?_⟩
      exact absurd space (by simp [Piece.text, Row.first?_token found made])
    | none =>
      have fits : (Piece.taken index row lexeme).tile = .gap lexeme := by
        simp only [Piece.tile, made]
      obtain ⟨spaces, ended⟩ := Row.first?_gap (split ▸ found) made
      have started : front.getLast?.any Pattern.isSpace = false := by
        rw [← Bool.not_eq_true]
        intro space
        have inked := apart space
        rw [← split, List.head?_append_of_ne_nil _ some_char,
          List.head?_eq_some_head some_char] at inked
        exact absurd (spaces _ (List.head_mem some_char)) (by simpa using inked)
      rw [fits]
      refine ⟨.gap spaces ?_ ?_, fun _ => ended⟩
      · rwa [List.take_left]
      · rwa [← split, ← List.length_append, ← List.append_assoc, List.drop_left]

theorem tiled_pieces {front rest : List Char} (apart : Apart front.getLast? rest) :
    Tiled (front ++ rest) front.length ((pieces front.getLast? rest).map Piece.tile) := by
  -- By the length of the rest, of which a piece takes several characters at once.
  induction size : rest.length using Nat.strong_induction_on generalizing front rest with
  | _ size ih =>
    subst size
    cases rest with
    | nil =>
      rw [pieces, List.append_nil]
      exact .done
    | cons c rest =>
      obtain ⟨piece, back, split, some_char, first, fits, follows⟩ := next_piece apart
      have last : (front ++ piece.text).getLast? = piece.text.getLast? :=
        List.getLast?_append_of_ne_nil _ some_char
      have shorter : back.length < (c :: rest).length := by
        have positive := List.length_pos_iff.2 some_char
        rw [split, List.length_append]
        omega
      have others := ih back.length shorter (last ▸ follows) rfl
      rw [last, List.append_assoc, ← split, List.length_append] at others
      have covered : piece.text <+: (front ++ c :: rest).drop front.length := by
        rw [List.drop_left, split]
        exact List.prefix_append ..
      rw [first, List.map_cons]
      rw [← piece.text_tile] at some_char covered
      exact .next some_char covered fits (by rwa [piece.text_tile])

/-- Every text is the sequence of its tiles, and they are what the lexer returns. -/
theorem lex_tiles (source : String) :
    ∃ tiles, Tiled source.toList 0 tiles ∧ tiles.flatMap Tile.text = source.toList ∧
      (lex source).tokens = tiles.filterMap Tile.token? ∧
        (lex source).errors = tiles.filterMap Tile.error? := by
  have tiled : Tiled source.toList 0 ((pieces none source.toList).map Piece.tile) :=
    @tiled_pieces [] source.toList nofun
  have result : lex source = _ := Lexed.ofPieces_eq (pieces none source.toList)
  exact ⟨_, tiled, tiled.flatMap_text, congrArg Lexed.tokens result, congrArg Lexed.errors result⟩

end Workbench
