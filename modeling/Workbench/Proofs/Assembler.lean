import Workbench.Mips.Instruction

/-! Reading assembly back.

A line holds words that blanks and commas set apart. Only the code of integers is read: it has ten
temporary registers and one each for the number and the argument of a system call. A listing of such
code reads as what it lists.
-/

set_option autoImplicit false

namespace Workbench.Mips

def Register.isWord : Register → Bool
  | temporary index => index < 10
  | argument | value => true
  | floating _ | named _ => false

def Register.ofName? : List Char → Option Register
  | ['$', 't', c] => if c.isDigit then some (.temporary (c.toNat - '0'.toNat)) else none
  | ['$', 'a', '0'] => some .argument
  | ['$', 'v', '0'] => some .value
  | _ => none

def Operation.ofName? (chars : List Char) : Option Operation :=
  if chars = "add".toList then some .add
  else if chars = "sub".toList then some .sub
  else if chars = "mul".toList then some .mul
  else if chars = "div".toList then some .div
  else none

/-- What a line stands for, given its words. -/
def Item.ofWords? : List (List Char) → Option Item
  | [first] =>
    if first = ".data".toList then some .dataSection
    else if first = ".text".toList then some .textSection
    else if first = "main:".toList then some .entryPoint
    else if first = "syscall".toList then some (.instruction .syscall)
    else none
  | [first, second, third] =>
    -- Only labels end in a colon, and all words in memory start as zero.
    if first.getLast? = some ':' then
      if second = ".word".toList ∧
        third = "0".toList then some (.word (String.ofList first.dropLast)) else none
    else do
      let register ← Register.ofName? second
      if first =
        "li".toList then some (.instruction (.immediate .word register (String.ofList third)))
      else if first =
        "lw".toList then some (.instruction (.load .word register (String.ofList third)))
      else if first =
        "sw".toList then some (.instruction (.store .word register (String.ofList third)))
      else none
  | [first, second, third, fourth] => do
    let operation ← Operation.ofName? first
    let target ← Register.ofName? second
    let left ← Register.ofName? third
    let right ← Register.ofName? fourth
    some (.instruction (.compute .word operation target left right))
  | _ => none

def separates (c : Char) : Bool := c == ' ' || c == ','

def wordsOf (line : List Char) : List (List Char) := (line.splitOnP separates).filter (!·.isEmpty)

def lines (text : List Char) : List (List (List Char)) :=
  ((text.splitOn '\n').map wordsOf).filter (!·.isEmpty)

def assemble (text : String) : Option (List Item) := (lines text.toList).mapM Item.ofWords?

/-! ## Words -/

def isPlain (chars : List Char) : Bool :=
  !chars.isEmpty && chars.all fun c => !separates c && c != '\n'

theorem isPlain_iff {chars : List Char} :
    isPlain chars = true ↔ chars ≠ [] ∧ ∀ c ∈ chars, separates c = false ∧ c ≠ '\n' := by
  simp [isPlain]

section
variable {word rest : List Char} {c : Char}

theorem wordsOf_separator (separator : separates c = true) (rest : List Char) :
    wordsOf (c :: rest) = wordsOf rest := by
  rw [wordsOf, ← List.nil_append (c :: rest), List.splitOnP_append_cons _ _ separator]
  rfl

theorem wordsOf_word (plain : isPlain word = true) : wordsOf word = [word] := by
  obtain ⟨some_char, unseparated⟩ := isPlain_iff.1 plain
  rw [wordsOf, List.splitOnP_eq_singleton fun c member => (unseparated c member).1]
  simp [some_char]

theorem wordsOf_append (plain : isPlain word = true) (separator : separates c = true)
    (rest : List Char) :
    wordsOf (word ++ c :: rest) = word :: wordsOf rest := by
  rw [wordsOf, List.splitOnP_append_cons _ _ separator, List.filter_append]
  exact congrArg (· ++ wordsOf rest) (wordsOf_word plain)

end

/-! ## Lines -/

theorem lines_append (front back : List Char) :
    lines (front ++ '\n' :: back) = lines front ++ lines back := by
  rw [lines, List.splitOn, List.splitOnP_append_cons _ _ (by decide), List.map_append,
    List.filter_append]
  rfl

theorem lines_line {line : List Char} (single : '\n' ∉ line) {word : List Char}
    {others : List (List Char)}
    (words : wordsOf line = word :: others) : lines line = [word :: others] := by
  have one : line.splitOn '\n' = [line] := by
    refine List.splitOnP_eq_singleton fun c member => ?_
    exact beq_eq_false_iff_ne.2 fun same => single (same ▸ member)
  rw [lines, one, List.map_singleton, words]
  rfl

section
variable {first : List Char} {others : List (List Char)}

theorem newline_of_isPlain (plain : isPlain first = true) : '\n' ∉ first :=
  fun member => ((isPlain_iff.1 plain).2 _ member).2 rfl

def operandText (words : List (List Char)) : List Char := [',', ' '].intercalate words

theorem wordsOf_operandText (plain : ∀ word ∈ others, isPlain word = true) :
    wordsOf (operandText others) = others ∧ '\n' ∉ operandText others := by
  induction others with
  | nil => exact ⟨rfl, List.not_mem_nil⟩
  | cons word others ih =>
    obtain ⟨plain_first, plain⟩ := List.forall_mem_cons.1 plain
    obtain ⟨words, single⟩ := ih plain
    have single_first := newline_of_isPlain plain_first
    cases others with
    | nil =>
      rw [operandText, List.intercalate_singleton]
      exact ⟨wordsOf_word plain_first, single_first⟩
    | cons next others =>
      have shape : operandText (word :: next :: others) =
          word ++ ',' :: ' ' :: operandText (next :: others) := by
        simp [operandText, List.intercalate_cons_cons]
      rw [shape, wordsOf_append plain_first rfl, wordsOf_separator rfl, words]
      exact ⟨rfl, by simp [single_first, single]⟩

def lineText : List (List Char) → List Char
  | [] => []
  | [first] => first
  | first :: others => first ++ ' ' :: operandText others

theorem wordsOf_lineText (plain_first : isPlain first = true)
    (plain : ∀ word ∈ others, isPlain word = true) :
    wordsOf ("    ".toList ++ lineText (first :: others)) = first :: others ∧
      '\n' ∉ lineText (first :: others) := by
  have single_first := newline_of_isPlain plain_first
  have text : wordsOf (lineText (first :: others)) = first :: others ∧
      '\n' ∉ lineText (first :: others) := by
    cases others with
    | nil => exact ⟨wordsOf_word plain_first, single_first⟩
    | cons next others =>
      obtain ⟨words, single⟩ := wordsOf_operandText plain
      rw [lineText, wordsOf_append plain_first rfl, words]
      · exact ⟨rfl, by simp [single_first, single]⟩
      · exact List.cons_ne_nil _ _
  refine ⟨?_, text.2⟩
  -- The indentation holds no words.
  change wordsOf (' ' :: ' ' :: ' ' :: ' ' :: lineText (first :: others)) = _
  simp only [wordsOf_separator (show separates ' ' = true from rfl), text.1]

theorem lines_lineText (plain_first : isPlain first = true)
    (plain : ∀ word ∈ others, isPlain word = true) :
    lines ("    ".toList ++ lineText (first :: others)) = [first :: others] := by
  obtain ⟨words, single⟩ := wordsOf_lineText plain_first plain
  exact lines_line (by simp [single]) words

end

/-! ## Items -/

def Instruction.words : Instruction → List (List Char)
  | immediate .word target literal => ["li".toList, target.name.toList, literal.toList]
  | load .word target label => ["lw".toList, target.name.toList, label.toList]
  | store .word source label => ["sw".toList, source.name.toList, label.toList]
  | compute .word operation target left right =>
    [operation.name.toList, target.name.toList, left.name.toList, right.name.toList]
  | syscall => ["syscall".toList]
  | immediate .single .. | load .single .. | store .single .. | compute .single .. => []

def Item.words : Item → List (List Char)
  | dataSection => [".data".toList]
  | word label => [label.toList ++ [':'], ".word".toList, "0".toList]
  | float .. => []
  | textSection => [".text".toList]
  | entryPoint => ["main:".toList]
  | instruction body => body.words

def Instruction.isPlain : Instruction → Bool
  | immediate .word register text | load .word register text | store .word register text =>
    register.isWord && Mips.isPlain text.toList
  | compute .word _ target left right => target.isWord && left.isWord && right.isWord
  | syscall => true
  | immediate .single .. | load .single .. | store .single .. | compute .single .. => false

/-- Code of integers, with labels and literals that are words. -/
def Item.isPlain : Item → Bool
  | dataSection | textSection | entryPoint => true
  | word label => Mips.isPlain label.toList
  | float .. => false
  | instruction body => body.isPlain

theorem Register.read {register : Register} (there : register.isWord = true) :
    Mips.isPlain register.name.toList = true ∧
      Register.ofName? register.name.toList = some register := by
  cases register with
  | temporary index =>
    have all : ∀ index < 10, Mips.isPlain (Register.temporary index).name.toList = true ∧
        Register.ofName? (Register.temporary index).name.toList = some (.temporary index) := by
          decide
    exact all index (of_decide_eq_true there)
  | argument | value => decide
  | floating | named => cases there

theorem Operation.read (operation : Operation) :
    Mips.isPlain operation.name.toList = true ∧
      Operation.ofName? operation.name.toList = some operation := by
  cases operation <;> decide

section
variable {body : Instruction} (plain : body.isPlain = true)
include plain

theorem Instruction.render_toList : body.render.toList = lineText body.words := by
  cases body with
  | syscall => rfl
  | immediate precision | load precision | store precision | compute precision =>
    cases precision with
    | single => cases plain
    | word => simp [render, words, lineText, operandText, List.intercalate_cons_cons]

theorem Instruction.isPlain_words : ∃ first others, body.words = first :: others ∧
    Mips.isPlain first = true ∧
    ∀ word ∈ others, Mips.isPlain word = true := by
  cases body with
  | syscall => exact ⟨_, _, rfl, by decide, List.forall_mem_nil _⟩
  | immediate precision | load precision | store precision =>
    cases precision with
    | single => cases plain
    | word =>
      obtain ⟨there, plain⟩ := Bool.and_eq_true_iff.1 plain
      exact ⟨_, _, rfl, by decide, by simp [(Register.read there).1, plain]⟩
  | compute precision operation target left right =>
    cases precision with
    | single => cases plain
    | word =>
      simp only [isPlain, Bool.and_eq_true] at plain
      obtain ⟨⟨target_there, left_there⟩, right_there⟩ := plain
      refine ⟨_, _, rfl, operation.read.1, ?_⟩
      simp [(Register.read target_there).1, (Register.read left_there).1,
        (Register.read right_there).1]

theorem Instruction.read : Item.ofWords? body.words = some (.instruction body) := by
  cases body with
  | syscall => rfl
  | immediate precision target text | load precision target text | store precision target text =>
    cases precision with
    | single => cases plain
    | word =>
      have known := (Register.read (Bool.and_eq_true_iff.1 plain).1).2
      simp only [words, Item.ofWords?, known]
      simp
  | compute precision operation target left right =>
    cases precision with
    | single => cases plain
    | word =>
      simp only [isPlain, Bool.and_eq_true] at plain
      obtain ⟨⟨target_there, left_there⟩, right_there⟩ := plain
      simp only [words, Item.ofWords?, operation.read.2, (Register.read target_there).2,
        (Register.read left_there).2, (Register.read right_there).2]
      rfl

end

section
variable {item : Item} (plain : item.isPlain = true)
include plain

theorem Item.lines_render : lines item.render.toList = [item.words] := by
  cases item with
  | dataSection | textSection | entryPoint => decide
  | float => cases plain
  | instruction body =>
    obtain ⟨first, others, words, plain_first, plain_others⟩ := Instruction.isPlain_words plain
    rw [render, String.toList_append, Instruction.render_toList plain, Item.words, words]
    exact lines_lineText plain_first plain_others
  | word label =>
    have single := newline_of_isPlain (show Mips.isPlain label.toList = true from plain)
    have plain : Mips.isPlain (label.toList ++ [':']) = true := by
      obtain ⟨-, unseparated⟩ := isPlain_iff.1 plain
      refine isPlain_iff.2 ⟨by simp, List.forall_mem_append.2 ⟨unseparated, ?_⟩⟩
      exact List.forall_mem_singleton.2 (by decide)
    have written : (word label).render.toList = (label.toList ++ [':']) ++ ' ' ::
      ".word 0".toList := by simp [render]
    rw [written]
    refine lines_line (by simp [single]) ?_
    rw [wordsOf_append plain rfl]
    rfl

theorem Item.read : ofWords? item.words = some item := by
  cases item with
  | dataSection | textSection | entryPoint => rfl
  | float => cases plain
  | instruction body => exact Instruction.read plain
  | word label => simp [words, ofWords?]

end

theorem lines_listing {items : List Item} (plain : ∀ item ∈ items, item.isPlain = true) :
    lines (listing items).toList = items.map Item.words := by
  induction items with
  | nil => rfl
  | cons item rest ih =>
    obtain ⟨plain_first, plain⟩ := List.forall_mem_cons.1 plain
    cases rest with
    | nil =>
      rw [listing, List.map_singleton, String.intercalate_singleton]
      exact Item.lines_render plain_first
    | cons next rest =>
      have text : (listing (item :: next :: rest)).toList =
          item.render.toList ++ '\n' :: (listing (next :: rest)).toList := by
        simp [listing, String.intercalate_cons_cons]
      rw [text, lines_append, ih plain, Item.lines_render plain_first]
      rfl

/-- What a listing reads as. -/
theorem assemble_listing {items : List Item} (plain : ∀ item ∈ items, item.isPlain = true) :
    assemble (listing items) = some items := by
  rw [assemble, lines_listing plain]
  induction items with
  | nil => rfl
  | cons item rest ih =>
    obtain ⟨plain_first, plain⟩ := List.forall_mem_cons.1 plain
    rw [List.map_cons, List.mapM_cons, Item.read plain_first, ih plain]
    rfl

end Workbench.Mips
