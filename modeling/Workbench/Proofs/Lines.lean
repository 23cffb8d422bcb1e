import Mathlib.Data.List.DropRight
import Workbench.Text.Lines

/-! The lines of a text that have something on them.

Blanks around a text may belong to its first and its last line, or be lines of their own. Either way
the lines that are left when blanks are dropped everywhere are the same.
-/

set_option autoImplicit false

namespace Workbench

namespace Text

/-! ## Classes of characters -/

theorem isDecimal_of_isDigit {c : Char} (digit : c.isDigit = true) : isDecimal c = true := by
  have range : 48 ≤ c.toNat ∧ c.toNat ≤ 57 := by
    simpa [Char.isDigit, UInt32.le_iff_toNat_le] using digit
  have ascii : isAscii c = true := decide_eq_true (by omega)
  rw [isDecimal, if_pos ascii, digit]

theorem isAscii_of_isAlpha {c : Char} (letter : c.isAlpha = true) : isAscii c = true := by
  refine decide_eq_true ?_
  delta Char.isAlpha Char.isUpper Char.isLower at letter
  simp only [Bool.or_eq_true, Bool.and_eq_true, decide_eq_true_eq, UInt32.le_iff_toNat_le] at letter
  change c.val.toNat < 128
  rcases letter with range | range
  · exact range.2.trans_lt (by decide)
  · exact range.2.trans_lt (by decide)

theorem isLetter_of_isAlpha {c : Char} (letter : c.isAlpha = true) : isLetter c = true := by
  rw [isLetter, if_pos (isAscii_of_isAlpha letter), letter]

theorem isBlank_of_isBoundary {c : Char} (boundary : isBoundary c = true) : isBlank c = true := by
  simp only [isBoundary, isBlank, Ranges.contains, Ranges.holds, boundaries, blanks,
    List.any_cons, List.any_nil,
    Bool.or_eq_true, Bool.and_eq_true, decide_eq_true_eq, Bool.false_eq_true,
      or_false] at boundary ⊢
  omega

def blankCodes : List Nat := blanks.flatMap fun range => List.range' range.1 (range.2 + 1 - range.1)

theorem toNat_mem_blankCodes {c : Char} (blank : isBlank c = true) : c.toNat ∈ blankCodes := by
  simp only [isBlank, Ranges.contains, Ranges.holds, List.any_eq_true, Bool.and_eq_true,
    decide_eq_true_eq] at blank
  obtain ⟨range, member, low, high⟩ := blank
  exact List.mem_flatMap.2 ⟨range, member, List.mem_range'_1.2 ⟨low, by omega⟩⟩

theorem isWord_of_isBlank {c : Char} (blank : isBlank c = true) : isWord c = false := by
  have none_word : ∀ code ∈ blankCodes, isWord (Char.ofNat code) = false := by decide +kernel
  rw [← Char.ofNat_toNat c]
  exact none_word c.toNat (toNat_mem_blankCodes blank)

/-! ## Blanks at the ends -/

theorem trimEnd_eq_nil_iff {text : List Char} : trimEnd text = [] ↔ ∀ c ∈ text, isBlank c = true :=
  List.rdropWhile_eq_nil_iff

theorem trimEnd_cons (c : Char) (text : List Char) :
    trimEnd (c :: text) = if trimEnd text = [] then trimEnd [c] else c :: trimEnd text := by
  simp only [trimEnd, List.reverse_cons, List.dropWhile_append, List.reverse_eq_nil_iff,
    List.isEmpty_iff]
  split
  · rfl
  · rw [List.reverse_append]
    rfl

theorem trim_cons {c : Char} (blank : isBlank c = true) (text : List Char) :
    trim (c :: text) = trim text := by
  rw [trim, trimStart, List.dropWhile_cons_of_pos blank]
  rfl

theorem trim_cons_of_not_blank {c : Char} (solid : ¬ isBlank c = true) (text : List Char) :
    trim (c :: text) = trimEnd (c :: text) := by
  rw [trim, trimStart, List.dropWhile_cons_of_neg solid]

theorem trimEnd_concat {c : Char} (solid : isBlank c = false) (text : List Char) :
    trimEnd (text ++ [c]) = text ++ [c] :=
  List.rdropWhile_concat_neg _ _ _ (by simp [solid])

theorem trimEnd_trimEnd (text : List Char) : trimEnd (trimEnd text) = trimEnd text :=
  List.rdropWhile_idempotent ..

theorem trim_trimEnd (text : List Char) : trim (trimEnd text) = trim text := by
  induction text with
  | nil => rfl
  | cons c text ih =>
    by_cases blank : isBlank c = true
    · have alone : trimEnd [c] = [] := trimEnd_eq_nil_iff.2 (by simpa using blank)
      rw [trim_cons blank, ← ih, trimEnd_cons, alone]
      split
      case isTrue nothing => rw [nothing]
      case isFalse => rw [trim_cons blank]
    · have alone : trimEnd [c] = [c] := by simp [trimEnd, blank]
      -- A character that is not blank stays in front, so nothing is dropped there afterwards.
      have starts : ∃ rest, trimEnd (c :: text) = c :: rest := by
        rw [trimEnd_cons, alone]
        split
        · exact ⟨[], rfl⟩
        · exact ⟨trimEnd text, rfl⟩
      obtain ⟨rest, same⟩ := starts
      calc trim (trimEnd (c :: text)) = trimEnd (trimEnd (c :: text)) := by
            rw [same, trim_cons_of_not_blank blank]
        _ = trim (c :: text) := by rw [trimEnd_trimEnd, trim_cons_of_not_blank blank]

/-! ## Lines -/

/-- The lines of a text that are not blank, without the blanks around them. -/
def contentLines (text : List Char) : List (List Char) :=
  ((splitLines text).map trim).filter fun line => !line.isEmpty

def extendFirst (c : Char) : List (List Char) → List (List Char)
  | [] => [[c]]
  | line :: more => (c :: line) :: more

theorem splitLines_plain {c : Char} (plain : isBoundary c = false) (rest : List Char) :
    splitLines (c :: rest) = extendFirst c (splitLines rest) := by
  have not_return : c ≠ '\r' := by
    rintro rfl
    exact absurd plain (by decide)
  rw [splitLines.eq_3 c rest fun _ same _ => not_return same, plain]
  cases splitLines rest <;> rfl

theorem splitLines_boundary {c : Char} (boundary : isBoundary c = true) {rest : List Char}
    (apart : c = '\r' → rest.head? ≠ some '\n') :
    splitLines (c :: rest) = [] :: splitLines rest := by
  have single : ∀ more, c = '\r' → rest = '\n' :: more → False := by
    rintro more rfl rfl
    exact apart rfl rfl
  rw [splitLines.eq_3 c rest single, boundary]
  rfl

theorem splitLines_pair (rest : List Char) :
    splitLines ('\r' :: '\n' :: rest) = splitLines ('\n' :: rest) := by
  rw [splitLines.eq_2, splitLines_boundary (by decide) (by simp)]

theorem splitLines_line {line : List Char} (some_char : line ≠ [])
    (plain : ∀ c ∈ line, isBoundary c = false) :
    splitLines line = [line] := by
  induction line with
  | nil => exact absurd rfl some_char
  | cons c line ih =>
    obtain ⟨first, others⟩ := List.forall_mem_cons.1 plain
    rw [splitLines_plain first]
    cases line with
    | nil => rfl
    | cons d line => rw [ih (List.cons_ne_nil d line) others, extendFirst]

theorem splitLines_append {line tail : List Char} {more : List (List Char)}
    (plain : ∀ c ∈ line, isBoundary c = false)
    (ended : splitLines tail = [] :: more) : splitLines (line ++ tail) = line :: more := by
  induction line with
  | nil => exact ended
  | cons c line ih =>
    obtain ⟨first, others⟩ := List.forall_mem_cons.1 plain
    rw [List.cons_append, splitLines_plain first, ih others, extendFirst]

theorem contentLines_cons {c : Char} (blank : isBlank c = true) (rest : List Char) :
    contentLines (c :: rest) = contentLines rest := by
  unfold contentLines
  by_cases boundary : isBoundary c = true
  · by_cases pair : c = '\r' ∧ rest.head? = some '\n'
    · obtain ⟨rfl, head⟩ := pair
      obtain ⟨more, rfl⟩ := List.head?_eq_some_iff.1 head
      rw [splitLines_pair]
    · rw [splitLines_boundary boundary fun same head => pair ⟨same, head⟩]
      rfl
  · rw [splitLines_plain (by simpa using boundary)]
    cases splitLines rest with
    | nil => rw [extendFirst, List.map_singleton, trim_cons blank]; rfl
    | cons line more => rw [extendFirst, List.map_cons, List.map_cons, trim_cons blank]

theorem contentLines_trimStart (text : List Char) :
    contentLines (trimStart text) = contentLines text := by
  induction text with
  | nil => rfl
  | cons c rest ih =>
    by_cases blank : isBlank c = true
    · rw [contentLines_cons blank, ← ih, trimStart, List.dropWhile_cons_of_pos blank]
      rfl
    · rw [trimStart, List.dropWhile_cons_of_neg blank]

theorem contentLines_blank_append {gap : List Char} (blank : ∀ c ∈ gap, isBlank c = true)
    (text : List Char) :
    contentLines (gap ++ text) = contentLines text := by
  induction gap with
  | nil => rfl
  | cons c gap ih =>
    obtain ⟨first, others⟩ := List.forall_mem_cons.1 blank
    rw [List.cons_append, contentLines_cons first, ih others]

theorem contentLines_line {line : List Char} (some_char : line ≠ [])
    (plain : ∀ c ∈ line, isBoundary c = false)
    (trimmed : trim line = line) : contentLines line = [line] := by
  rw [contentLines, splitLines_line some_char plain, List.map_singleton, trimmed,
    List.filter_cons_of_pos (by simpa using some_char)]
  rfl

theorem mem_of_mem_splitLines {text line : List Char} (member : line ∈ splitLines text) {c : Char}
    (inside : c ∈ line) :
    c ∈ text := by
  fun_induction splitLines text generalizing line with
  | case1 => simp at member
  | case2 rest ih =>
    rcases List.mem_cons.1 member with rfl | later
    · simp at inside
    · simp [ih later inside]
  | case3 d rest other boundary ih =>
    rcases List.mem_cons.1 member with rfl | later
    · simp at inside
    · simp [ih later inside]
  | case4 d rest other plain nothing ih =>
    obtain rfl := List.mem_singleton.1 member
    obtain rfl := List.mem_singleton.1 inside
    simp
  | case5 d rest other plain first more split ih =>
    rcases List.mem_cons.1 member with rfl | later
    · rcases List.mem_cons.1 inside with rfl | inside
      · simp
      · simp [ih (split ▸ List.mem_cons_self ..) inside]
    · simp [ih (split ▸ List.mem_cons_of_mem _ later) inside]

/-- Only what is left at the ends of lines counts for what is left when the first is extended. -/
theorem map_trimEnd_extendFirst (c : Char) (lines : List (List Char)) :
    (extendFirst c lines).map trimEnd = (extendFirst c (lines.map trimEnd)).map trimEnd := by
  cases lines with
  | nil => rfl
  | cons line more =>
    simp only [extendFirst, List.map_cons, List.map_map, trimEnd_cons c (trimEnd line),
      trimEnd_cons c line, trimEnd_trimEnd]
    exact congrArg _ (List.map_congr_left fun other _ => (trimEnd_trimEnd other).symm)

theorem extendFirst_append_blank (c : Char) (lines : List (List Char)) (count : Nat) :
    ∃ more, (extendFirst c (lines ++ List.replicate count [])).map trimEnd =
      (extendFirst c lines).map trimEnd ++ List.replicate more [] := by
  have unchanged : ∀ count, (List.replicate count ([] : List Char)).map trimEnd =
    List.replicate count [] := by simp [trimEnd]
  cases lines with
  | nil =>
    cases count with
    | zero => exact ⟨0, rfl⟩
    | succ count => exact ⟨count, congrArg (List.cons _) (unchanged count)⟩
  | cons line more =>
    refine ⟨count, ?_⟩
    simp only [List.cons_append, extendFirst, List.map_cons, List.map_append, unchanged]

theorem map_trimEnd_extendFirst_append (c : Char) {longer lines : List (List Char)} {count : Nat}
    (same : longer.map trimEnd = lines.map trimEnd ++ List.replicate count []) :
    ∃ more, (extendFirst c longer).map trimEnd = (extendFirst c lines).map trimEnd ++
      List.replicate more [] := by
  rw [map_trimEnd_extendFirst, same, map_trimEnd_extendFirst c lines]
  exact extendFirst_append_blank c _ count

theorem splitLines_blank {text : List Char} (blank : ∀ c ∈ text, isBlank c = true) :
    ∃ count, (splitLines text).map trimEnd = List.replicate count [] := by
  refine ⟨(splitLines text).length, List.map_eq_replicate_iff.2 fun line member =>
    trimEnd_eq_nil_iff.2 fun c inside => ?_⟩
  exact blank c (mem_of_mem_splitLines member inside)

/-- Blanks at the end of a text change the ends of its lines and may add blank ones, but no more. -/
theorem splitLines_append_blank (text : List Char) {tail : List Char}
    (blank : ∀ c ∈ tail, isBlank c = true) :
    ∃ count, (splitLines (text ++ tail)).map trimEnd = (splitLines text).map trimEnd ++
      List.replicate count [] := by
  fun_induction splitLines text with
  | case1 =>
    obtain ⟨count, lines⟩ := splitLines_blank blank
    exact ⟨count, lines⟩
  | case2 rest ih =>
    obtain ⟨count, lines⟩ := ih
    exact ⟨count, congrArg (List.cons []) lines⟩
  | case3 c rest other boundary ih =>
    by_cases pair : c = '\r' ∧ (rest ++ tail).head? = some '\n'
    -- A carriage return at the end of the text may take the newline among the blanks to itself.
    · obtain ⟨rfl, head⟩ := pair
      cases rest with
      | cons d rest =>
        obtain rfl : d = '\n' := Option.some.inj head
        exact (other rest rfl rfl).elim
      | nil =>
        obtain ⟨more, rfl⟩ := List.head?_eq_some_iff.1 head
        obtain ⟨count, lines⟩ := splitLines_blank (List.forall_mem_cons.1 blank).2
        exact ⟨count, congrArg (List.cons []) lines⟩
    · obtain ⟨count, lines⟩ := ih
      refine ⟨count, ?_⟩
      rw [List.cons_append, splitLines_boundary boundary fun same head => pair ⟨same, head⟩,
        List.map_cons, lines]
      rfl
  | case4 c rest other plain nothing ih =>
    obtain ⟨count, lines⟩ := ih
    rw [List.cons_append, splitLines_plain (by simpa using plain)]
    have extended := map_trimEnd_extendFirst_append c lines
    rwa [nothing] at extended
  | case5 c rest other plain line more split ih =>
    obtain ⟨count, lines⟩ := ih
    rw [List.cons_append, splitLines_plain (by simpa using plain)]
    have extended := map_trimEnd_extendFirst_append c lines
    rwa [split] at extended

theorem contentLines_eq (text : List Char) :
    contentLines text = (((splitLines text).map trimEnd).map trim).filter fun line =>
      !line.isEmpty := by
  simp only [contentLines, List.map_map, Function.comp_def, trim_trimEnd]

/-- Blanks at the end of a text do not count: the lines that they add are filtered out. -/
theorem contentLines_append_blank (text : List Char) {tail : List Char}
    (blank : ∀ c ∈ tail, isBlank c = true) :
    contentLines (text ++ tail) = contentLines text := by
  obtain ⟨count, lines⟩ := splitLines_append_blank text blank
  have blank_lines : ((List.replicate count []).map trim).filter (fun line => !line.isEmpty) =
      [] := by
    rw [List.map_replicate, List.filter_replicate]
    rfl
  rw [contentLines_eq, lines, contentLines_eq, List.map_append, List.filter_append, blank_lines,
    List.append_nil]

theorem contentLines_trim (text : List Char) : contentLines (trim text) = contentLines text := by
  rw [← contentLines_trimStart text, trim]
  generalize trimStart text = text
  have parts : trimEnd text ++ text.rtakeWhile isBlank = text :=
    List.rdropWhile_append_rtakeWhile ..
  have blank : ∀ c ∈ text.rtakeWhile isBlank, isBlank c = true :=
    fun c member => List.mem_rtakeWhile_imp member
  calc contentLines (trimEnd text) = contentLines (trimEnd text ++ text.rtakeWhile isBlank) :=
        (contentLines_append_blank _ blank).symm
    _ = contentLines text := by rw [parts]

theorem splitLines_ne_nil {text : List Char} (some_char : text ≠ []) : splitLines text ≠ [] := by
  fun_cases splitLines text with
  | case1 => exact absurd rfl some_char
  | case2 | case3 | case4 | case5 => simp

/-- A text is cut after a boundary, unless that takes a newline from the carriage return before
it. -/
theorem splitLines_terminated (front : List Char) {c : Char} {back : List Char}
    (boundary : isBoundary c = true) (apart : c = '\r' → back.head? ≠ some '\n') :
    splitLines (front ++ c :: back) = splitLines (front ++ [c]) ++ splitLines back := by
  have alone : c = '\r' → ([] : List Char).head? ≠ some '\n' := fun _ => by simp
  induction front with
  | nil =>
    rw [List.nil_append, List.nil_append, splitLines_boundary boundary apart,
      splitLines_boundary boundary alone]
    rfl
  | cons d front ih =>
    rw [List.cons_append, List.cons_append]
    by_cases plain : isBoundary d = false
    · rw [splitLines_plain plain, splitLines_plain plain, ih]
      cases lines : splitLines (front ++ [c]) with
      | nil => exact absurd lines (splitLines_ne_nil (by simp))
      | cons line more => rfl
    · have heads : (front ++ c :: back).head? = (front ++ [c]).head? := by cases front <;> rfl
      by_cases pair : d = '\r' ∧ (front ++ [c]).head? = some '\n'
      -- Both texts start with the same pair, which counts as its newline.
      · obtain ⟨rfl, head⟩ := pair
        obtain ⟨rest, short⟩ := List.head?_eq_some_iff.1 head
        obtain ⟨more, long⟩ := List.head?_eq_some_iff.1 (heads.trans head)
        rw [long, short, splitLines_pair, splitLines_pair, ← long, ← short, ih]
      · have ends : isBoundary d = true := by simpa using plain
        rw [splitLines_boundary ends fun same head => pair ⟨same, heads ▸ head⟩,
          splitLines_boundary ends fun same head => pair ⟨same, head⟩, ih]
        rfl

/-- A boundary parts the lines before it from those after it. -/
theorem contentLines_boundary (front : List Char) {c : Char} (boundary : isBoundary c = true)
    (back : List Char) :
    contentLines (front ++ c :: back) = contentLines front ++ contentLines back := by
  have cut {front : List Char} {c : Char} {back : List Char} (boundary : isBoundary c = true)
      (apart : c = '\r' → back.head? ≠ some '\n') :
      contentLines (front ++ c :: back) = contentLines front ++ contentLines back := by
    have blank : ∀ d ∈ [c], isBlank d = true := by simpa using isBlank_of_isBoundary boundary
    rw [← contentLines_append_blank front blank]
    simp only [contentLines, splitLines_terminated front boundary apart, List.map_append,
      List.filter_append]
  by_cases pair : c = '\r' ∧ back.head? = some '\n'
  -- The cut is made after the newline, and the carriage return counts as a blank before it.
  · obtain ⟨rfl, head⟩ := pair
    obtain ⟨rest, rfl⟩ := List.head?_eq_some_iff.1 head
    have joined : front ++ '\r' :: '\n' :: rest = (front ++ ['\r']) ++ '\n' :: rest := by simp
    have blank : ∀ d ∈ ['\r'], isBlank d = true := List.forall_mem_singleton.2 rfl
    rw [joined, cut (by decide) (by simp), contentLines_append_blank front blank,
      contentLines_cons (by decide)]
  · exact cut boundary fun same head => pair ⟨same, head⟩

theorem exists_mem_splitLines {text : List Char} {c : Char} (inside : c ∈ text)
    (plain : isBoundary c = false) :
    ∃ line ∈ splitLines text, c ∈ line := by
  induction text with
  | nil => cases inside
  | cons d rest ih =>
    have later (inside : c ∈ rest) : ∃ line ∈ extendFirst d (splitLines rest), c ∈ line := by
      obtain ⟨line, member, inside⟩ := ih inside
      cases split : splitLines rest with
      | nil => rw [split] at member; cases member
      | cons first more =>
        rw [split] at member
        rcases List.mem_cons.1 member with rfl | member
        · exact ⟨d :: line, List.mem_cons_self .., List.mem_cons_of_mem d inside⟩
        · exact ⟨line, List.mem_cons_of_mem _ member, inside⟩
    by_cases boundary : isBoundary d = true
    · have further : c ∈ rest := (List.mem_cons.1 inside).resolve_left fun same => by
        rw [← same, plain] at boundary
        cases boundary
      by_cases pair : d = '\r' ∧ rest.head? = some '\n'
      -- The pair counts as the newline alone.
      · obtain ⟨rfl, head⟩ := pair
        obtain ⟨more, rfl⟩ := List.head?_eq_some_iff.1 head
        rw [splitLines_pair]
        exact ih further
      · rw [splitLines_boundary boundary fun same head => pair ⟨same, head⟩]
        obtain ⟨line, member, inside⟩ := ih further
        exact ⟨line, List.mem_cons_of_mem _ member, inside⟩
    · rw [splitLines_plain (by simpa using boundary)]
      rcases List.mem_cons.1 inside with rfl | inside
      · cases splitLines rest with
        | nil => exact ⟨[c], List.mem_singleton_self _, List.mem_singleton_self c⟩
        | cons first more => exact ⟨c :: first, List.mem_cons_self .., List.mem_cons_self ..⟩
      · exact later inside

theorem mem_trim {line : List Char} {c : Char} (inside : c ∈ line) (solid : isBlank c = false) :
    c ∈ trim line := by
  have started : c ∈ trimStart line := by
    have parts : line.takeWhile isBlank ++ trimStart line = line := List.takeWhile_append_dropWhile
    rw [← parts] at inside
    refine (List.mem_append.1 inside).resolve_left fun front => ?_
    rw [List.mem_takeWhile_imp front] at solid
    cases solid
  have parts : trimEnd (trimStart line) ++ (trimStart line).rtakeWhile isBlank = trimStart line :=
    List.rdropWhile_append_rtakeWhile ..
  rw [← parts] at started
  refine (List.mem_append.1 started).resolve_right fun back => ?_
  rw [List.mem_rtakeWhile_imp back] at solid
  cases solid

theorem mem_of_mem_trim {line : List Char} {c : Char} (inside : c ∈ trim line) : c ∈ line := by
  have started : c ∈ trimStart line := (List.rdropWhile_prefix ..).mem inside
  exact (List.dropWhile_suffix isBlank).mem started

theorem mem_of_mem_contentLines {text line : List Char} (member : line ∈ contentLines text)
    {c : Char} (inside : c ∈ line) :
    c ∈ text := by
  obtain ⟨whole, listed, rfl⟩ := List.mem_map.1 (List.mem_of_mem_filter member)
  exact mem_of_mem_splitLines listed (mem_of_mem_trim inside)

theorem exists_mem_contentLines {text : List Char} {c : Char} (inside : c ∈ text)
    (solid : isBlank c = false) :
    ∃ line ∈ contentLines text, c ∈ line := by
  have plain : isBoundary c = false := by
    rw [← Bool.not_eq_true]
    intro boundary
    rw [isBlank_of_isBoundary boundary] at solid
    cases solid
  obtain ⟨line, member, inside⟩ := exists_mem_splitLines inside plain
  have kept := mem_trim inside solid
  refine ⟨trim line, List.mem_filter.2 ⟨List.mem_map_of_mem member, ?_⟩, kept⟩
  simpa using List.ne_nil_of_mem kept

end Text

end Workbench
