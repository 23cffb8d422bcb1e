import Mathlib.Data.String.Basic
import Workbench.Proofs.Files
import Workbench.Text.Replace

/-! What becomes of lines that are saved and loaded again.

Lines may have newlines of any spelling inside them. Once they have been saved and loaded, each line
has one newline at its end and no other, and from then on saving and loading leaves them as they
are. A file that cannot be read leaves the code and its lines alone.
-/

set_option autoImplicit false

namespace Workbench

variable {α : Type}

/-! ## Newlines of one spelling -/

namespace Text

theorem replace_char (old new : Char) (text : List Char) :
    replace [old] [new] text = text.map fun c => if c == old then new else c := by
  change replaceFrom [old] [new] 0 text = _
  induction text with
  | nil => rfl
  | cons c rest ih =>
    by_cases same : c = old
    · simp [replaceFrom, same, ih]
    · simp [replaceFrom, same, Ne.symm same, ih]

theorem unifyNewlines_eq_replace (text : List Char) :
    unifyNewlines text = replace ['\r'] ['\n'] (replace ['\r', '\n'] ['\n'] text) := by
  rw [replace_char]
  change unifyNewlines text = (replaceFrom ['\r', '\n'] ['\n'] 0 text).map _
  fun_induction unifyNewlines text with
  | case1 => rfl
  | case2 rest ih => simp [replaceFrom, ih]
  | case3 c rest other ih =>
    have apart : ¬ ['\r', '\n'].isPrefixOf (c :: rest) = true := by
      rw [List.isPrefixOf_iff_prefix, List.cons_prefix_cons]
      rintro ⟨rfl, others, rfl⟩
      exact other others rfl rfl
    rw [replaceFrom, if_neg apart, List.map_cons, ih]

theorem not_mem_unifyNewlines (text : List Char) : '\r' ∉ unifyNewlines text := by
  rw [unifyNewlines_eq_replace, replace_char]
  intro member
  obtain ⟨c, -, same⟩ := List.mem_map.1 member
  split at same
  · cases same
  · next other => exact other (by simp [same])

theorem utf8Len_unifyNewlines (text : List Char) :
    String.utf8Len (unifyNewlines text) ≤ String.utf8Len text := by
  fun_induction unifyNewlines text with
  | case1 => exact le_rfl
  | case2 rest ih =>
    simp only [String.utf8Len_cons]
    omega
  | case3 c rest other ih =>
    have one : (if c == '\r' then '\n' else c).utf8Size ≤ c.utf8Size := by
      split
      · next same => rw [beq_iff_eq.1 same]; decide
      · exact le_rfl
    simp only [String.utf8Len_cons]
    omega

theorem unifyNewlines_eq_nil {text : List Char} (nothing : unifyNewlines text = []) :
    text = [] := by
  fun_cases unifyNewlines text with
  | case1 => rfl
  | case2 rest => cases nothing
  | case3 c rest other => rw [unifyNewlines] at nothing <;> first | exact other | cases nothing

/-- A text whose last line, if there is one, is ended by a newline. -/
def IsEnded (text : List Char) : Prop := ∀ c ∈ text.getLast?, c = '\n'

namespace IsEnded

variable {c : Char} {rest : List Char}

theorem tail (ended : IsEnded (c :: rest)) : IsEnded rest := by
  intro last found
  exact ended last (by rw [List.getLast?_cons, Option.mem_def.1 found]; rfl)

theorem cons (ended : IsEnded rest) (first : rest = [] → c = '\n') : IsEnded (c :: rest) := by
  intro last found
  rw [List.getLast?_cons] at found
  cases later : rest.getLast? with
  | none =>
    rw [later] at found
    obtain rfl : c = last := by simpa using found
    exact first (List.getLast?_eq_none_iff.1 later)
  | some final =>
    rw [later] at found
    obtain rfl : final = last := by simpa using found
    exact ended final later

theorem flatten {lines : List (List Char)} (ended : ∀ line ∈ lines, line.getLast? = some '\n') :
    IsEnded lines.flatten := by
  rcases List.eq_nil_or_concat lines with rfl | ⟨front, last, rfl⟩
  · intro c found
    cases found
  · have final : last.getLast? = some '\n' := ended last (by simp)
    intro c found
    simpa [final, eq_comm] using found

theorem unifyNewlines {text : List Char} (ended : IsEnded text) : IsEnded (unifyNewlines text) := by
  fun_induction Text.unifyNewlines text with
  | case1 => exact ended
  | case2 rest ih => exact (ih ended.tail.tail).cons fun _ => rfl
  | case3 c rest other ih =>
    refine (ih ended.tail).cons fun nothing => ?_
    obtain rfl := unifyNewlines_eq_nil nothing
    obtain rfl : c = '\n' := ended c rfl
    rfl

end IsEnded

theorem of_mem_newlineLines {text line : List Char} (ended : IsEnded text)
    (member : line ∈ newlineLines text) :
    ∃ front, line = front ++ ['\n'] ∧ '\n' ∉ front := by
  fun_induction newlineLines text generalizing line with
  | case1 => cases member
  | case2 c rest newline ih =>
    rcases List.mem_cons.1 member with rfl | later
    · exact ⟨[], by simpa using newline, by simp⟩
    · exact ih ended.tail later
  | case3 c rest plain nothing ih =>
    have empty : rest = [] := by rw [← flatten_newlineLines rest, nothing]; rfl
    subst empty
    exact absurd (ended c rfl) (by simpa using plain)
  | case4 c rest plain first more lines ih =>
    rcases List.mem_cons.1 member with rfl | later
    · obtain ⟨front, rfl, none⟩ := ih ended.tail (lines ▸ List.mem_cons_self ..)
      exact ⟨c :: front, rfl,
        List.not_mem_cons_of_ne_of_not_mem (fun same => plain (beq_iff_eq.2 same.symm)) none⟩
    · exact ih ended.tail (lines ▸ List.mem_cons_of_mem _ later)

end Text

/-! ## Files -/

namespace Disk

theorem readText?_eq_none {disk : Disk} {path : String} :
    disk.readText? path = none ↔ ∀ text : String, disk.read? path ≠ some text.toUTF8 := by
  constructor
  · intro unread text held
    rw [readText?_of_read? held] at unread
    cases unread
  · intro other
    unfold readText?
    cases held : disk.read? path with
    | none => rfl
    | some bytes =>
      have undecoded : String.fromUTF8? bytes = none := by
        unfold String.fromUTF8?
        split
        · next valid => exact absurd held (other (String.ofByteArray bytes valid))
        · rfl
      simp [undecoded]

theorem fits_unifyNewlines {disk : Disk} {place text : String}
    (fits : disk.fits place text.toUTF8 = true) :
    disk.fits place (String.ofList (Text.unifyNewlines text.toList)).toUTF8 = true := by
  have shorter := Text.utf8Len_unifyNewlines text.toList
  rw [← String.utf8ByteSize_ofList, ← String.utf8ByteSize_ofList, String.ofList_toList] at shorter
  unfold Disk.fits at fits ⊢
  cases bound : disk.room? place with
  | none => rfl
  | some room =>
    have enough : text.toUTF8.size ≤ room := by simpa [bound] using fits
    exact decide_eq_true (shorter.trans enough)

end Disk

namespace SourceFile

/-! What is written for lines ends in a newline, and what is read of it has lines of one form. -/

theorem exists_texts {lines : List (Content α)} (encoded : ∀ line ∈ lines, line.text? ≠ none) :
    ∃ texts : List String, lines = texts.map .text := by
  induction lines with
  | nil => exact ⟨[], rfl⟩
  | cons line lines ih =>
    obtain ⟨first, encoded⟩ := List.forall_mem_cons.1 encoded
    obtain ⟨texts, rfl⟩ := ih encoded
    cases line with
    | text text => exact ⟨text :: texts, rfl⟩
    | unencodable | other => exact absurd rfl first

theorem save_fst_texts (code : Content α) (texts : List String) (path : String) (disk : Disk) :
    (save path ⟨code, texts.map .text⟩ disk).1 =
      disk.takes path (String.join (texts.map terminated)).toUTF8 := by
  have all : ∀ line ∈ texts.map fun text => (.text text : Content α), line.text? ≠ none := by
    simp [Content.text?]
  rw [Bool.eq_iff_iff, save_fst, output_texts]
  exact and_iff_left all

theorem getLast?_terminated (line : String) : (terminated line).toList.getLast? = some '\n' := by
  unfold terminated
  split
  · next ended => exact beq_iff_eq.1 ended
  · rw [String.toList_append]
    exact List.getLast?_concat ..

theorem isEnded_join (texts : List String) :
    Text.IsEnded (String.join (texts.map terminated)).toList := by
  rw [String.toList_join, List.flatMap_map, List.flatMap_def]
  refine .flatten fun line member => ?_
  obtain ⟨text, -, rfl⟩ := List.mem_map.1 member
  exact getLast?_terminated text

/-- A line as it is read: it has one newline, at its end, and no carriage return. -/
def IsLine (line : String) : Prop := ∃ front : String, line = front ++ "\n" ∧ '\n' ∉ front.toList ∧
    '\r' ∉ front.toList

theorem IsLine.terminated_eq {line : String} (read : IsLine line) : terminated line = line := by
  obtain ⟨front, rfl, -⟩ := read
  rw [terminated, if_pos]
  rw [String.toList_append, beq_iff_eq]
  exact List.getLast?_concat ..

def linesOf (text : List Char) : List String := (Text.newlineLines text).map String.ofList

theorem join_linesOf (text : List Char) : String.join (linesOf text) = String.ofList text := by
  rw [linesOf, join_ofList, Text.flatten_newlineLines]

/-- What is known of a text once lines have been written and read: it is ended, and its newlines
have one spelling. -/
structure IsRead (text : List Char) : Prop where
  ended : Text.IsEnded text
  plain : '\r' ∉ text

theorem isRead_unifyNewlines (texts : List String) :
    IsRead (Text.unifyNewlines (String.join (texts.map terminated)).toList) :=
  ⟨(isEnded_join texts).unifyNewlines, Text.not_mem_unifyNewlines _⟩

theorem IsRead.isLine {text : List Char} (read : IsRead text) :
    ∀ line ∈ linesOf text, IsLine line := by
  intro line member
  obtain ⟨chars, listed, rfl⟩ := List.mem_map.1 member
  obtain ⟨front, rfl, single⟩ := Text.of_mem_newlineLines read.ended listed
  refine ⟨String.ofList front, String.ofList_append, by simpa using single, ?_⟩
  rw [String.toList_ofList]
  intro inside
  have whole := read.plain
  rw [← Text.flatten_newlineLines text] at whole
  exact whole (List.mem_flatten_of_mem listed (List.mem_append_left _ inside))

def ofText (text : List Char) : SourceFile α :=
  ⟨.text (String.join (linesOf text)), (linesOf text).map .text⟩

theorem load?_eq (path : String) (disk : Disk) :
    (load? path disk : Option (SourceFile α)) = (disk.readText? path).map ofText := by
  cases read : disk.readText? path with
  | none => rw [load?, read]; rfl
  | some text =>
    rw [load?, read, Option.map_some, ofText, join_linesOf, linesOf, List.map_map]
    rfl

theorem IsRead.join_terminated {text : List Char} (read : IsRead text) :
    String.join ((linesOf text).map terminated) = String.ofList text := by
  rw [List.map_congr_left fun line member => (read.isLine line member).terminated_eq,
    List.map_id', join_linesOf]

end SourceFile

namespace Cabinet

open SourceFile (IsRead ofText linesOf terminated)

section
variable {path place : String} {cabinet : Cabinet α}

theorem act_load {text : List Char} (read : cabinet.disk.readText? path = some text) :
    cabinet.act (.load path) = (true, { cabinet with file := ofText text }) := by
  simp only [act, SourceFile.load?_eq, read, Option.map_some]

theorem act_load_unread (unread : cabinet.disk.readText? path = none) :
    cabinet.act (.load path) = (false, cabinet) := by
  simp only [act, SourceFile.load?_eq, unread, Option.map_none]

theorem act_load_eq_false : ((cabinet.act (.load path)).1 = false ↔
    ∀ text : String, cabinet.disk.read? path ≠ some text.toUTF8) ∧
      ((cabinet.act (.load path)).1 = false → (cabinet.act (.load path)).2 = cabinet) := by
  cases read : cabinet.disk.readText? path with
  | none =>
    rw [act_load_unread read]
    exact ⟨iff_of_true rfl (Disk.readText?_eq_none.1 read), fun _ => rfl⟩
  | some text =>
    have encoded : ¬ ∀ text : String, cabinet.disk.read? path ≠ some text.toUTF8 := by
      rw [← Disk.readText?_eq_none, read]
      exact Option.some_ne_none _
    rw [act_load read]
    exact ⟨iff_of_false (by simp) encoded, fun failed => by cases failed⟩

theorem act_save {texts : List String} (lines : cabinet.file.lines = texts.map .text)
    (target : cabinet.disk.target? path = some place)
    (fits : cabinet.disk.fits place (String.join (texts.map terminated)).toUTF8 = true) :
    cabinet.act (.save path) =
      (true, { cabinet with
        disk := cabinet.disk.put place (String.join (texts.map terminated)).toUTF8 }) := by
  have stored := SourceFile.save_texts cabinet.file.code texts target fits
  rw [← lines] at stored
  simp only [act, stored]

theorem act_save_eq_true : (cabinet.act (.save path)).1 = true ↔
    ∃ texts : List String, cabinet.file.lines = texts.map .text ∧
      cabinet.disk.takes path (String.join (texts.map terminated)).toUTF8 = true := by
  obtain ⟨⟨code, lines⟩, disk⟩ := cabinet
  change (SourceFile.save path ⟨code, lines⟩ disk).1 = true ↔ _
  constructor
  · intro success
    obtain ⟨texts, rfl⟩ := SourceFile.exists_texts ((SourceFile.save_fst ..).1 success).2
    exact ⟨texts, rfl, by rwa [SourceFile.save_fst_texts] at success⟩
  · rintro ⟨texts, same, taken⟩
    obtain rfl : lines = texts.map .text := same
    rwa [SourceFile.save_fst_texts]

end

def reload (path : String) (cabinet : Cabinet α) : Cabinet α :=
  ((cabinet.act (.save path)).2.act (.load path)).2

section
variable {path place : String} {text : List Char} (read : IsRead text) {cabinet : Cabinet α}
  (holds : cabinet.file = ofText text) (target : cabinet.disk.target? path = some place)
  (source : cabinet.disk.source? path = some place)
  (fits : cabinet.disk.fits place (String.ofList text).toUTF8 = true)
include read holds target source fits

/-- What was read is saved and loaded as it is. -/
theorem reload_ofText : (cabinet.act (.save path)).1 = true ∧
    ((cabinet.act (.save path)).2.act (.load path)).1 = true ∧
    cabinet.reload path = ⟨ofText text, cabinet.disk.put place (String.ofList text).toUTF8⟩ := by
  have lines : cabinet.file.lines = (linesOf text).map .text := by rw [holds, ofText]
  have back := Disk.readText?_put source (String.ofList text)
  rw [String.toList_ofList, Text.unifyNewlines_eq read.plain] at back
  rw [← read.join_terminated] at fits
  have saved := act_save lines target fits
  rw [read.join_terminated] at saved
  rw [reload, saved, act_load back]
  exact ⟨rfl, rfl, rfl⟩

theorem iterate_reload (count : Nat) : ((reload path)^[count] cabinet).file = ofText text ∧
    ∃ files, ((reload path)^[count] cabinet).disk = { cabinet.disk with files } := by
  induction count with
  | zero => exact ⟨holds, _, rfl⟩
  | succ count ih =>
    obtain ⟨file, files, disk⟩ := ih
    obtain ⟨-, -, again⟩ :=
      reload_ofText read file (by rw [disk]; exact target) (by rw [disk]; exact source)
      (by rw [disk]; exact fits)
    rw [Function.iterate_succ_apply', again, disk]
    exact ⟨rfl, _, rfl⟩

theorem reload_settles (count : Nat) : let later := (reload path)^[count] cabinet
    later.file = cabinet.file ∧ (later.act (.save path)).1 = true ∧
      ((later.act (.save path)).2.act (.load path)).1 = true := by
  intro later
  obtain ⟨kept, files, disk⟩ := iterate_reload read holds target source fits count
  obtain ⟨saves, loads, -⟩ := reload_ofText read kept (by rw [disk]; exact target)
    (by rw [disk]; exact source) (by rw [disk]; exact fits)
  exact ⟨kept.trans holds.symm, saves, loads⟩

end

/-- A save works exactly if all lines have an encoding and the path takes them. Lines that have been
saved are loaded, if the path can be read, as the lines of the text that was written, with each of
its newlines spelled in one way: each line then has one newline, at its end, and however often they
are saved and loaded again, neither the lines nor the code change. A load fails exactly if there is
no text at the path, and then nothing changes. -/
theorem saved_lines_settle (lines : List (Content α)) (code : Content α) (disk : Disk)
    (path : String) :
    let saved := Cabinet.act ⟨⟨code, lines⟩, disk⟩ (.save path)
    let loaded := saved.2.act (.load path)
    (saved.1 = true ↔ ∃ texts : List String, lines = texts.map .text ∧
        disk.takes path (String.join (texts.map terminated)).toUTF8 = true) ∧
      (∀ texts : List String, lines = texts.map .text → saved.1 = true →
        let written := String.join (texts.map terminated)
        (loaded.1 = true ↔ (disk.source? path).isSome = true) ∧
        (loaded.1 = true → saved.2.disk.read? path = some written.toUTF8 ∧
          ∃ read : List String, loaded.2.file = ⟨.text (String.join read), read.map .text⟩ ∧
            (String.join read).toList =
              Text.replace ['\r'] ['\n'] (Text.replace ['\r', '\n'] ['\n'] written.toList) ∧
            (∀ line ∈ read, ∃ front : String, line = front ++ "\n" ∧ '\n' ∉ front.toList ∧
              '\r' ∉ front.toList) ∧
            ∀ count, let later := (reload path)^[count] loaded.2
              later.file = loaded.2.file ∧ (later.act (.save path)).1 = true ∧
                ((later.act (.save path)).2.act (.load path)).1 = true)) ∧
      ∀ (other : Cabinet α) (source : String), let load := other.act (.load source)
        (load.1 = false ↔ ∀ text : String, other.disk.read? source ≠ some text.toUTF8) ∧
          (load.1 = false → load.2 = other) := by
  intro saved loaded
  refine ⟨act_save_eq_true, ?_, fun other source => act_load_eq_false⟩
  rintro texts rfl success written
  obtain ⟨place, target, fits⟩ : ∃ place, disk.target? path = some place ∧
      disk.fits place written.toUTF8 = true := by
    change (SourceFile.save path ⟨code, texts.map .text⟩ disk).1 = true at success
    rw [SourceFile.save_fst_texts] at success
    exact Disk.takes_iff.1 success
  have stored : saved = (true, ⟨⟨code, texts.map .text⟩, disk.put place written.toUTF8⟩) :=
    act_save rfl target fits
  cases readable : (disk.source? path).isSome with
  | false =>
    have closed : disk.source? path = none :=
      Option.isNone_iff_eq_none.1 (by simpa using readable)
    have unread : saved.2.disk.readText? path = none := by
      rw [stored]
      change ((disk.source? path).bind _ >>= _) = _
      rw [closed]
      rfl
    have failed : loaded = (false, saved.2) := act_load_unread unread
    rw [failed]
    exact ⟨by simp, fun loads => by cases loads⟩
  | true =>
    have source := Disk.source?_eq target readable
    have back : saved.2.disk.readText? path = some (Text.unifyNewlines written.toList) := by
      rw [stored]
      exact Disk.readText?_put source written
    have taken : loaded =
        (true, { saved.2 with file := ofText (Text.unifyNewlines written.toList) }) :=
      act_load back
    have read := SourceFile.isRead_unifyNewlines texts
    have holds : loaded.2.file = ofText (Text.unifyNewlines written.toList) := by rw [taken]
    have disks : loaded.2.disk = disk.put place written.toUTF8 := by rw [taken, stored]
    have settles := reload_settles read holds (by rw [disks]; exact target)
      (by rw [disks]; exact source) (by rw [disks]; exact Disk.fits_unifyNewlines fits)
    refine ⟨by rw [taken], fun _ => ⟨?_, linesOf (Text.unifyNewlines written.toList), holds, ?_,
      read.isLine, settles⟩⟩
    · rw [stored]
      exact Disk.read?_put source
    · rw [SourceFile.join_linesOf, String.toList_ofList, Text.unifyNewlines_eq_replace]

-- The newline that is added to a line joins a carriage return at its end.
example : (reload "a.txt" ⟨⟨.other 0, [.text "a\r\nb\rc", .text "\nd\r"]⟩, {}⟩).file =
    (⟨.text "a\nb\nc\n\nd\n",
      [.text "a\n", .text "b\n", .text "c\n", .text "\n", .text "d\n"]⟩ : SourceFile Nat) := by
  decide +kernel

end Cabinet

end Workbench
