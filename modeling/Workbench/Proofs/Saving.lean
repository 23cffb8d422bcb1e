import Workbench.Editor
import Workbench.Proofs.Lines
import Workbench.Proofs.Tables

/-! What becomes of a text that is saved and opened again.

Three ways to see lines meet: the editor cuts its text at every boundary, what is saved has a
newline after each line, and what is read has newlines only. A text loses its other boundaries when
it is saved for the first time, and nothing after that.
-/

set_option autoImplicit false

namespace Workbench

/-! ## Lines with a newline after each -/

namespace Text

def joinLines (lines : List (List Char)) : List Char := lines.flatMap (· ++ ['\n'])

/-- A text with a newline in place of whatever ends its lines. -/
def normalize (text : List Char) : List Char := joinLines (splitLines text)

theorem joinLines_cons (line : List Char) (lines : List (List Char)) :
    joinLines (line :: lines) = line ++ '\n' :: joinLines lines := by
  rw [joinLines, List.flatMap_cons, List.append_assoc]
  rfl

theorem plain_of_mem_splitLines {text line : List Char} (member : line ∈ splitLines text) :
    ∀ c ∈ line, isBoundary c = false := by
  fun_induction splitLines text generalizing line with
  | case1 => cases member
  | case2 rest ih =>
    rcases List.mem_cons.1 member with rfl | later
    · simp
    · exact ih later
  | case3 c rest other boundary ih =>
    rcases List.mem_cons.1 member with rfl | later
    · simp
    · exact ih later
  | case4 c rest other plain nothing ih =>
    obtain rfl := List.mem_singleton.1 member
    simpa using plain
  | case5 c rest other plain first more split ih =>
    rcases List.mem_cons.1 member with rfl | later
    · exact List.forall_mem_cons.2 ⟨by simpa using plain, ih (split ▸ List.mem_cons_self ..)⟩
    · exact ih (split ▸ List.mem_cons_of_mem _ later)

theorem splitLines_joinLines {lines : List (List Char)}
    (plain : ∀ line ∈ lines, ∀ c ∈ line, isBoundary c = false) :
    splitLines (joinLines lines) = lines := by
  induction lines with
  | nil => rfl
  | cons line lines ih =>
    obtain ⟨first, others⟩ := List.forall_mem_cons.1 plain
    have ended : splitLines ('\n' :: joinLines lines) = [] :: splitLines (joinLines lines) :=
      splitLines_boundary (by decide) (by simp)
    rw [joinLines_cons, splitLines_append first ended, ih others]

theorem splitLines_normalize (text : List Char) : splitLines (normalize text) = splitLines text :=
  splitLines_joinLines fun _ => plain_of_mem_splitLines

theorem normalize_normalize (text : List Char) : normalize (normalize text) = normalize text := by
  rw [normalize, splitLines_normalize, normalize]

theorem eq_newline_of_mem_normalize {text : List Char} {c : Char} (member : c ∈ normalize text)
    (boundary : isBoundary c = true) : c = '\n' := by
  obtain ⟨line, listed, inside⟩ := List.mem_flatMap.1 member
  rcases List.mem_append.1 inside with inside | last
  · rw [plain_of_mem_splitLines listed c inside] at boundary
    cases boundary
  · exact List.mem_singleton.1 last

theorem unifyNewlines_eq {text : List Char} (none : '\r' ∉ text) : unifyNewlines text = text := by
  fun_induction unifyNewlines text with
  | case1 => rfl
  | case2 rest ih => exact absurd (List.mem_cons_self ..) none
  | case3 c rest other ih =>
    have plain : ¬ (c == '\r') = true := by simpa using (List.ne_of_not_mem_cons none).symm
    rw [ih (List.not_mem_of_not_mem_cons none), if_neg plain]

theorem unifyNewlines_normalize (text : List Char) :
    unifyNewlines (normalize text) = normalize text := by
  refine unifyNewlines_eq fun member => ?_
  have same := eq_newline_of_mem_normalize member (by decide)
  exact absurd same (by decide)

theorem getLast?_joinLines {lines : List (List Char)} (some_line : lines ≠ []) :
    (joinLines lines).getLast? = some '\n' := by
  obtain ⟨front, last, rfl⟩ := List.eq_nil_or_concat lines |>.resolve_left some_line
  rw [List.concat_eq_append, joinLines, List.flatMap_append, List.flatMap_singleton,
    ← List.append_assoc, List.getLast?_concat]

theorem normalize_newline (rest : List Char) :
    normalize ('\n' :: rest) = '\n' :: normalize rest := by
  rw [normalize, splitLines_boundary (by decide) (by simp), joinLines_cons]
  rfl

theorem normalize_plain {c : Char} (plain : isBoundary c = false) {rest : List Char}
    (more : rest ≠ []) :
    normalize (c :: rest) = c :: normalize rest := by
  rw [normalize, splitLines_plain plain, normalize]
  cases lines : splitLines rest with
  | nil => exact absurd lines (splitLines_ne_nil more)
  | cons line others => rw [extendFirst, joinLines_cons, joinLines_cons, List.cons_append]

theorem normalize_eq_self {text : List Char} (last : text.getLast? = some '\n')
    (only : ∀ c ∈ text, isBoundary c = true → c = '\n') : normalize text = text := by
  induction text with
  | nil => cases last
  | cons c rest ih =>
    obtain ⟨first, others⟩ := List.forall_mem_cons.1 only
    -- Only at the end of the text does it count that its last line is ended.
    cases rest with
    | nil =>
      obtain rfl : c = '\n' := by simpa using last
      rfl
    | cons d rest =>
      have later := ih (by rwa [List.getLast?_cons_cons] at last) others
      by_cases boundary : isBoundary c = true
      · obtain rfl := first boundary
        rw [normalize_newline, later]
      · rw [normalize_plain (by simpa using boundary) (List.cons_ne_nil d rest), later]

theorem normalize_eq_self_iff {text : List Char} : normalize text = text ↔
    text = [] ∨ text.getLast? = some '\n' ∧ ∀ c ∈ text, isBoundary c = true → c = '\n' := by
  constructor
  · intro normal
    cases lines : splitLines text with
    | nil =>
      rw [normalize, lines] at normal
      exact .inl normal.symm
    | cons line more =>
      refine .inr ⟨?_, fun c member => ?_⟩
      · rw [← normal, normalize, lines]
        exact getLast?_joinLines (List.cons_ne_nil line more)
      · rw [← normal] at member
        exact eq_newline_of_mem_normalize member
  · rintro (rfl | ⟨last, only⟩)
    · rfl
    · exact normalize_eq_self last only

end Text

/-! ## Files -/

theorem Table.put_put {α : Type} (table : Table α) (name : String) (value : α) :
    (table.put name value).put name value = table.put name value := by
  have present : (table.put name value).contains name = true := by
    rw [Table.contains_iff, Table.mem_names_put]
    exact .inl rfl
  have unchanged : ∀ entry ∈ (table.put name value).entries,
      (if entry.1 == name then (name, value) else entry) = entry := by
    intro entry member
    rcases (Table.mem_put table name value).1 member with rfl | ⟨-, other⟩
    · simp
    · simp [other]
  rw [put, if_pos present, List.map_congr_left unchanged, List.map_id']

namespace Disk

section
variable {disk : Disk} {path place : String} {bytes : ByteArray}

/-- Whether some bytes can be kept where a path leads. -/
def takes (disk : Disk) (path : String) (bytes : ByteArray) : Bool :=
  (disk.target? path).any fun place => disk.fits place bytes

theorem takes_iff : disk.takes path bytes = true ↔ ∃ place, disk.target? path = some place ∧
    disk.fits place bytes = true :=
  Option.any_eq_true ..

/-- A path leads to one place, whether it is read or written. -/
theorem source?_eq (target : disk.target? path = some place)
    (readable : (disk.source? path).isSome = true) :
    disk.source? path = some place := by
  obtain ⟨other, source⟩ := Option.isSome_iff_exists.1 readable
  have leads := (Option.filter_eq_some_iff.1 target).1
  have same := (Option.filter_eq_some_iff.1 source).1
  rw [leads] at same
  rw [source, same]

theorem kept_eq_self (fits : disk.fits place bytes = true) : disk.kept place bytes = bytes := by
  have whole : bytes.size ≤ (disk.room? place).getD bytes.size := by
    rw [Disk.fits] at fits
    cases bound : disk.room? place with
    | none => exact le_rfl
    | some room => simpa [bound] using fits
  rw [kept]
  apply ByteArray.ext
  rw [ByteArray.data_extract, Array.extract_eq_self_iff]
  exact Or.inr ⟨rfl, whole⟩

theorem write_eq (target : disk.target? path = some place) (fits : disk.fits place bytes = true) :
    disk.write path bytes = (true, disk.put place bytes) := by
  simp only [write, target, fits, kept_eq_self fits]

theorem write_fst (disk : Disk) (path : String) (bytes : ByteArray) :
    (disk.write path bytes).1 = disk.takes path bytes := by
  unfold write takes
  cases disk.target? path <;> rfl

theorem read?_put (source : disk.source? path = some place) :
    (disk.put place bytes).read? path = some bytes := by
  change (disk.source? path).bind (disk.files.put place bytes).get? = _
  rw [source, Option.bind_some, Table.get?_put, if_pos rfl]

theorem put_put (disk : Disk) (place : String) (bytes : ByteArray) :
    (disk.put place bytes).put place bytes = disk.put place bytes := by
  simp only [put, Table.put_put]

end

theorem fromUTF8?_toUTF8 (text : String) : String.fromUTF8? text.toUTF8 = some text := by
  rw [String.fromUTF8?, String.toUTF8_eq_toByteArray, dif_pos text.isValidUTF8]
  rfl

theorem readText?_of_read? {disk : Disk} {path text : String}
    (held : disk.read? path = some text.toUTF8) :
    disk.readText? path = some (Text.unifyNewlines text.toList) := by
  rw [readText?, held]
  change (do return Text.unifyNewlines (← String.fromUTF8? text.toUTF8).toList) = _
  rw [fromUTF8?_toUTF8]
  rfl

theorem readText?_put {disk : Disk} {path place : String} (source : disk.source? path = some place)
    (text : String) :
    (disk.put place text.toUTF8).readText? path = some (Text.unifyNewlines text.toList) :=
  readText?_of_read? (read?_put source)

end Disk

namespace SourceFile

theorem terminated_plain {line : List Char} (plain : ∀ c ∈ line, Text.isBoundary c = false) :
    terminated (String.ofList line) = String.ofList line ++ "\n" := by
  have open_end : ¬ ((String.ofList line).toList.getLast? == some '\n') = true := by
    rw [String.toList_ofList, beq_iff_eq]
    intro last
    have boundary := plain '\n' (List.mem_of_getLast? last)
    exact absurd boundary (by decide)
  rw [terminated, if_neg open_end]

theorem join_ofList (lines : List (List Char)) :
    String.join (lines.map String.ofList) = String.ofList lines.flatten := by
  apply String.toList_injective
  rw [String.toList_join, String.toList_ofList, List.flatMap_map]
  rw [List.flatMap_def, List.map_congr_left fun line _ => String.toList_ofList, List.map_id']

theorem join_normalize (text : List Char) :
    String.join ((Text.splitLines text).map fun line => String.ofList line ++ "\n") =
      String.ofList (Text.normalize text) := by
  have ended : ((Text.splitLines text).map fun line => String.ofList line ++ "\n") =
      ((Text.splitLines text).map (· ++ ['\n'])).map String.ofList := by
    rw [List.map_map]
    exact List.map_congr_left fun line _ => String.ofList_append.symm
  rw [ended, join_ofList]
  rfl

section
variable {α : Type} (code : Content α) (texts : List String)

theorem output_texts : output ⟨code, texts.map .text⟩ = String.join (texts.map terminated) := by
  have all : (texts.map fun text => (.text text : Content α)).all Content.isText = true := by
    simp [List.all_map, Function.comp_def, Content.isText]
  have taken : ((texts.map fun text => (.text text : Content α)).takeWhile fun line =>
    line.text?.isSome) =
      texts.map .text := List.takeWhile_eq_self_iff.2 (by simp [Content.text?])
  rw [output, if_pos all, taken, List.filterMap_map]
  exact congrArg (fun lines => String.join (lines.map terminated)) List.filterMap_some

theorem save_texts {disk : Disk} {path place : String} (target : disk.target? path = some place)
    (fits : disk.fits place (String.join (texts.map terminated)).toUTF8 = true) :
    save path ⟨code, texts.map .text⟩ disk =
      (true, disk.put place (String.join (texts.map terminated)).toUTF8) := by
  have all : ((texts.map fun text => (.text text : Content α)).all fun line => line.text?.isSome) =
      true := by
    simp [List.all_map, Function.comp_def, Content.text?]
  rw [← output_texts code] at fits ⊢
  simp only [save, Disk.write_eq target fits, all, Bool.and_self]

end

/-- The lines of a text are written as the normal text. -/
theorem join_terminated (text : List Char) :
    String.join (((Text.splitLines text).map String.ofList).map terminated) =
      String.ofList (Text.normalize text) := by
  rw [← join_normalize, List.map_map]
  exact congrArg _ (List.map_congr_left fun line member =>
    terminated_plain (Text.plain_of_mem_splitLines member))

end SourceFile

/-! ## The editor -/

namespace Editor

theorem openFile_text {path : String} {disk : Disk} {text : List Char}
    (read : disk.readText? path = some text)
    (editor : Editor) : (editor.openFile path disk).text = String.ofList text := by
  have loaded : (SourceFile.load? path disk : Option (SourceFile Empty)) =
    some ⟨.text (String.ofList text),
      (Text.newlineLines text).map fun line => .text (String.ofList line)⟩ := by
    rw [SourceFile.load?, read]
    rfl
  have lines : ((Text.newlineLines text).map fun line =>
    (Content.text (String.ofList line) : Content Empty)).filterMap
      Content.text? = (Text.newlineLines text).map String.ofList := by
    rw [List.filterMap_map, ← List.filterMap_eq_map]
    rfl
  rw [openFile, loaded]
  simp only [lines, SourceFile.join_ofList, Text.flatten_newlineLines]

def saved (text : String) : ByteArray := (String.ofList (Text.normalize text.toList)).toUTF8

def saveAndOpen (path : String) (state : Editor × Disk) : Editor × Disk :=
  let saved := state.1.saveFile path state.2
  (saved.1.openFile path saved.2, saved.2)

section
variable {path place : String}

theorem saveFile_eq (editor : Editor) {disk : Disk} (target : disk.target? path = some place)
    (fits : disk.fits place (saved editor.text) = true) :
    (editor.saveFile path disk).1.text = editor.text ∧
      (editor.saveFile path disk).2 = disk.put place (saved editor.text) := by
  have written := SourceFile.join_terminated editor.text.toList
  rw [saved, ← written] at fits ⊢
  have stored :=
    SourceFile.save_texts editor.file.code
      ((Text.splitLines editor.text.toList).map String.ofList) target fits
  rw [List.map_map] at stored
  exact ⟨rfl, congrArg Prod.snd stored⟩

variable {state : Editor × Disk} (target : state.2.target? path = some place)
    (source : state.2.source? path = some place)
  (fits : state.2.fits place (saved state.1.text) = true)
include target source fits

theorem saveAndOpen_eq :
    (saveAndOpen path state).1.text = String.ofList (Text.normalize state.1.text.toList) ∧
      (saveAndOpen path state).2 = state.2.put place (saved state.1.text) := by
  obtain ⟨-, written⟩ := saveFile_eq state.1 target fits
  refine ⟨openFile_text ?_ _, written⟩
  have read := Disk.readText?_put source (String.ofList (Text.normalize state.1.text.toList))
  rw [String.toList_ofList, Text.unifyNewlines_normalize] at read
  rw [written]
  exact read

/-- A second time changes neither the text nor the disk. -/
theorem saveAndOpen_again (count : Nat) :
    ((saveAndOpen path)^[count] (saveAndOpen path state)).1.text = (saveAndOpen path state).1.text ∧
      ((saveAndOpen path)^[count] (saveAndOpen path state)).2 = (saveAndOpen path state).2 := by
  obtain ⟨text, disk⟩ := saveAndOpen_eq target source fits
  induction count with
  | zero => exact ⟨rfl, rfl⟩
  | succ count ih =>
    obtain ⟨same_text, same_disk⟩ := ih
    -- What is saved once more is normal already, so the same bytes go to the same place.
    have same : saved ((saveAndOpen path)^[count] (saveAndOpen path state)).1.text =
        saved state.1.text := by
      rw [same_text, text, saved, String.toList_ofList, Text.normalize_normalize]
      rfl
    have again := @saveAndOpen_eq path place ((saveAndOpen path)^[count] (saveAndOpen path state))
    rw [same_disk, disk, same, same_text, text, String.toList_ofList, Text.normalize_normalize,
      Disk.put_put] at again
    rw [Function.iterate_succ_apply', text, disk]
    exact again target source fits

end

/-- Saving to a path that takes the text, and opening it again, brings the text to its normal form
and writes it as it then is, and more of it changes nothing. The text stays as it was exactly if it
is empty, or ends in a newline and has no other boundary than newlines. -/
theorem save_then_open (path : String) (editor : Editor) (disk : Disk)
    (writable : disk.takes path (String.ofList (Text.normalize editor.text.toList)).toUTF8 = true)
    (readable : (disk.source? path).isSome = true) :
    (saveAndOpen path (editor, disk)).1.text =
        String.join ((Text.splitLines editor.text.toList).map fun line =>
          String.ofList line ++ "\n") ∧
      (saveAndOpen path (editor, disk)).2.read? path =
        some (saveAndOpen path (editor, disk)).1.text.toUTF8 ∧
      (∀ count, ((saveAndOpen path)^[count] (saveAndOpen path (editor, disk))).1.text =
          (saveAndOpen path (editor, disk)).1.text ∧
        ((saveAndOpen path)^[count] (saveAndOpen path (editor, disk))).2 =
          (saveAndOpen path (editor, disk)).2) ∧
      ((saveAndOpen path (editor, disk)).1.text = editor.text ↔
        editor.text = "" ∨ editor.text.toList.getLast? = some '\n' ∧
          ∀ c ∈ editor.text.toList, Text.isBoundary c = true → c = '\n') := by
  obtain ⟨place, target, fits⟩ := Disk.takes_iff.1 writable
  have source := Disk.source?_eq target readable
  obtain ⟨text, stored⟩ := @saveAndOpen_eq path place (editor, disk) target source fits
  refine ⟨?_, ?_, @saveAndOpen_again path place (editor, disk) target source fits, ?_⟩
  · rw [text, SourceFile.join_normalize]
  · rw [text, stored]
    exact Disk.read?_put source
  · have empty : editor.text = "" ↔ editor.text.toList = [] := by
      rw [← String.toList_inj]
      rfl
    rw [text, ← String.toList_inj, String.toList_ofList, Text.normalize_eq_self_iff, empty]

theorem save_then_open_mixed :
    let disk : Disk :=
      { place? := fun path => if path = "/home/user/prog.txt" then some path else none, room? :=
        fun _ => some 6 }
    disk.takes "/home/user/prog.txt" "x\ny\nz\n".toUTF8 = true ∧
      (saveAndOpen "/home/user/prog.txt" ({ text := "x\r\ny\x0bz" }, disk)).1.text =
        "x\ny\nz\n" := by
  intro disk
  have writable : disk.takes "/home/user/prog.txt" "x\ny\nz\n".toUTF8 = true := by decide
  obtain ⟨text, -⟩ :=
    save_then_open "/home/user/prog.txt" { text := "x\r\ny\x0bz" } disk (by decide) (by decide)
  exact ⟨writable, text.trans (by decide)⟩

end Editor

end Workbench
