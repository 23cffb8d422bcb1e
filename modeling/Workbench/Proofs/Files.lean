import Workbench.Proofs.Saving

/-! Source files and the disk, along any sequence of what can be done with them.

A save that fails changes neither the code nor its lines, and no file but the one it was to write.
If that one could be opened, what it held is lost: it is emptied before the lines are looked at, and
then takes those before the first that has no encoding, as far as there is room.
-/

set_option autoImplicit false

namespace Workbench

variable {α : Type}

/-! ## What a save does -/

theorem Disk.get?_put_of_ne {place other : String} (unlike : other ≠ place) (disk : Disk)
    (bytes : ByteArray) :
    (disk.put place bytes).files.get? other = disk.files.get? other := by
  rw [put, Table.get?_put, if_neg unlike]

namespace SourceFile

theorem save_fst (path : String) (file : SourceFile α) (disk : Disk) :
    (file.save path disk).1 = true ↔
    disk.takes path file.output.toUTF8 = true ∧ ∀ line ∈ file.lines, line.text? ≠ none := by
  have all : (file.lines.all fun line => line.text?.isSome) = true ↔
      ∀ line ∈ file.lines, line.text? ≠ none := by
    simp only [List.all_eq_true, Option.isSome_iff_ne_none]
  rw [← all, ← Disk.write_fst, ← Bool.and_eq_true]
  rfl

/-- The two ways a save can go: the path cannot be opened, or the file takes what there is room
for. -/
theorem save_cases (path : String) (file : SourceFile α) (disk : Disk) :
    (disk.target? path = none ∧ (file.save path disk).2 = disk) ∨
      ∃ place, disk.target? path = some place ∧
        (file.save path disk).2 = disk.put place (disk.kept place file.output.toUTF8) := by
  have told : (file.save path disk).2 = (disk.write path file.output.toUTF8).2 := rfl
  rw [told, Disk.write]
  cases disk.target? path with
  | none => exact Or.inl ⟨rfl, rfl⟩
  | some place => exact Or.inr ⟨place, rfl, rfl⟩

end SourceFile

/-! ## Sequences of actions -/

/-- A source file that is worked on, and the disk it is kept on. -/
structure Cabinet (α : Type) where
  file : SourceFile α := {}
  disk : Disk := {}

inductive FileAction (α : Type) where
  | setCode (code : Content α)
  | setLines (lines : Option (List (Content α)))
  | load (path : String)
  | save (path : String)

namespace Cabinet

def act (cabinet : Cabinet α) : FileAction α → Bool × Cabinet α
  | .setCode code => (true, { cabinet with file := cabinet.file.setCode code })
  | .setLines lines => (true, { cabinet with file := cabinet.file.setLines lines })
  | .load path =>
    match SourceFile.load? path cabinet.disk with
    | some file => (true, { cabinet with file := file })
    | none => (false, cabinet)
  | .save path =>
    let saved := cabinet.file.save path cabinet.disk
    (saved.1, { cabinet with disk := saved.2 })

def run (actions : List (FileAction α)) (cabinet : Cabinet α) : Cabinet α :=
  actions.foldl (fun cabinet action => (cabinet.act action).2) cabinet

def IsTextual (cabinet : Cabinet α) : Prop := ∀ line ∈ cabinet.file.lines, line.text? ≠ none

end Cabinet

def FileAction.IsTextual (action : FileAction α) : Prop :=
  ∀ lines, action = .setLines (some lines) → ∀ line ∈ lines, line.text? ≠ none

namespace Cabinet

theorem isTextual_act {cabinet : Cabinet α} (textual : cabinet.IsTextual) {action : FileAction α}
    (given : action.IsTextual) : (cabinet.act action).2.IsTextual := by
  cases action with
  | setCode code => exact textual
  | setLines lines =>
    cases lines with
    | none => exact textual
    | some lines => exact given lines rfl
  | load path =>
    rw [act]
    cases read : cabinet.disk.readText? path with
    | none =>
      simp only [SourceFile.load?, read]
      exact textual
    | some text =>
      simp only [SourceFile.load?, read]
      intro line member
      obtain ⟨chars, -, rfl⟩ := List.mem_map.1 member
      exact Option.some_ne_none _
  | save path => exact textual

theorem isTextual_run {actions : List (FileAction α)} (given : ∀ action ∈ actions, action.IsTextual)
    {cabinet : Cabinet α} (textual : cabinet.IsTextual) : (cabinet.run actions).IsTextual := by
  induction actions generalizing cabinet with
  | nil => exact textual
  | cons action actions ih =>
    obtain ⟨first, given⟩ := List.forall_mem_cons.1 given
    exact ih given (isTextual_act textual first)

/-- A save fails if its path does not take what is written, or if some line has no encoding. Neither
the code, its lines nor any file in another place change, and nothing does if the path cannot be
opened; but otherwise the file holds what was written of the lines, instead of what it held. That is
nothing if one of them is no text. Where only texts that have an encoding were given as lines, a
save fails only if its path cannot be opened, and then changes nothing, or for want of room. -/
theorem failed_save (actions : List (FileAction α)) (start disk : Disk) (path : String) :
    let cabinet : Cabinet α := { file := (run actions { disk := start }).file, disk }
    let saved := cabinet.act (.save path)
    let bytes := cabinet.file.output.toUTF8
    (saved.1 = false ↔
      disk.takes path bytes = false ∨ ∃ line ∈ cabinet.file.lines, line.text? = none) ∧
      saved.2.file = cabinet.file ∧
      (∀ place, disk.target? path ≠ some place → saved.2.disk.files.get? place =
        disk.files.get? place) ∧
      (disk.target? path = none → saved.2.disk = disk) ∧
      (∀ place, disk.target? path = some place → saved.2.disk.files.get? place =
        some (disk.kept place bytes)) ∧
      ((∃ line ∈ cabinet.file.lines, line.isText = false) → cabinet.file.output = "") ∧
      ((∀ action ∈ actions, action.IsTextual) → saved.1 = false →
        saved.2.disk = disk ∨ ∃ place, disk.target? path = some place ∧
          disk.fits place bytes = false) := by
  intro cabinet saved bytes
  have failed : saved.1 = false ↔
      disk.takes path bytes = false ∨ ∃ line ∈ cabinet.file.lines, line.text? = none := by
    have kept := (SourceFile.save_fst path cabinet.file disk).not
    simp only [Bool.not_eq_true, not_and_or, not_forall, exists_prop, not_not] at kept
    exact kept
  have empty : (∃ line ∈ cabinet.file.lines, line.isText = false) → cabinet.file.output = "" := by
    rintro ⟨line, member, other⟩
    have some_other : ¬ cabinet.file.lines.all Content.isText = true := by
      rw [List.all_eq_true]
      exact fun all => by simp [all line member] at other
    rw [SourceFile.output, if_neg some_other]
  have textual : (∀ action ∈ actions, action.IsTextual) →
      ¬ ∃ line ∈ cabinet.file.lines, line.text? = none := by
    rintro given ⟨line, member, missing⟩
    have nothing : ({ disk := start } : Cabinet α).IsTextual := List.forall_mem_nil _
    exact isTextual_run given nothing line member missing
  refine ⟨failed, rfl, ?_⟩
  have told : saved.2.disk = (cabinet.file.save path disk).2 := rfl
  rcases cabinet.file.save_cases path disk with ⟨closed, same⟩ | ⟨place, target, same⟩
  · rw [told, same, closed]
    refine ⟨fun _ _ => rfl, fun _ => rfl, ?_, empty, fun _ _ => Or.inl rfl⟩
    rintro _ ⟨⟩
  · rw [told, same, target]
    refine ⟨fun other unlike => ?_, (absurd · (Option.some_ne_none place)), ?_, empty,
      fun given unsaved => Or.inr ⟨place, rfl, ?_⟩⟩
    · exact Disk.get?_put_of_ne (fun same => unlike (congrArg some same.symm)) disk _
    · rintro _ ⟨⟩
      exact (Table.get?_put ..).trans (if_pos rfl)
    · -- All lines have an encoding, so that only the room is left to blame.
      have full := (failed.1 unsaved).resolve_right (textual given)
      rwa [Disk.takes, target] at full

theorem failed_save_empties :
    let cabinet : Cabinet Nat :=
      run [.setLines (some [.text "a", .other 1])] { disk := Disk.put {} "a.txt" "x".toUTF8 }
    (cabinet.act (.save "a.txt")).1 = false ∧ cabinet.disk.read? "a.txt" = some "x".toUTF8 ∧
      (cabinet.act (.save "a.txt")).2.disk.read? "a.txt" = some .empty ∧
      (cabinet.act (.save "a.txt")).2.disk.read? "a.txt" ≠ cabinet.disk.read? "a.txt" := by
  decide +kernel

-- The lines before one that has no encoding reach the file.
example :
    let cabinet : Cabinet Nat :=
      run [.setLines (some [.text "a", .unencodable [0xD800] rfl, .text "b"])] {}
    (cabinet.act (.save "a.txt")).1 = false ∧
      (cabinet.act (.save "a.txt")).2.disk.read? "a.txt" = some "a\n".toUTF8 := by
  decide +kernel

end Cabinet

end Workbench
