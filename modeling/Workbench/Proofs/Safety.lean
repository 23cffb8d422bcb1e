import Workbench.Proofs.Conditionals
import Workbench.Proofs.Variables

/-! Accepted programs do not go wrong, but for their arithmetic.

Each statement keeps variables such that the next one finds what it needs: no name is unknown, and
what is put in the places of names can be read. What may still fail is a division, a number that is
too large to be held, or one too long to be written out.
-/

set_option autoImplicit false

namespace Workbench

def RunError.isNumeric : RunError → Bool
  | .evaluation _ fault => Arithmetic.runFaults.contains fault
  | .tooLong => true
  | .missing _ | .undefinedVariable _ => false

namespace Program

open Arithmetic

def Simple.fits (simple : Simple) : Bool := simple.value?.all fun value => value.fits .standard

theorem Simple.isShallow_of_fits {simple : Simple} (fits : simple.fits = true) :
    simple.isShallow = true := by
  unfold Simple.isShallow
  unfold Simple.fits at fits
  cases valued : simple.value? with
  | none => rfl
  | some value =>
    rw [valued] at fits
    have fits : value.fits .standard = true := fits
    simp only [Expression.fits, Bool.and_eq_true] at fits
    exact fits.1.1

section
variable {names : List Name} {declared : List String} {store : Store}

theorem Steady.exec_faults (steady : Steady names declared store) (apart : Apart names)
    (letter : Unlettered names)
    {simple : Simple} (inside : ∀ name ∈ simple.names, name ∈ names)
    (known : ∀ name ∈ simple.uses, name.string ∈ declared)
    (scope : ∀ name ∈ simple.operands, name.string ∈ simple.scope declared)
    (fits : simple.fits = true) {records : List Record} {error : RunError}
    (failed : simple.exec records store = .error error) : error.isNumeric = true := by
  cases valued : simple.value? with
  | some value =>
    have sees := steady.sees apart letter valued inside scope
    have fits : value.fits .standard = true := by simpa [Simple.fits, valued] using fits
    rw [Simple.exec_value valued, Store.set] at failed
    cases evaluated :
      (simple.ready store).evaluate .standard records (String.ofList (value.text id)) with
    | ok found =>
      rw [evaluated] at failed
      cases failed
    | error fault =>
      rw [evaluated] at failed
      obtain rfl := Except.error.inj failed
      -- Either a variable could not be written out, or the arithmetic itself failed.
      rcases Store.evaluate_faults sees fits evaluated with rfl | ⟨text, fault, rfl, listed⟩
      · rfl
      · exact List.contains_iff_mem.2 listed
  | none =>
    cases simple with
    | initialized | assigned => cases valued
    | declared type space name => cases failed
    | printed name =>
      -- The variable is there, so that only its text may be missing.
      obtain ⟨number, found, -⟩ := steady.get? (known name (List.mem_singleton_self name))
      change store.report name.chars = _ at failed
      rw [Store.report, ← Name.string, found] at failed
      cases shown : number.text? with
      | none =>
        simp only [Store.textOf, shown] at failed
        obtain rfl := Except.error.inj failed
        rfl
      | some text =>
        simp only [Store.textOf, shown] at failed
        cases failed

end

theorem run_faults {names : List Name} (apart : Apart names) (letter : Unlettered names)
    (records : List Record)
    (simples : List Simple) (inside : ∀ simple ∈ simples, ∀ name ∈ simple.names, name ∈ names)
    (fits : ∀ simple ∈ simples, simple.fits = true) :
    ∀ (declared : List String) (store : Store) (error : RunError), inScope declared simples = true →
      Steady names declared store → simples.foldlM (Simple.exec records) store = .error error →
        error.isNumeric = true := by
  induction simples with
  | nil =>
    intro declared store error _ _ failed
    cases failed
  | cons simple rest ih =>
    intro declared store error scope steady failed
    obtain ⟨inside_first, inside⟩ := List.forall_mem_cons.1 inside
    obtain ⟨fits_first, fits⟩ := List.forall_mem_cons.1 fits
    obtain ⟨operands, -⟩ := settled_cons.1 (settled_of_inScope scope)
    obtain ⟨known, scope⟩ := inScope_cons.1 scope
    rw [List.foldlM_cons] at failed
    -- Either this step faults, or the store is steady again for the rest.
    cases stepped : simple.exec records store with
    | error fault =>
      rw [stepped] at failed
      obtain rfl := Except.error.inj failed
      exact steady.exec_faults apart letter inside_first known operands fits_first stepped
    | ok next =>
      rw [stepped] at failed
      have steady :=
        steady.exec apart letter inside_first operands (Simple.isShallow_of_fits fits_first) stepped
      exact ih inside fits _ next error scope steady failed

/-- An accepted program that is laid out runs through, unless its arithmetic fails: a division by
zero, a number beyond all doubles, or one that is too long to be written out. -/
theorem accepted_program_runs (source : String) (program : Block) (laid : Laid source program.lines)
    (accepted : Accepted source) (apart : Apart program.names) (letter : Unlettered program.names)
    (fits : ∀ simple ∈ program.simples, simple.fits = true) :
    (∃ store, interpret source = .ok store) ∨ ∃ error, interpret source = .error error ∧
      error.isNumeric = true := by
  have nothing : Steady program.names [] {} :=
    ⟨⟨List.forall_mem_nil _, List.forall_mem_nil _⟩, List.forall_mem_nil _⟩
  cases outcome : interpret source with
  | ok store => exact Or.inl ⟨store, rfl⟩
  | error error =>
    rw [interpret_laid laid] at outcome
    exact Or.inr ⟨error, rfl,
      run_faults apart letter _ program.simples program.names_of_simples fits [] {} error
      (inScope_of_accepted laid accepted) nothing outcome⟩

theorem accepted_program_runs_division :
    let name (chars : List Char) (well : isName chars = true) : Name := ⟨chars, well⟩
    let rate : Expression := ⟨.number (.real ['7'] ['5'] rfl) .empty, .done⟩
    let quotient : Expression := ⟨.name (name ['b'] rfl) .space, .more .divide .space
      (.group .empty ⟨.name (name ['c'] rfl) .space,
        .more .minus .space (.number (.integer ['2'] rfl) .empty) .done⟩ .empty)
      .done⟩
    let test : Test :=
      ⟨⟨.name (name ['b'] rfl) .space, .done⟩, .greater, ⟨.name (name ['c'] rfl) .empty, .done⟩,
      .space, .empty, .space, .space⟩
    let program : Block :=
      .more (.simple (.initialized .float ⟨.space, by decide⟩ (name ['b'] rfl) .space .space rate))
        (.more (.simple (.declared .float ⟨.space, by decide⟩ (name ['c'] rfl)))
          (.more
            (.whenever test
              (.more (.simple (.assigned (name ['b'] rfl) .space .space quotient)) .done))
            (.more (.simple (.printed (name ['b'] rfl))) .done)))
    let source := "float b = 7.5;\nfloat c;\nif (b > c) \x7b\n  b = b / (c - 2);\n\x7d\nprint(b);"
    Laid source program.lines ∧ Accepted source ∧
      ((∃ store, interpret source = .ok store) ∨ ∃ error, interpret source = .error error ∧
        error.isNumeric = true) := by
  intro name rate quotient test program source
  have laid : Laid source program.lines := by decide +kernel
  have accepted : Accepted source := by decide +kernel
  exact ⟨laid, accepted,
    accepted_program_runs source program laid accepted (by decide +kernel) (by decide +kernel)
    (by decide +kernel)⟩

/-- A declaration may lack its value when it is checked, but not when it is run. -/
theorem accepted_program_lacks_value :
    Accepted "int a = ;" ∧
      (interpret "int a = ;").map Store.result = .error (.evaluation " " .malformed) := by
  decide +kernel

end Program

end Workbench
