import Workbench.Proofs.Listing

/-! Every text is generated, and no part of an expression is lost on the way.

The signs of an expression and what stands between them are found apart from each other. They belong
together all the same: with each sign put back behind its piece they give the expression, and no
other pieces and signs do. So there is an operand for every operator, whatever the expression is.
-/

set_option autoImplicit false

namespace Workbench.Mips

/-! ## Cuts -/

def interleave (pieces signs : List String) : String :=
  String.join (List.zipWith (· ++ ·) pieces (signs ++ [""]))

/-- Pieces without signs that give an expression with the signs between them. -/
structure Cut (expression : String) (pieces signs : List String) : Prop where
  paired : pieces.length = signs.length + 1
  plain : ∀ piece ∈ pieces, ∀ c ∈ piece.toList, c ∉ ['+', '-', '*', '/']
  known : ∀ sign ∈ signs, sign ∈ ["+", "-", "*", "/"]
  whole : interleave pieces signs = expression

theorem isOperatorSign_iff {c : Char} : isOperatorSign c = true ↔ c ∈ ['+', '-', '*', '/'] := by
  simp [isOperatorSign, or_assoc]

theorem isOperatorSign_eq_false_iff {c : Char} :
    isOperatorSign c = false ↔ c ∉ ['+', '-', '*', '/'] := by
  rw [← isOperatorSign_iff, Bool.not_eq_true]

theorem toList_interleave (pieces signs : List String) : (interleave pieces signs).toList =
    (List.zipWith (· ++ ·) (pieces.map String.toList) (signs.map String.toList ++
      [[]])).flatten := by
  have ends : signs.map String.toList ++ [[]] = (signs ++ [""]).map String.toList := by
    rw [List.map_append]; rfl
  rw [interleave, String.toList_join, List.flatMap_def, List.map_zipWith, ends, List.zipWith_map]
  simp only [String.toList_append]

/-! ## Cutting at the signs -/

theorem operands_eq_splitOnP (expression : List Char) :
    operands expression = expression.splitOnP isOperatorSign := by
  induction expression with
  | nil => rfl
  | cons c rest ih =>
    rw [operands, List.splitOnP_cons_eq_if_modifyHead, ← ih]
    obtain ⟨first, others, split, -⟩ := operands_eq rest
    rw [split]
    rfl

theorem cut_operands (expression : String) : Cut expression
    ((operands expression.toList).map String.ofList)
    ((operators expression.toList).map Char.toString) where
  paired := by
    obtain ⟨first, others, split, paired⟩ := operands_eq expression.toList
    rw [split, List.length_map, List.length_map, List.length_cons, paired]
  plain := by
    refine List.forall_mem_map.2 fun piece listed c member => isOperatorSign_eq_false_iff.1 ?_
    rw [String.toList_ofList] at member
    exact (of_mem_operands listed c member).2
  known := by
    refine List.forall_mem_map.2 fun sign listed => ?_
    have cuts := isOperatorSign_iff.1 (List.of_mem_filter listed)
    simp only [List.mem_cons, List.not_mem_nil, or_false] at cuts
    rcases cuts with rfl | rfl | rfl | rfl <;> decide
  whole := by
    refine String.toList_injective ?_
    have pieces : String.toList ∘ String.ofList = id := funext fun _ => String.toList_ofList
    have signs : String.toList ∘ Char.toString = fun sign => [sign] :=
      funext String.toList_singleton
    rw [toList_interleave, List.map_map, List.map_map, pieces, List.map_id, signs,
      operands_eq_splitOnP]
    exact List.splitOnP_spec expression.toList

/-! ## There is no other cut -/

section
variable {expression piece sign : String} {pieces signs : List String}

theorem Cut.plain_first (cut : Cut expression (piece :: pieces) signs) :
    ∀ c ∈ piece.toList, isOperatorSign c = false := fun c member =>
  isOperatorSign_eq_false_iff.2 (cut.plain piece List.mem_cons_self c member)

theorem Cut.tail (cut : Cut expression (piece :: pieces) (sign :: signs)) :
    Cut (interleave pieces signs) pieces signs where
  paired := Nat.succ.inj cut.paired
  plain := (List.forall_mem_cons.1 cut.plain).2
  known := (List.forall_mem_cons.1 cut.known).2
  whole := rfl

theorem Cut.toList_cons (cut : Cut expression (piece :: pieces) (sign :: signs)) :
    ∃ c, isOperatorSign c = true ∧ sign = c.toString ∧
      expression.toList = piece.toList ++ c :: (interleave pieces signs).toList := by
  obtain ⟨c, cuts, rfl⟩ : ∃ c, isOperatorSign c = true ∧ sign = c.toString := by
    have known := (List.forall_mem_cons.1 cut.known).1
    simp only [List.mem_cons, List.not_mem_nil, or_false] at known
    rcases known with rfl | rfl | rfl | rfl
    exacts [⟨'+', rfl, rfl⟩, ⟨'-', rfl, rfl⟩, ⟨'*', rfl, rfl⟩, ⟨'/', rfl, rfl⟩]
  refine ⟨c, cuts, rfl, ?_⟩
  rw [← cut.whole, toList_interleave, toList_interleave]
  simp

theorem Cut.unique (cut : Cut expression pieces signs) :
    pieces = (operands expression.toList).map String.ofList ∧
      signs = (operators expression.toList).map Char.toString := by
  -- The first piece ends at the first sign, and the rest is cut in the same way.
  induction signs generalizing expression pieces with
  | nil =>
    obtain ⟨piece, rfl⟩ := List.length_eq_one_iff.1 cut.paired
    obtain rfl : piece = expression := by simpa [interleave] using cut.whole
    have signless := operators_plain cut.plain_first []
    rw [List.append_nil] at signless
    rw [operands_plain cut.plain_first, signless, List.map_singleton, String.ofList_toList]
    exact ⟨rfl, rfl⟩
  | cons sign signs ih =>
    obtain ⟨piece, pieces, rfl⟩ := List.exists_cons_of_length_eq_add_one cut.paired
    obtain ⟨c, cuts, rfl, split⟩ := cut.toList_cons
    obtain ⟨sameOperands, sameSigns⟩ := ih cut.tail
    constructor
    · rw [split, operands_cut cut.plain_first cuts, List.map_cons, ← sameOperands,
        String.ofList_toList]
    · rw [split, operators_plain cut.plain_first, operators, List.filter_cons_of_pos cuts,
        List.map_cons, ← operators, ← sameSigns]

end

/-- Every text is generated without error. Whatever the expression of an assignment is, its code is
made from pieces without signs and from the signs between them. With the signs put back they give
the expression, and no others do. -/
theorem generated_without_loss (source expression : String) :
    let pieces := (operands expression.toList).map String.ofList
    let signs := (operators expression.toList).map Char.toString
    (ofSource source).error = none ∧
      (∀ name varType, assignment (.assignment name varType expression) =
        (precision? varType).elim (.ofInstructions []) fun precision =>
          computeInto precision pieces signs name) ∧
      Cut expression pieces signs ∧
      ∀ others otherSigns, Cut expression others otherSigns → others = pieces ∧
        otherSigns = signs := by
  intro pieces signs
  refine ⟨(ofSource_generated source).1, fun name varType => ?_, cut_operands expression,
    fun others otherSigns cut => cut.unique⟩
  simp only [assignment, Record.assignment, Record.requireExpression, Record.requireVarType,
    Record.requireName, Option.elim_some, Emission.reading_pure]
  cases precision? varType <;> rfl

-- A sign that has nothing before it or behind it has an empty piece there.
example : operands "-a*".toList = [[], ['a'], []] ∧ operators "-a*".toList = ['-', '*'] := by decide

end Workbench.Mips
