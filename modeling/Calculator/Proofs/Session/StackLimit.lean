import Calculator.Proofs.Machine.Reuse
import Calculator.Proofs.Session.Evaluation

/-!
# The nesting limit bounds the stack

Code leaves values on the stack, and on the way it needs room for more.  For the code of
a tree that room is bounded by the depth of the tree: an operand is computed above what
was left by the operand beside it, and so each level of the tree adds one value at most
to what the code ends with.  A reader accepts nothing deeper than its limit, so the limit
that keeps the reader from nesting too deeply keeps the stack of the machine low as well.
-/

namespace Calculator

/-- Code finds its operands, and all through a run the stack holds at most so many values
more than the code leaves. -/
def Code.StaysWithin (code : Code) (room : Nat) : Prop :=
  ∃ peak count, code.maxStackDepth = some peak ∧ code.resultCount = some count ∧
    peak ≤ count + room ∧ ∀ height ∈ Run.heights code, height ≤ peak

theorem Code.StaysWithin.mono {code : Code} {room more : Nat} (hwithin : code.StaysWithin room)
    (hle : room ≤ more) : code.StaysWithin more := by
  obtain ⟨peak, count, hpeak, hcount, hroom, hheights⟩ := hwithin
  exact ⟨peak, count, hpeak, hcount, by omega, hheights⟩

/-- A run never rises above the height that the scan finds, not even one that stops at a
literal that is no number. -/
theorem Run.le_of_mem_heights {code : Code} {peak height : Nat}
    (hpeak : code.maxStackDepth = some peak) (hheight : height ∈ heights code) :
    height ≤ peak := by
  obtain ⟨index, stack, hreaches, rfl⟩ := hheight
  have htaken := hreaches.result_take
  obtain ⟨foretold, hforetold, hlength⟩ :=
    exists_values_of_no_fault (exists_values_iff_no_fault.1 ⟨_, htaken⟩)
  obtain rfl : foretold = stack.reverse := Except.ok.inj (hforetold.symm.trans htaken)
  have hmem : (stack.length : Int) ∈ code.heightsFrom 0 :=
    ⟨index, hreaches.1, by rw [Int.zero_add, ← hlength, List.length_reverse]⟩
  exact Int.ofNat_le.1 ((Code.isGreatest_of_peak? (Nat.le_refl 0) hpeak).2 (.inr hmem))

/-- The code of a program without empty groupings needs no more room than the program is
deep. -/
theorem Program.staysWithin_depth {program : Program} (hfilled : program.Filled) :
    program.lower.StaysWithin program.depth := by
  obtain ⟨hsupplied, -⟩ := Statement.allSupplied_of_filled hfilled
  obtain ⟨peak, hpeak, hle⟩ := exists_maxStackDepth_lower hsupplied
  exact ⟨peak, program.resultCount, hpeak, resultCount_lower hsupplied, hle,
    fun _ => Run.le_of_mem_heights hpeak⟩

/-- The stack stays within the nesting.  The code of any program without empty groupings
finds its operands and needs no more values on the stack than it leaves and the program is
deep, and so the code of any text that is read with some limit needs no more than it
leaves and that limit. -/
theorem stack_within_nesting :
    (∀ program : Program, program.Filled → program.lower.StaysWithin program.depth) ∧
    ∀ (source : String) (grammar : Grammar) (limit : Nat) (program : Program),
      ({ Reader.ofSource source with grammar, limit } : Reader).program = .ok program →
      program.lower.StaysWithin limit := by
  constructor
  · intro program hfilled
    exact Program.staysWithin_depth hfilled
  · intro source grammar limit program hprogram
    obtain ⟨-, hcanonical, hdepth⟩ := Reader.lexemes_of_program hprogram
    have hfilled : program.Filled := Statement.allFilled_of_canonical hcanonical
    exact (Program.staysWithin_depth hfilled).mono hdepth

/-- No room is to spare in `1-2*3`, which is two levels deep: three values are on the
stack before the first operator. -/
theorem stack_within_nesting_of_product :
    let program : Program :=
      ⟨[.expression .subtract (.number "1")
        (.nested (.expression .multiply (.number "2") (.number "3")))]⟩
    ({ Reader.ofSource "1-2*3" with limit := 2 } : Reader).program = .ok program ∧
      program.Filled ∧ program.lower.StaysWithin program.depth ∧
      program.lower.StaysWithin 2 ∧ ¬ program.lower.StaysWithin 1 := by
  intro program
  have hprogram : ({ Reader.ofSource "1-2*3" with limit := 2 } : Reader).program =
      .ok program := by cbv
  have hfilled : program.Filled := ⟨⟨trivial, trivial, trivial⟩, trivial⟩
  refine ⟨hprogram, hfilled, stack_within_nesting.1 program hfilled,
    stack_within_nesting.2 _ _ _ _ hprogram, ?_⟩
  rintro ⟨peak, count, hpeak, hcount, hle, -⟩
  rw [program.lower_eq_postorder] at hpeak hcount
  obtain rfl : 3 = peak := Option.some.inj hpeak
  obtain rfl : 1 = count := Option.some.inj hcount
  omega

end Calculator
