import Calculator.Code.Basic

/-!
# Tapes

A tape is code together with the index of the instruction to be fetched next.
The index may lie past the end, where there is nothing left to fetch.
-/

namespace Calculator

structure Tape where
  code : Code
  next : Nat := 0
deriving DecidableEq, Repr, Inhabited

namespace Tape

/-- The instructions still to be fetched. -/
def pending (tape : Tape) : Code :=
  tape.code.drop tape.next

/-- Past the end nothing is fetched and the tape stays where it is. -/
def fetch (tape : Tape) : Option Instruction × Tape :=
  match tape.code[tape.next]? with
  | some instruction => (some instruction, { tape with next := tape.next + 1 })
  | none => (none, tape)

/-- The index of the instruction fetched last; zero before the first. -/
def current (tape : Tape) : Nat :=
  tape.next - 1

theorem fetch_fst (tape : Tape) : tape.fetch.1 = tape.pending.head? := by
  unfold fetch pending
  cases hfetched : tape.code[tape.next]? <;> simp [List.head?_drop, hfetched]

/-- Fetching takes the first of the pending instructions away. -/
theorem pending_fetch (tape : Tape) : tape.fetch.2.pending = tape.pending.tail := by
  unfold fetch pending
  cases hfetched : tape.code[tape.next]? with
  | some instruction => simp
  | none =>
      have hpast : tape.code.length ≤ tape.next := List.getElem?_eq_none_iff.1 hfetched
      simp [List.drop_eq_nil_of_le hpast]

variable {tape after : Tape} {instruction : Instruction}

theorem pending_of_fetch (hfetch : tape.fetch = (some instruction, after)) :
    tape.pending = instruction :: after.pending := by
  have hhead := tape.fetch_fst
  have htail := tape.pending_fetch
  rw [hfetch] at hhead htail
  obtain ⟨rest, hrest⟩ := List.head?_eq_some_iff.1 hhead.symm
  rw [htail, hrest, List.tail_cons]

theorem eq_of_fetch (hfetch : tape.fetch = (some instruction, after)) :
    after = { tape with next := tape.next + 1 } := by
  unfold fetch at hfetch
  split at hfetch
  · exact (Prod.mk.inj hfetch).2.symm
  · exact nomatch (Prod.mk.inj hfetch).1

/-- Where nothing is fetched nothing is pending, and the tape stays where it is. -/
theorem pending_of_fetch_none (hfetch : tape.fetch = (none, after)) :
    tape.pending = [] ∧ after = tape := by
  have hhead := tape.fetch_fst
  rw [hfetch] at hhead
  refine ⟨List.head?_eq_none_iff.1 hhead.symm, ?_⟩
  unfold fetch at hfetch
  split at hfetch
  · exact nomatch (Prod.mk.inj hfetch).1
  · exact (Prod.mk.inj hfetch).2.symm

end Tape

end Calculator
