import Calculator.Proofs.Machine.Reuse

/-!
# Code composed of code

What a run of two pieces of code comes to, one written behind the other, follows from
the runs of the two: their values stand one behind the other, and a fault of the first
is the fault of both.  The analysis composes as well.  The second piece starts where the
first has ended, so the values of the first are below all its heights, and the greatest
height is the one of the first or lies that much above the one of the second.
-/

namespace Calculator

namespace Code

variable {code first second : Code} {height greatest peak higher : Nat}

/-- Values below those that the code was scanned with raise all heights by their number;
a height reached before counts only if it is greater. -/
theorem peak?_above (hpeak : peak? code height greatest = some peak) (below reached : Nat) :
    peak? code (below + height) (max reached (below + greatest)) =
      some (max reached (below + peak)) := by
  induction code generalizing height greatest with
  | nil =>
      obtain rfl : greatest = peak := Option.some.inj hpeak
      rfl
  | cons instruction code ih =>
      cases instruction with
      | number literal =>
          have hgreatest : max (max reached (below + greatest)) (below + height + 1) =
              max reached (below + max greatest (height + 1)) := by
            omega
          rw [peak?, hgreatest]
          exact ih hpeak
      | operator operator =>
          rw [peak?] at hpeak
          by_cases hheight : height < 2
          · simp [hheight] at hpeak
          · rw [if_neg hheight] at hpeak
            have habove : ¬ below + height < 2 := by omega
            rw [peak?, if_neg habove, Nat.add_sub_assoc (by omega)]
            exact ih hpeak

/-- Code ends no higher than the greatest height that the scan finds. -/
theorem netEffect_le_maxStackDepth (hpeak : code.maxStackDepth = some peak) :
    code.netEffect ≤ peak := by
  have hgreatest := isGreatest_of_peak? (Nat.le_refl 0) hpeak
  have hend : code.netEffect ∈ heightsFrom 0 code :=
    ⟨code.length, Nat.le_refl _, by rw [List.take_length, Int.zero_add]⟩
  exact hgreatest.2 (.inr hend)

theorem maxStackDepth_append (hfirst : first.maxStackDepth = some peak)
    (hsecond : second.maxStackDepth = some higher) :
    (first ++ second).maxStackDepth = some (max peak (first.netEffect.toNat + higher)) := by
  have hend := netEffect_le_maxStackDepth hfirst
  have habove := peak?_above hsecond first.netEffect.toNat peak
  -- The first piece has been as high as its end already, so its greatest height is the one
  -- that the second starts with.
  have hreached : max peak (first.netEffect.toNat + 0) = peak := by omega
  rw [hreached, Nat.add_zero] at habove
  calc
    (first ++ second).maxStackDepth =
        (first.maxStackDepth).bind (peak? second (0 + first.netEffect).toNat) :=
      peak?_append first second 0 0
    _ = peak? second first.netEffect.toNat peak := by
      rw [hfirst, Option.bind_some, Int.zero_add]
    _ = some (max peak (first.netEffect.toNat + higher)) := habove

theorem maxStackDepth_append_eq_none (hfirst : first.maxStackDepth = none) :
    (first ++ second).maxStackDepth = none := by
  rw [maxStackDepth, peak?_append]
  exact Option.bind_eq_none_iff.2 fun reached hreached =>
    absurd (hfirst.symm.trans hreached) (by simp)

/-- Code leaves as many values as its two pieces together. -/
theorem resultCount_append (hfirst : first.maxStackDepth = some peak)
    (hsecond : second.maxStackDepth = some higher) :
    (first ++ second).resultCount =
      some (first.netEffect.toNat + second.netEffect.toNat) := by
  have hfirstNonneg := netEffect_nonneg_of_peak? hfirst
  have hsecondNonneg := netEffect_nonneg_of_peak? hsecond
  have hsum : (first.netEffect + second.netEffect).toNat =
      first.netEffect.toNat + second.netEffect.toNat := by
    omega
  rw [resultCount_of_maxStackDepth (maxStackDepth_append hfirst hsecond), netEffect_append, hsum]

end Code

namespace Machine

/-- A fault of the first piece is met whatever follows. -/
theorem run_append_of_error {machine : Machine} {first : Code} {fault : Fault}
    (hfirst : (machine.run first).1 = .error fault) (second : Code) (later : Machine) :
    (later.run (first ++ second)).1 = .error fault := by
  rw [run_fst] at hfirst
  obtain ⟨index, instruction, left, hinstruction, hreaches, hfault⟩ :=
    Run.exists_stop_of_error hfirst
  rw [run_fst, Run.execute_append_of_stop hinstruction hreaches hfault]

/-- Code composes.  Two pieces that run well leave their values one behind the other, and
a fault of the first is the fault of both.  If both find their operands, they leave as
many values together as they leave apart, and reach the greatest height of the first or
that of the second above the values of the first; if the first does not, neither do both. -/
theorem append_composes (first second : Code) :
    (∀ (machine later : Machine) (values others : List Float),
      (machine.run first).1 = .ok values → (machine.run second).1 = .ok others →
      (later.run (first ++ second)).1 = .ok (values ++ others)) ∧
    (∀ (machine later : Machine) (fault : Fault), (machine.run first).1 = .error fault →
      (later.run (first ++ second)).1 = .error fault) ∧
    (∀ peak higher, first.maxStackDepth = some peak → second.maxStackDepth = some higher →
      ∃ count more, first.resultCount = some count ∧ second.resultCount = some more ∧
        (first ++ second).resultCount = some (count + more) ∧
        (first ++ second).maxStackDepth = some (max peak (count + higher))) ∧
    (first.maxStackDepth = none → (first ++ second).maxStackDepth = none) := by
  refine ⟨?_, ?_, ?_, Code.maxStackDepth_append_eq_none⟩
  · intro machine later values others hfirst hsecond
    exact run_append hfirst hsecond later
  · intro machine later fault hfirst
    exact run_append_of_error hfirst second later
  · intro peak higher hfirst hsecond
    exact ⟨first.netEffect.toNat, second.netEffect.toNat,
      Code.resultCount_of_maxStackDepth hfirst, Code.resultCount_of_maxStackDepth hsecond,
      Code.resultCount_append hfirst hsecond, Code.maxStackDepth_append hfirst hsecond⟩

/-- The second statement is computed above the value of the first; with an operand less,
the first stops the run before the second is reached. -/
theorem append_composes_of_two_statements :
    let first : Code := [.number "1", .number "2", .operator .add]
    let short : Code := [.number "1", .operator .add]
    let second : Code := [.number "3", .number "4", .operator .multiply]
    (∃ values others, (({} : Machine).run first).1 = .ok values ∧
      (({} : Machine).run second).1 = .ok others ∧
      (({} : Machine).run (first ++ second)).1 = .ok (values ++ others)) ∧
    (first ++ second).resultCount = some 2 ∧ (first ++ second).maxStackDepth = some 3 ∧
    (({} : Machine).run (short ++ second)).1 = .error (.stackUnderflow 1 .add) ∧
    (short ++ second).maxStackDepth = none := by
  intro first short second
  obtain ⟨values, hfirst⟩ : ∃ values, (({} : Machine).run first).1 = .ok values :=
    exists_values_iff.2 ⟨by unfold Code.Readable; decide +kernel, 2, rfl⟩
  obtain ⟨others, hsecond⟩ : ∃ others, (({} : Machine).run second).1 = .ok others :=
    exists_values_iff.2 ⟨by unfold Code.Readable; decide +kernel, 2, rfl⟩
  have hshort : (({} : Machine).run short).1 = .error (.stackUnderflow 1 .add) := by
    rw [run_fst, Run.result_eq_error_iff]
    exact ⟨1, by decide, by decide⟩
  obtain ⟨hrun, -, hanalysis, -⟩ := append_composes first second
  obtain ⟨-, hfault, -, hnone⟩ := append_composes short second
  obtain ⟨count, more, hcount, hmore, hsum, hpeak⟩ := hanalysis 2 2 rfl rfl
  obtain rfl : 1 = count := Option.some.inj hcount
  obtain rfl : 1 = more := Option.some.inj hmore
  exact ⟨⟨values, others, hfirst, hsecond, hrun {} {} values others hfirst hsecond⟩, hsum, hpeak,
    hfault {} {} _ hshort, hnone rfl⟩

end Machine

end Calculator
