import Calculator.Proofs.Grammar.CallTree

/-!
# Two readings

Two lists of tokens are read, and the second reading is to do what the first one does.  The
tokens may be the same, under a limit that is no lower; they may stand elsewhere; or those
of the second may be the tokens of a text continued.  What is needed of the two lists is
said here once.  As long as the first reading has not come to an end that the second may
have gone beyond, the two agree.  There they part: a number may have grown, and an
expression may go on and so become deeper, but never shallower.  What follows a value that
both return can be compared on its own, so the comparison is carried through a sequence of
readings part by part.
-/

namespace Calculator

/-- No value is returned. -/
def Outcome.Unread {α : Type} (outcome : Outcome α) : Prop :=
  ∀ value after, outcome ≠ .ok value after

/-- The same problem, met at tokens that correspond. -/
inductive Problem.Corresponds (tokens : Token → Token → Prop) : Problem → Problem → Prop where
  | ambiguous {literal other : Token} (hpair : tokens literal other) :
      Corresponds tokens (.ambiguous literal) (.ambiguous other)
  | unexpected (expected : Expectation) {found other : Token} (hpair : tokens found other) :
      Corresponds tokens (.unexpected expected found) (.unexpected expected other)
  | ended (expected : Expectation) : Corresponds tokens (.ended expected) (.ended expected)
  | unclosed {opening other : Token} (hpair : tokens opening other) :
      Corresponds tokens (.ended (.closing opening)) (.ended (.closing other))
  | tooDeep {token other : Token} (hpair : tokens token other) :
      Corresponds tokens (.tooDeep token) (.tooDeep other)

/-- The same grammar, with a limit that is no lower. -/
structure Rules.NoStricter (first second : Rules) : Prop where
  grammar_eq : second.grammar = first.grammar
  limit_le : first.limit ≤ second.limit

theorem Rules.NoStricter.refl (rules : Rules) : rules.NoStricter rules :=
  ⟨rfl, Nat.le_refl _⟩

/-- How the tokens of a second reading correspond to those of a first, and its cursors to
those of the first.  If the second `mayGoOn` where the first has ended, nothing is known of
it there; before, the tokens differ in nothing that reading goes by. -/
structure Simulation (first second : Rules) where
  mayGoOn : Prop
  tokens : Token → Token → Prop
  cursors : Cursor → Cursor → Prop
  rules : first.NoStricter second
  kind_eq : ∀ {token other}, tokens token other → other.kind = token.kind
  text_eq : ∀ {token other}, tokens token other → token.kind ≠ .number → other.text = token.text
  dots_le : ∀ {token other}, tokens token other → token.dots ≤ other.dots
  next : ∀ {token behind longer}, cursors (behind.before token) longer →
    ∃ other more, longer = more.before other ∧ cursors behind more ∧
      more.nesting = behind.nesting ∧ tokens token other ∧
      ((mayGoOn → behind.rest ≠ []) → other.text = token.text)
  ended : ∀ {cursor longer}, cursors cursor longer → cursor.rest = [] → mayGoOn ∨ longer.rest = []
  goneOn : mayGoOn → ∀ {cursor} longer, cursor.rest = [] → cursors cursor longer
  nest : ∀ {cursor longer}, cursors cursor longer →
    cursors { cursor with nesting := cursor.nesting + 1 }
      { longer with nesting := longer.nesting + 1 }
  unnest : ∀ {cursor longer}, cursors cursor longer → cursors cursor.unnest longer.unnest

namespace Outcome

variable {α β : Type}

theorem unread_failed (problem : Problem) (stop : Cursor) :
    (failed problem stop : Outcome α).Unread := by
  intro value after
  simp

theorem unread_exhausted : (exhausted : Outcome α).Unread := by
  intro value after
  simp

theorem Unread.bind {outcome : Outcome α} {next : α → Cursor → Outcome β}
    (hnext : ∀ value after, outcome = .ok value after → (next value after).Unread) :
    (outcome.bind next).Unread := by
  intro result stop hresult
  obtain ⟨value, after, hvalue, hstop⟩ := bind_eq_ok_iff.1 hresult
  exact hnext value after hvalue result stop hstop

theorem Unread.bind_of_unread {outcome : Outcome α} (hunread : outcome.Unread)
    (next : α → Cursor → Outcome β) : (outcome.bind next).Unread :=
  Unread.bind fun value after hvalue => absurd hvalue (hunread value after)

/-- Nothing unexpected is met and nothing is left. -/
def Ends (outcome : Outcome α) : Prop :=
  match outcome with
  | .ok _ after => after.rest = []
  | .failed problem _ => ∀ expected found, problem ≠ .unexpected expected found
  | .exhausted => True

theorem Ends.bind {outcome : Outcome α} {next : α → Cursor → Outcome β} (hends : outcome.Ends)
    (hnext : ∀ {value after}, outcome = .ok value after → after.rest = [] →
      (next value after).Ends) :
    (outcome.bind next).Ends := by
  cases outcome with
  | ok value after => exact hnext rfl hends
  | failed problem stop => exact hends
  | exhausted => trivial

end Outcome

namespace Simulation

variable {first second : Rules} {simulation : Simulation first second} {α β : Type}
  {cursor longer : Cursor} {token other : Token}

/-! ### Tokens and cursors -/

/-- The first reading is not at an end that the second may have gone beyond. -/
def Settled (simulation : Simulation first second) (cursor : Cursor) : Prop :=
  simulation.mayGoOn → cursor.rest ≠ []

theorem settled_before (behind : Cursor) (token : Token) :
    simulation.Settled (behind.before token) :=
  fun _ => List.cons_ne_nil _ _

theorem mayGoOn_of_not_settled (hopen : ¬ simulation.Settled cursor) :
    simulation.mayGoOn ∧ cursor.rest = [] := by
  simpa [Settled] using hopen

/-- What is asked of a token has the same answer for one that corresponds, if it is asked of
its kind and text and is the same for all numbers. -/
theorem answer_eq {β : Type} (answer : TokenKind → String → β)
    (hnumber : ∀ text other, answer .number text = answer .number other)
    (hpair : simulation.tokens token other) :
    answer other.kind other.text = answer token.kind token.text := by
  by_cases hkind : token.kind = .number
  · rw [simulation.kind_eq hpair, hkind]
    exact hnumber _ _
  · rw [simulation.kind_eq hpair, simulation.text_eq hpair hkind]

theorem operator?_eq (hpair : simulation.tokens token other) :
    other.operator? = token.operator? :=
  answer_eq (fun kind text => Token.operator? ⟨kind, text, 0⟩) (by simp [Token.operator?]) hpair

theorem isLeftParen_eq (hpair : simulation.tokens token other) :
    other.isLeftParen = token.isLeftParen :=
  answer_eq (fun kind text => Token.isLeftParen ⟨kind, text, 0⟩) (by simp [Token.isLeftParen]) hpair

theorem isRightParen_eq (hpair : simulation.tokens token other) :
    other.isRightParen = token.isRightParen :=
  answer_eq (fun kind text => Token.isRightParen ⟨kind, text, 0⟩) (by simp [Token.isRightParen])
    hpair

/-- A token that corresponds stands in front of what corresponds to the rest. -/
theorem behind (hcursors : simulation.cursors (cursor.before token) (longer.before other)) :
    simulation.cursors cursor longer ∧ longer.nesting = cursor.nesting ∧
      simulation.tokens token other ∧ (simulation.Settled cursor → other.text = token.text) := by
  obtain ⟨found, more, heq, hbehind, hnesting, hpair, htext⟩ := simulation.next hcursors
  cases longer
  cases more
  cases heq
  exact ⟨hbehind, hnesting, hpair, htext⟩

/-- Where the first reading is settled, one has ended if the other has, and both have the
same operator next. -/
theorem operator?_eq_of_settled (hcursors : simulation.cursors cursor longer)
    (hsettled : simulation.Settled cursor) : longer.operator? = cursor.operator? := by
  rcases cursor.eq_end_or_before with hend | ⟨token, behind, rfl⟩
  · rcases simulation.ended hcursors hend with hmore | hover
    · exact absurd hend (hsettled hmore)
    · rw [Cursor.operator?, Cursor.operator?, hend, hover]
  · obtain ⟨other, more, rfl, -, -, hpair, -⟩ := simulation.next hcursors
    exact operator?_eq hpair

theorem atBoundary_iff (hcursors : simulation.cursors cursor longer)
    (hsettled : simulation.Settled cursor) : longer.AtBoundary ↔ cursor.AtBoundary := by
  rcases cursor.eq_end_or_before with hend | ⟨token, behind, rfl⟩
  · rcases simulation.ended hcursors hend with hmore | hover
    · exact absurd hend (hsettled hmore)
    · simp [Cursor.AtBoundary, hend, hover]
  · obtain ⟨other, more, rfl, -, -, hpair, -⟩ := simulation.next hcursors
    simp [Cursor.AtBoundary, Cursor.before, simulation.kind_eq hpair]

/-! ### What one reading says about the other -/

/-- What a problem means for the second reading.  It is met again, unless the limit is
higher or there is more to read. -/
inductive Persists (simulation : Simulation first second) {α : Type} :
    Problem → Cursor → Outcome α → Prop where
  | again {problem other : Problem} {stop otherStop : Cursor}
      (hproblem : problem.Corresponds simulation.tokens other)
      (hstop : simulation.cursors stop otherStop) :
      Persists simulation problem stop (.failed other otherStop)
  | raised (hlimit : first.limit < second.limit) (token : Token) (stop : Cursor)
      (long : Outcome α) : Persists simulation (.tooDeep token) stop long
  | goneOn (hmore : simulation.mayGoOn) (expected : Expectation) (stop : Cursor)
      (long : Outcome α) : Persists simulation (.ended expected) stop long
  | hopeless {problem : Problem} {long : Outcome α} (hmore : simulation.mayGoOn)
      (hproblem : ∀ expected found, problem ≠ .unexpected expected found) (stop : Cursor)
      (hunread : long.Unread) : Persists simulation problem stop long

/-- A problem that persists does so in all that follows. -/
theorem Persists.bind {problem : Problem} {stop : Cursor} {long : Outcome α}
    (hpersists : simulation.Persists problem stop long) (next : α → Cursor → Outcome β) :
    simulation.Persists problem stop (long.bind next) := by
  cases hpersists with
  | again hproblem hstop => exact .again hproblem hstop
  | raised hlimit => exact .raised hlimit _ _ _
  | goneOn hmore => exact .goneOn hmore _ _ _
  | hopeless hmore hproblem _ hunread => exact .hopeless hmore hproblem _ (hunread.bind_of_unread _)

/-- One reading binds another: problems persist, and values agree in a given sense.  A
reading that is cut off says nothing. -/
def Binds (simulation : Simulation first second) (agrees : α → Cursor → Outcome α → Prop)
    (short long : Outcome α) : Prop :=
  match short with
  | .ok value after => agrees value after long
  | .failed problem stop => simulation.Persists problem stop long
  | .exhausted => True

/-- The same value is returned at the same place. -/
def Same (simulation : Simulation first second) (value : α) (after : Cursor) (long : Outcome α) :
    Prop :=
  ∃ later, long = .ok value later ∧ simulation.cursors after later

/-- The same value is returned where the first reading is settled, and a value that is not
less deep if anything is returned. -/
def Grown (simulation : Simulation first second) (value : Measured α) (after : Cursor)
    (long : Outcome (Measured α)) : Prop :=
  (simulation.Settled after → simulation.Same value after long) ∧
    ∀ other later, long = .ok other later → value.depth ≤ other.depth

/-- The same value is returned at the end of the tokens, beyond which nothing is known of a
second reading that goes on. -/
def Completed (simulation : Simulation first second) (value : α) (after : Cursor)
    (long : Outcome α) : Prop :=
  simulation.mayGoOn ∨ simulation.Same value after long

def Repeats (simulation : Simulation first second) : Outcome α → Outcome α → Prop :=
  simulation.Binds simulation.Same

def Deepens (simulation : Simulation first second) :
    Outcome (Measured α) → Outcome (Measured α) → Prop :=
  simulation.Binds simulation.Grown

theorem Binds.bind {agrees : α → Cursor → Outcome α → Prop}
    {agreesNext : β → Cursor → Outcome β → Prop} {short long : Outcome α}
    {next nextLong : α → Cursor → Outcome β} (hbinds : simulation.Binds agrees short long)
    (hok : ∀ value after, short = .ok value after → agrees value after long →
      simulation.Binds agreesNext (next value after) (long.bind nextLong)) :
    simulation.Binds agreesNext (short.bind next) (long.bind nextLong) := by
  cases short with
  | ok value after => exact hok value after rfl hbinds
  | failed problem stop => exact Persists.bind hbinds nextLong
  | exhausted => trivial

/-- Where the same value is returned, it is enough to compare what follows it. -/
theorem Repeats.bind {agrees : β → Cursor → Outcome β → Prop} {short long : Outcome α}
    {next nextLong : α → Cursor → Outcome β} (hrepeats : simulation.Repeats short long)
    (hnext : ∀ {value after later}, short = .ok value after → long = .ok value later →
      simulation.cursors after later →
      simulation.Binds agrees (next value after) (nextLong value later)) :
    simulation.Binds agrees (short.bind next) (long.bind nextLong) := by
  apply Binds.bind hrepeats
  rintro value after hvalue ⟨later, rfl, hafter⟩
  exact hnext hvalue rfl hafter

theorem Repeats.map {short long : Outcome α} (hrepeats : simulation.Repeats short long)
    (transform : α → β) : simulation.Repeats (short.map transform) (long.map transform) := by
  apply hrepeats.bind
  intro value after later _ _ hafter
  exact ⟨later, rfl, hafter⟩

theorem Repeats.deepens {short long : Outcome (Measured α)}
    (hrepeats : simulation.Repeats short long) : simulation.Deepens short long := by
  cases short with
  | ok value after =>
      obtain ⟨later, rfl, hafter⟩ := hrepeats
      refine ⟨fun _ => ⟨later, rfl, hafter⟩, ?_⟩
      rintro other _ ⟨⟩
      exact Nat.le_refl _
  | failed problem stop => exact hrepeats
  | exhausted => trivial

/-- At an end that the second reading goes beyond nothing has to be read any more. -/
theorem deepens_of_ends {short long : Outcome (Measured α)} (hmore : simulation.mayGoOn)
    (hends : short.Ends) (hunread : long.Unread) : simulation.Deepens short long := by
  cases short with
  | ok value after =>
      refine ⟨fun hsettled => absurd hends (hsettled hmore), ?_⟩
      exact fun other later hok => absurd hok (hunread other later)
  | failed problem stop => exact .hopeless hmore hends stop hunread
  | exhausted => trivial

/-- The values may differ only where the first reading is not settled.  What follows them is
compared there as well, and must be over if there is no second value. -/
theorem Deepens.bind {short long : Outcome (Measured α)}
    {next nextLong : Measured α → Cursor → Outcome (Measured β)}
    (hdeepens : simulation.Deepens short long)
    (hnext : ∀ {value other after later}, short = .ok value after → long = .ok other later →
      simulation.cursors after later → value.depth ≤ other.depth →
      (simulation.Settled after → other = value) →
      simulation.Deepens (next value after) (nextLong other later))
    (hlast : ∀ {value after}, short = .ok value after → after.rest = [] →
      (next value after).Ends) :
    simulation.Deepens (short.bind next) (long.bind nextLong) := by
  apply Binds.bind hdeepens
  rintro value after hvalue ⟨hsame, hdepth⟩
  by_cases hsettled : simulation.Settled after
  · obtain ⟨later, rfl, hafter⟩ := hsame hsettled
    exact hnext hvalue rfl hafter (Nat.le_refl _) fun _ => rfl
  · obtain ⟨hmore, hend⟩ := mayGoOn_of_not_settled hsettled
    cases long with
    | ok other later =>
        apply hnext hvalue rfl (simulation.goneOn hmore later hend) (hdepth other later rfl)
        exact fun hsettled => absurd hend (hsettled hmore)
    | failed problem stop =>
        exact deepens_of_ends hmore (hlast hvalue hend) (Outcome.unread_failed problem stop)
    | exhausted => exact deepens_of_ends hmore (hlast hvalue hend) Outcome.unread_exhausted

/-- Where nothing is left to say once the first reading is not settled, it is enough to
compare what follows the same value. -/
theorem Deepens.bind_settled {agrees : β → Cursor → Outcome β → Prop}
    {short long : Outcome (Measured α)} {next nextLong : Measured α → Cursor → Outcome β}
    (hdeepens : simulation.Deepens short long)
    (hnext : ∀ {value after later}, short = .ok value after → simulation.cursors after later →
      simulation.Binds agrees (next value after) (nextLong value later))
    (hlast : ∀ {value after} (other : Outcome β), simulation.mayGoOn → short = .ok value after →
      after.rest = [] → simulation.Binds agrees (next value after) other) :
    simulation.Binds agrees (short.bind next) (long.bind nextLong) := by
  apply Binds.bind hdeepens
  rintro value after hvalue ⟨hsame, -⟩
  by_cases hsettled : simulation.Settled after
  · obtain ⟨later, rfl, hafter⟩ := hsame hsettled
    exact hnext hvalue hafter
  · obtain ⟨hmore, hend⟩ := mayGoOn_of_not_settled hsettled
    exact hlast _ hmore hvalue hend

theorem Deepens.map {short long : Outcome (Measured α)} (hdeepens : simulation.Deepens short long)
    (transform : α → β) :
    simulation.Deepens (short.map (Measured.map transform))
      (long.map (Measured.map transform)) := by
  apply hdeepens.bind
  · intro value other after later _ _ hafter hdepth hsame
    refine ⟨?_, ?_⟩
    · intro hsettled
      rw [hsame hsettled]
      exact ⟨later, rfl, hafter⟩
    · rintro _ _ ⟨⟩
      exact hdepth
  · exact fun _ hend => hend

/-! ### Steps -/

theorem persists_missing (hcursors : simulation.cursors cursor longer) (expected : Expectation) :
    simulation.Persists (.missing expected cursor.rest) cursor
      (.failed (.missing expected longer.rest) longer : Outcome α) := by
  rcases cursor.eq_end_or_before with hend | ⟨token, behind, rfl⟩
  · rw [hend]
    rcases simulation.ended hcursors hend with hmore | hover
    · exact .goneOn hmore expected _ _
    · rw [hover]
      exact .again (.ended expected) hcursors
  · obtain ⟨other, more, rfl, -, -, hpair, -⟩ := simulation.next hcursors
    exact .again (.unexpected expected hpair) hcursors

/-- What is too deep for the second reading is so for the first, and what has grown stays
too deep. -/
theorem binds_check {agrees : α → Cursor → Outcome α → Prop} {depth deeper : Nat}
    {short long : Outcome α} (hdepth : depth ≤ deeper) (hpair : simulation.tokens token other)
    (hcursors : simulation.cursors cursor longer)
    (hpassed : depth ≤ first.limit → simulation.Binds agrees short
      (if second.limit < deeper then .failed (.tooDeep other) longer else long)) :
    simulation.Binds agrees (if first.limit < depth then .failed (.tooDeep token) cursor else short)
      (if second.limit < deeper then .failed (.tooDeep other) longer else long) := by
  by_cases hdeep : first.limit < depth
  · rw [if_pos hdeep]
    by_cases hdeeper : second.limit < deeper
    · rw [if_pos hdeeper]
      exact .again (.tooDeep hpair) hcursors
    · exact .raised (by omega) token cursor _
  · rw [if_neg hdeep]
    exact hpassed (Nat.not_lt.1 hdeep)

theorem repeats_nest (hpair : simulation.tokens token other)
    (hcursors : simulation.cursors cursor longer) (hnesting : longer.nesting = cursor.nesting) :
    simulation.Repeats (cursor.nest first.limit token) (longer.nest second.limit other) := by
  apply binds_check (Nat.le_of_eq (congrArg (· + 1) hnesting.symm)) hpair
    (simulation.nest hcursors)
  intro hlevel
  have hpassed : longer.nesting + 1 ≤ second.limit := by
    rw [hnesting]
    exact Nat.le_trans hlevel simulation.rules.limit_le
  rw [if_neg (Nat.not_lt.2 hpassed)]
  exact ⟨_, rfl, simulation.nest hcursors⟩

theorem deepens_within {measured grown : Measured α} (hpair : simulation.tokens token other)
    (hcursors : simulation.cursors cursor longer) (hdepth : measured.depth ≤ grown.depth)
    (hsame : simulation.Settled cursor → grown = measured) :
    simulation.Deepens (measured.within first.limit token cursor)
      (grown.within second.limit other longer) := by
  apply binds_check hdepth hpair hcursors
  intro hpassed
  refine ⟨?_, ?_⟩
  · intro hsettled
    have hlimit := simulation.rules.limit_le
    rw [hsame hsettled, if_neg (by omega)]
    exact ⟨longer, rfl, hcursors⟩
  · intro result later hresult
    obtain ⟨-, rfl, -⟩ := Measured.within_eq_ok_iff.1 hresult
    exact hdepth

theorem repeats_within (measured : Measured α) (hpair : simulation.tokens token other)
    (hcursors : simulation.cursors cursor longer) :
    simulation.Repeats (measured.within first.limit token cursor)
      (measured.within second.limit other longer) := by
  apply binds_check (Nat.le_refl _) hpair hcursors
  intro hpassed
  have hlimit := simulation.rules.limit_le
  rw [if_neg (by omega)]
  exact ⟨longer, rfl, hcursors⟩

theorem ends_within {limit : Nat} {measured : Measured α} (hend : cursor.rest = []) :
    (measured.within limit token cursor).Ends := by
  rw [Measured.within]
  split
  · intro expected found
    simp
  · exact hend

end Simulation

end Calculator
