import Calculator.Console.Conversation

/-!
# Cutting input into blocks

Lines of input fall into pieces: blank lines, commands, and blocks of lines that make
up one text.  A block starts at a line of text outside any other block.  It ends at
the first of its lines at which the text so far has no open parenthesis and does not
fail for want of more input, or else at the first blank line after its first.  The
input ends where it ends, which may be within a block, or at a line that asks for it.
Every input can be cut in exactly one way.
-/

namespace Calculator

/-- What a session that has not evaluated anything yet makes of a text. -/
def Settings.evaluate (settings : Settings) (text : String) : Evaluation :=
  (({ settings } : Session).evaluate text).1

/-- The evaluation failed for want of more input. -/
def Evaluation.isIncomplete (evaluation : Evaluation) : Bool :=
  match evaluation.result with
  | .ok _ => false
  | .error failure => failure.isIncomplete

/-- No parenthesis of the text is left open, and its evaluation does not fail for want
of more input. -/
def Settings.Completes (settings : Settings) (text : String) : Prop :=
  Console.parensClosed text = true ∧ (settings.evaluate text).isIncomplete = false

instance (settings : Settings) (text : String) : Decidable (settings.Completes text) :=
  inferInstanceAs (Decidable (_ ∧ _))

/-! ### Lines -/

namespace Line

inductive Kind where
  | blank
  | exit
  | command
  | text
deriving DecidableEq, Repr

/-- What a line is outside any block. -/
def kind (line : String) : Kind :=
  if Text.trim line.toList = [] then .blank
  else if Text.trim line.toList = ".exit".toList then .exit
  else if (Text.trim line.toList).head? = some '.' then .command
  else .text

/-- The command that a line stands for outside any block. -/
def command (line : String) : ConsoleCommand :=
  ConsoleCommand.ofText (Text.trim line.toList)

/-- One text of several lines. -/
def joined (lines : List String) : String :=
  "\n".intercalate lines

theorem joined_singleton (line : String) : joined [line] = line :=
  String.intercalate_singleton

theorem joined_concat {lines : List String} (hlines : lines ≠ []) (line : String) :
    joined (lines ++ [line]) = joined lines ++ "\n" ++ line := by
  rw [joined, String.intercalate_append_of_ne_nil hlines (List.cons_ne_nil _ _),
    String.intercalate_singleton]
  rfl

end Line

/-! ### Blocks -/

namespace Block

/-- Lines of a block, from its first, of which the last ends it. -/
def Ends (settings : Settings) (lines : List String) : Prop :=
  settings.Completes (Line.joined lines) ∨
    2 ≤ lines.length ∧ ∃ last ∈ lines.getLast?, Text.trim last.toList = []

/-- None of the lines of a block ends it. -/
def Unfinished (settings : Settings) (lines : List String) : Prop :=
  ∀ initial, initial ≠ [] → initial <+: lines → ¬ Ends settings initial

/-- If there is a first line at all it starts a block. -/
def Starts (lines : List String) : Prop :=
  ∀ first ∈ lines.head?, Line.kind first = .text

variable {settings : Settings} {held lines rest : List String} {line last : String}

theorem ends_concat_iff :
    Ends settings (held ++ [line]) ↔
      settings.Completes (Line.joined (held ++ [line])) ∨
        held ≠ [] ∧ Text.trim line.toList = [] := by
  have hlength : 2 ≤ (held ++ [line]).length ↔ held ≠ [] := by
    rw [List.length_append, List.length_singleton, ← List.length_pos_iff]
    omega
  rw [Ends, hlength]
  simp

theorem unfinished_nil : Unfinished settings [] := by
  intro initial hne hinitial
  exact absurd (List.prefix_nil.1 hinitial) hne

theorem unfinished_concat_iff :
    Unfinished settings (held ++ [line]) ↔
      Unfinished settings held ∧ ¬ Ends settings (held ++ [line]) := by
  constructor
  · intro hunfinished
    refine ⟨?_, ?_⟩
    · intro initial hne hinitial
      exact hunfinished initial hne (hinitial.trans (List.prefix_append _ _))
    · exact hunfinished _ (by simp) (List.prefix_refl _)
  · rintro ⟨hunfinished, hends⟩ initial hne hinitial
    rcases List.prefix_concat_iff.1 hinitial with rfl | hinitial
    · exact hends
    · exact hunfinished initial hne hinitial

theorem Unfinished.of_append (hunfinished : Unfinished settings (held ++ rest)) :
    Unfinished settings held := by
  intro initial hne hinitial
  exact hunfinished initial hne (hinitial.trans (List.prefix_append _ _))

theorem Starts.of_append (hstarts : Starts (held ++ rest)) : Starts held := by
  cases held with
  | nil => simp [Starts]
  | cons first others => exact hstarts

/-- Lines go on until one of them ends the block, or none does. -/
theorem exists_end_or_unfinished (hheld : Unfinished settings held) (lines : List String) :
    (∃ more last rest, lines = more ++ last :: rest ∧ Unfinished settings (held ++ more) ∧
      Ends settings (held ++ more ++ [last])) ∨
    Unfinished settings (held ++ lines) := by
  induction lines generalizing held with
  | nil =>
      right
      rwa [List.append_nil]
  | cons line lines ih =>
      by_cases hends : Ends settings (held ++ [line])
      · left
        exact ⟨[], line, lines, rfl, by rwa [List.append_nil], by rwa [List.append_nil]⟩
      · rcases ih (unfinished_concat_iff.2 ⟨hheld, hends⟩) with
          ⟨more, last, rest, rfl, hmore, hlast⟩ | hunfinished
        · left
          refine ⟨line :: more, last, rest, rfl, ?_, ?_⟩
          · rwa [List.append_cons held]
          · rwa [List.append_cons held]
        · right
          rwa [List.append_cons held]

/-- A block that has ended is not unfinished, whatever lines follow. -/
theorem not_unfinished_of_ends (hends : Ends settings (held ++ [last])) :
    ¬ Unfinished settings (held ++ last :: rest) := by
  intro hunfinished
  refine hunfinished (held ++ [last]) (by simp) ?_ hends
  rw [List.append_cons held last rest]
  exact List.prefix_append _ _

/-- The line that ends a block is the first to do so. -/
theorem end_unique {others laterLines : List String} {other : String}
    (hheld : Unfinished settings held) (hends : Ends settings (held ++ [last]))
    (hothers : Unfinished settings others) (hotherEnds : Ends settings (others ++ [other]))
    (hlines : held ++ last :: rest = others ++ other :: laterLines) :
    held = others ∧ last = other ∧ rest = laterLines := by
  rcases List.append_eq_append_iff.1 hlines with ⟨between, rfl, hbetween⟩ | ⟨between, rfl, hbetween⟩
  · cases between with
    | nil => simpa using hbetween
    | cons first between =>
        obtain rfl : last = first := (List.cons.inj hbetween).1
        exact absurd hothers (not_unfinished_of_ends hends)
  · cases between with
    | nil => simpa [eq_comm] using hbetween
    | cons first between =>
        obtain rfl : other = first := (List.cons.inj hbetween).1
        exact absurd hheld (not_unfinished_of_ends hotherEnds)

end Block

/-! ### Cuts -/

/-- A piece of the input with the settings under which it is taken. -/
inductive Piece where
  | blank (line : String)
  | command (settings : Settings) (line : String)
  | block (settings : Settings) (lines : List String)
deriving DecidableEq, Repr

/-- How the input ends: at a line that asks for it, the lines behind it being ignored,
or at the end of the lines, those of an open block being dropped. -/
inductive Ending where
  | exit (line : String) (ignored : List String)
  | endOfInput (settings : Settings) (dropped : List String)
deriving DecidableEq, Repr

/-- The grammar that a command selects, if it is one that selects a grammar. -/
def ConsoleCommand.selected? : ConsoleCommand → Option Grammar
  | .setGrammar name => Grammar.ofName? (String.ofList (name.toList.map Char.toLower))
  | _ => none

/-- The settings after a command. -/
def Settings.after (settings : Settings) (command : ConsoleCommand) : Settings :=
  { settings with grammar := command.selected?.getD settings.grammar }

namespace Piece

def lines : Piece → List String
  | blank line => [line]
  | command _ line => [line]
  | block _ lines => lines

/-- The grammar that a piece of the input selects for what comes after it. -/
def selected? : Piece → Option Grammar
  | command _ line => (Line.command line).selected?
  | _ => none

end Piece

def Ending.lines : Ending → List String
  | exit line ignored => line :: ignored
  | endOfInput _ dropped => dropped

/-- The pieces that lines are cut into under some settings, and how they end. -/
inductive Cut : Settings → List String → List Piece → Ending → Prop
  | exit {settings : Settings} {line : String} {ignored : List String}
      (hkind : Line.kind line = .exit) :
      Cut settings (line :: ignored) [] (.exit line ignored)
  | endOfInput {settings : Settings} {dropped : List String}
      (hstarts : Block.Starts dropped) (hunfinished : Block.Unfinished settings dropped) :
      Cut settings dropped [] (.endOfInput settings dropped)
  | blank {settings : Settings} {line : String} {rest : List String} {pieces : List Piece}
      {ending : Ending} (hkind : Line.kind line = .blank)
      (hrest : Cut settings rest pieces ending) :
      Cut settings (line :: rest) (.blank line :: pieces) ending
  | command {settings : Settings} {line : String} {rest : List String} {pieces : List Piece}
      {ending : Ending} (hkind : Line.kind line = .command)
      (hrest : Cut (settings.after (Line.command line)) rest pieces ending) :
      Cut settings (line :: rest) (.command settings line :: pieces) ending
  | block {settings : Settings} {held : List String} {last : String} {lines rest : List String}
      {pieces : List Piece} {ending : Ending} (hlines : lines = held ++ last :: rest)
      (hstarts : Block.Starts lines) (hheld : Block.Unfinished settings held)
      (hends : Block.Ends settings (held ++ [last])) (hrest : Cut settings rest pieces ending) :
      Cut settings lines (.block settings (held ++ [last]) :: pieces) ending

namespace Cut

variable {settings : Settings} {lines : List String} {pieces others : List Piece}
  {ending otherEnding : Ending}

/-- Every line lies in one piece, in order. -/
theorem lines_eq (hcut : Cut settings lines pieces ending) :
    lines = pieces.flatMap Piece.lines ++ ending.lines := by
  induction hcut with
  | exit hkind => rfl
  | endOfInput hstarts hunfinished => rfl
  | blank hkind hrest ih => simpa [Piece.lines] using ih
  | command hkind hrest ih => simpa [Piece.lines] using ih
  | block hlines hstarts hheld hends hrest ih => simpa [hlines, Piece.lines] using ih

theorem exists_cut (settings : Settings) (lines : List String) :
    ∃ pieces ending, Cut settings lines pieces ending := by
  -- The rest behind a piece is shorter than the lines, whichever piece it is.
  induction hlength : lines.length using Nat.strongRecOn generalizing settings lines with
  | ind length ih =>
      cases lines with
      | nil => exact ⟨[], _, .endOfInput (by simp [Block.Starts]) Block.unfinished_nil⟩
      | cons line rest =>
          have hrest := ih rest.length (by simp [← hlength])
          cases hkind : Line.kind line with
          | blank =>
              obtain ⟨pieces, ending, hcut⟩ := hrest settings rest rfl
              exact ⟨_, _, .blank hkind hcut⟩
          | exit => exact ⟨[], _, .exit hkind⟩
          | command =>
              obtain ⟨pieces, ending, hcut⟩ := hrest (settings.after (Line.command line)) rest rfl
              exact ⟨_, _, .command hkind hcut⟩
          | text =>
              have hstarts : Block.Starts (line :: rest) := by simpa [Block.Starts] using hkind
              rcases Block.exists_end_or_unfinished Block.unfinished_nil (line :: rest) with
                ⟨held, last, behind, hlines, hheld, hends⟩ | hunfinished
              · obtain ⟨pieces, ending, hcut⟩ := ih behind.length
                  (by rw [← hlength, hlines]; simp; omega) settings behind rfl
                exact ⟨_, _, .block hlines hstarts hheld hends hcut⟩
              · exact ⟨[], _, .endOfInput hstarts hunfinished⟩

/-! Which piece comes first is settled by the first line, or by the first line that ends
the block. -/

section First

variable {line last : String} {held rest : List String}

theorem of_exit (hkind : Line.kind line = .exit)
    (hcut : Cut settings (line :: rest) pieces ending) :
    pieces = [] ∧ ending = .exit line rest := by
  cases hcut with
  | exit _ => exact ⟨rfl, rfl⟩
  | endOfInput hstarts _ => simp [Block.Starts, hkind] at hstarts
  | blank hother _ => simp [hkind] at hother
  | command hother _ => simp [hkind] at hother
  | block _ hstarts _ _ _ => simp [Block.Starts, hkind] at hstarts

theorem of_blank (hkind : Line.kind line = .blank)
    (hcut : Cut settings (line :: rest) pieces ending) :
    ∃ later, pieces = .blank line :: later ∧ Cut settings rest later ending := by
  cases hcut with
  | exit hother => simp [hkind] at hother
  | endOfInput hstarts _ => simp [Block.Starts, hkind] at hstarts
  | blank _ hrest => exact ⟨_, rfl, hrest⟩
  | command hother _ => simp [hkind] at hother
  | block _ hstarts _ _ _ => simp [Block.Starts, hkind] at hstarts

theorem of_command (hkind : Line.kind line = .command)
    (hcut : Cut settings (line :: rest) pieces ending) :
    ∃ later, pieces = .command settings line :: later ∧
      Cut (settings.after (Line.command line)) rest later ending := by
  cases hcut with
  | exit hother => simp [hkind] at hother
  | endOfInput hstarts _ => simp [Block.Starts, hkind] at hstarts
  | blank hother _ => simp [hkind] at hother
  | command _ hrest => exact ⟨_, rfl, hrest⟩
  | block _ hstarts _ _ _ => simp [Block.Starts, hkind] at hstarts

theorem of_unfinished (hstarts : Block.Starts lines)
    (hunfinished : Block.Unfinished settings lines)
    (hcut : Cut settings lines pieces ending) :
    pieces = [] ∧ ending = .endOfInput settings lines := by
  cases hcut with
  | exit hother => simp [Block.Starts, hother] at hstarts
  | endOfInput _ _ => exact ⟨rfl, rfl⟩
  | blank hother _ => simp [Block.Starts, hother] at hstarts
  | command hother _ => simp [Block.Starts, hother] at hstarts
  | block hlines _ _ hends _ =>
      rw [hlines] at hunfinished
      exact absurd hunfinished (Block.not_unfinished_of_ends hends)

theorem of_ends (hlines : lines = held ++ last :: rest) (hstarts : Block.Starts lines)
    (hheld : Block.Unfinished settings held) (hends : Block.Ends settings (held ++ [last]))
    (hcut : Cut settings lines pieces ending) :
    ∃ later, pieces = .block settings (held ++ [last]) :: later ∧
      Cut settings rest later ending := by
  cases hcut with
  | exit hother => simp [Block.Starts, hother] at hstarts
  | endOfInput _ hunfinished =>
      rw [hlines] at hunfinished
      exact absurd hunfinished (Block.not_unfinished_of_ends hends)
  | blank hother _ => simp [Block.Starts, hother] at hstarts
  | command hother _ => simp [Block.Starts, hother] at hstarts
  | block hotherLines _ hotherHeld hotherEnds hrest =>
      obtain ⟨rfl, rfl, rfl⟩ := Block.end_unique hheld hends hotherHeld hotherEnds
        (hlines.symm.trans hotherLines)
      exact ⟨_, rfl, hrest⟩

end First

/-- Lines are cut in one way only. -/
theorem unique (hcut : Cut settings lines pieces ending)
    (hother : Cut settings lines others otherEnding) :
    others = pieces ∧ otherEnding = ending := by
  induction hcut generalizing others with
  | exit hkind => exact of_exit hkind hother
  | endOfInput hstarts hunfinished => exact of_unfinished hstarts hunfinished hother
  | blank hkind hrest ih =>
      obtain ⟨later, rfl, hlater⟩ := of_blank hkind hother
      obtain ⟨rfl, rfl⟩ := ih hlater
      exact ⟨rfl, rfl⟩
  | command hkind hrest ih =>
      obtain ⟨later, rfl, hlater⟩ := of_command hkind hother
      obtain ⟨rfl, rfl⟩ := ih hlater
      exact ⟨rfl, rfl⟩
  | block hlines hstarts hheld hends hrest ih =>
      obtain ⟨later, rfl, hlater⟩ := of_ends hlines hstarts hheld hends hother
      obtain ⟨rfl, rfl⟩ := ih hlater
      exact ⟨rfl, rfl⟩

/-- A block is taken under the flags of the beginning and the grammar that was selected
last before it. -/
theorem settings_of_block (hcut : Cut settings lines pieces ending)
    {before later : List Piece} {blockSettings : Settings} {block : List String}
    (hpieces : pieces = before ++ .block blockSettings block :: later) :
    blockSettings =
      { settings with
        grammar := (before.filterMap Piece.selected?).getLastD settings.grammar } := by
  induction hcut generalizing before with
  | exit hkind => simp at hpieces
  | endOfInput hstarts hunfinished => simp at hpieces
  | blank hkind hrest ih =>
      cases before with
      | nil => simp at hpieces
      | cons first before =>
          obtain ⟨rfl, hlater⟩ := List.cons.inj hpieces
          rw [ih hlater]
          rfl
  | command hkind hrest ih =>
      cases before with
      | nil => simp at hpieces
      | cons first before =>
          obtain ⟨rfl, hlater⟩ := List.cons.inj hpieces
          rw [ih hlater, Settings.after, List.filterMap_cons, Piece.selected?]
          cases (Line.command _).selected? with
          | none => rfl
          | some grammar => simp only [List.getLastD_cons, Option.getD_some]
  | block hlines hstarts hheld hends hrest ih =>
      cases before with
      | nil =>
          obtain ⟨hblock, -⟩ := List.cons.inj hpieces
          cases hblock
          rfl
      | cons first before =>
          obtain ⟨rfl, hlater⟩ := List.cons.inj hpieces
          rw [ih hlater]
          rfl

end Cut

end Calculator
