import Calculator.Proofs.Grammar.Blame
import Calculator.Proofs.Source.Excerpt

/-!
# Reports on three lines

The report of an error of a source is its text and the two lines of its excerpt.  The
text takes up a single line, since what it quotes of the source is a token and no token
has a line break in it.  The excerpt is about the token that is blamed, which the carets
underline.
-/

namespace Calculator

/-! ### Texts without a line break -/

/-- The text has no line break in it. -/
def OneLine (text : String) : Prop :=
  '\n' ∉ text.toList

instance (text : String) : Decidable (OneLine text) :=
  inferInstanceAs (Decidable ('\n' ∉ text.toList))

theorem OneLine.append {first second : String} (hfirst : OneLine first)
    (hsecond : OneLine second) : OneLine (first ++ second) := by
  rw [OneLine, String.toList_append, List.mem_append, not_or]
  exact ⟨hfirst, hsecond⟩

theorem OneLine.ofNat (number : Nat) : OneLine (toString number) := by
  rw [OneLine, Nat.toString_eq_ofList_toDigits, String.toList_ofList]
  intro hmem
  exact absurd (Nat.isDigit_of_mem_toDigits (by decide) (by decide) hmem) (by decide)

theorem Token.CutFrom.oneLine {source : List Char} {token : Token}
    (hcut : token.CutFrom source) : OneLine token.text := by
  intro hmem
  exact hcut.solid _ hmem (by decide)

theorem Expectation.oneLine_text (expected : Expectation) : OneLine expected.text := by
  cases expected with
  | closing opening =>
      have hquoted : OneLine "`)` to close `(` at offset " := by decide
      exact hquoted.append (OneLine.ofNat opening.start)
  | _ => decide

theorem Problem.oneLine_message {problem : Problem}
    (hculprit : ∀ token ∈ problem.culprit?, OneLine token.text) (limit finish : Nat)
    (source : Option String) : OneLine (problem.error limit finish source).message := by
  have hexpected : OneLine "expected " := by decide
  cases problem with
  | ambiguous literal =>
      have hopening : OneLine "numeric literal `" := by decide
      exact (hopening.append (hculprit literal rfl)).append (by decide)
  | unexpected expected found =>
      exact (((hexpected.append expected.oneLine_text).append (by decide)).append
        (hculprit found rfl)).append (by decide)
  | ended expected => exact (hexpected.append expected.oneLine_text).append (by decide)
  | tooDeep token =>
      have hopening : OneLine "expression nests deeper than " := by decide
      exact (hopening.append (OneLine.ofNat limit)).append (by decide)

namespace SyntaxError

variable {error : SyntaxError}

theorem oneLine_place (error : SyntaxError) : OneLine error.place := by
  rw [place]
  split
  · rename_i position _
    have hline : OneLine "line " := by decide
    exact ((hline.append (OneLine.ofNat _)).append (by decide)).append (OneLine.ofNat _)
  · have hoffset : OneLine "offset " := by decide
    exact hoffset.append (OneLine.ofNat _)

theorem oneLine_text (hmessage : OneLine error.message) : OneLine error.text := by
  have hkind : OneLine error.kind.text := by cases error.kind <;> decide
  exact (((hkind.append (by decide)).append hmessage).append (by decide)).append
    error.oneLine_place

theorem report_of_excerpt {lines : String} (hexcerpt : error.excerpt = some lines) :
    error.report.toList = error.text.toList ++ '\n' :: lines.toList := by
  rw [report, hexcerpt, String.toList_append, String.toList_append, List.append_assoc]
  rfl

/-- An error is reported on three lines, and the last two of them show the token that
is blamed. -/
structure Illustrated (source : String) (shown marks : List Char) (error : SyntaxError) :
    Prop where
  report : error.report.toList = error.text.toList ++ '\n' :: (shown ++ '\n' :: marks)
  unbroken : '\n' ∉ error.text.toList ∧ '\n' ∉ shown ∧ '\n' ∉ marks
  token : error.kind ≠ .unexpectedEnding → ∃ token ∈ tokenize source,
    error.offset = token.start ∧
      Excerpt.Shows source.toList token.start token.length shown marks ∧
      (token.kind ≠ .unknown → Excerpt.Underlines token.text.toList shown marks)

end SyntaxError

/-! ### Blamed tokens -/

/-- What is blamed is one of the tokens. -/
theorem Problem.MetAt.culprit_mem {tokens passed : List Token} {stop : Cursor} {problem : Problem}
    {token : Token} (hmet : problem.MetAt passed stop.rest) (hpast : stop.Past tokens passed)
    (hculprit : problem.culprit? = some token) : token ∈ tokens := by
  obtain ⟨index, hindex, -⟩ := hmet.exists_index hpast.numbers hculprit
  rw [hpast.split] at hindex
  exact List.mem_of_getElem? hindex

/-- An excerpt about a token of the source shows it whole, unless it is unknown. -/
theorem Excerpt.shows_token {source : String} {token : Token} {shown marks : List Char}
    (hmem : token ∈ tokenize source)
    (hshows : Shows source.toList (min token.start source.length) token.length shown marks) :
    Shows source.toList token.start token.length shown marks ∧
      (token.kind ≠ .unknown → Underlines token.text.toList shown marks) := by
  have hcut := (segmentation_tokenize source).cut token hmem
  have hinside : token.start ≤ source.length := by
    rw [← String.length_toList]
    exact Nat.le_trans (Nat.le_add_right _ _) hcut.inside
  rw [Nat.min_eq_left hinside] at hshows
  refine ⟨hshows, ?_⟩
  intro hknown
  exact underlines_of_cutFrom hcut (fun _ => hcut.isBlank_eq_false hknown) hshows

/-- A problem that blames no more than a token of the source is reported on three
lines. -/
theorem Problem.illustrated_error {source : String} {problem : Problem}
    (hculprit : ∀ token ∈ problem.culprit?, token ∈ tokenize source) (limit finish : Nat) :
    ∃ shown marks, (problem.error limit finish (some source)).Illustrated source shown marks := by
  obtain ⟨shown, marks, hlines, hshows⟩ := Excerpt.shows_excerpt source
    (problem.error limit finish (some source)).offset problem.span
  have hmessage : OneLine (problem.error limit finish (some source)).message := by
    apply oneLine_message
    intro token hblamed
    exact ((segmentation_tokenize source).cut token (hculprit token hblamed)).oneLine
  refine ⟨shown, marks, ?_, ⟨SyntaxError.oneLine_text hmessage, hshows.unbroken⟩, ?_⟩
  · rw [SyntaxError.report_of_excerpt (problem.excerpt_error limit finish source), hlines]
  · intro hkind
    rw [problem.kind_error] at hkind
    obtain ⟨token, hblamed⟩ := exists_culprit hkind
    have hoffset := offset_error hblamed limit finish (some source)
    have hspan : problem.span = token.length := by
      rw [span, hblamed]
      rfl
    rw [hoffset, hspan] at hshows
    have hmem := hculprit token hblamed
    exact ⟨token, hmem, hoffset, Excerpt.shows_token hmem hshows⟩

/-- An excerpt has two lines: the source around the place on one line, trimmed at its
end, and carets under the characters meant, as far as these are shown and in the same
columns.  An error of a source is reported on its text and these two lines, which show
the token that is blamed whole above its carets, unless it is unknown. -/
theorem excerpt_underlines_source :
    (∀ (source : String) (offset length : Nat), ∃ shown marks,
      (excerpt source offset length).toList = shown ++ '\n' :: marks ∧
        Excerpt.Shows source.toList (min offset source.length) length shown marks) ∧
      ∀ (source : String) (grammar : Grammar) (limit : Nat) (error : SyntaxError),
        ({ Reader.ofSource source with grammar, limit } : Reader).program = .error error →
        ∃ shown marks, error.Illustrated source shown marks := by
  refine ⟨Excerpt.shows_excerpt, ?_⟩
  intro source grammar limit error hfailed
  obtain ⟨problem, passed, rfl, hpast, hmet⟩ := Reader.exists_met_of_error hfailed
  apply Problem.illustrated_error
  intro token hblamed
  exact hmet.culprit_mem hpast hblamed

/-- In the report on `1+2` and `*1.2.3` on the next line, the number with two dots is
shown whole. -/
theorem excerpt_underlines_source_at_second_dot :
    ∃ error shown marks, ({ Reader.ofSource "1+2\n*1.2.3 " with
        grammar := .precedence, limit := 4 } : Reader).program = .error error ∧
      error.kind ≠ .unexpectedEnding ∧
      error.Illustrated "1+2\n*1.2.3 " shown marks := by
  have houtcome : ({ Reader.ofSource "1+2\n*1.2.3 " with
      grammar := .precedence, limit := 4 } : Reader).outcome =
        .failed (.ambiguous ⟨.number, "1.2.3", 5⟩) ⟨[⟨.number, "1.2.3", 5⟩], 0⟩ := by
    cbv
  have hfailed := Reader.program_of_failed houtcome
  obtain ⟨shown, marks, hillustrated⟩ :=
    excerpt_underlines_source.2 "1+2\n*1.2.3 " .precedence 4 _ hfailed
  exact ⟨_, shown, marks, hfailed, by decide, hillustrated⟩

end Calculator
