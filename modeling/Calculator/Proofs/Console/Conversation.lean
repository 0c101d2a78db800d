import Calculator.Proofs.Code.StackHeight
import Calculator.Proofs.Console.Blocks

/-!
# Conversations piece by piece

A conversation over lines is what its pieces lead to, one after the other.  A block
is reported once, when its last line has been taken, just as a session that has not
evaluated anything before reports its text.  Nothing but the settings is carried from
one piece to the next: the machine starts every run afresh, and no text is held back
between two pieces.
-/

namespace Calculator

/-! ### Evaluation -/

namespace Session

variable (session : Session) (text : String)

/-- What was evaluated before does not matter. -/
theorem evaluate_fst : (session.evaluate text).1 = session.settings.evaluate text := by
  have hrun (code : Code) : session.machine.run code = ({} : Machine).run code :=
    session.machine.run_eq_run {} code
  simp only [Settings.evaluate, evaluate, hrun]
  cases parse text session.settings.grammar with
  | error error => rfl
  | ok program => cases (({} : Machine).run program.lower).1 <;> rfl

theorem settings_evaluate : (session.evaluate text).2.settings = session.settings := by
  simp only [evaluate]
  split
  · rfl
  · split <;> rfl

end Session

namespace Settings

variable {settings : Settings} {text : String}

/-- Only a text that could not be read wants more input, and of such a text no more
than the tokens are dumped. -/
theorem dumps_of_isIncomplete (hincomplete : (settings.evaluate text).isIncomplete = true) :
    (settings.evaluate text).dumps = settings.dumps [.tokens (tokenize text)] := by
  simp only [evaluate, Session.evaluate] at hincomplete ⊢
  cases hparse : parse text settings.grammar with
  | error error => exact settings.emit_nil _
  | ok program =>
      simp only [hparse] at hincomplete
      cases hrun : (({} : Machine).run program.lower).1 with
      | error fault =>
          simp [hrun, Evaluation.isIncomplete, Failure.isIncomplete] at hincomplete
      | ok values => simp [hrun, Evaluation.isIncomplete] at hincomplete

/-- What is shown of a text that has been evaluated and is not held back. -/
def report (settings : Settings) (text : String) : List Output :=
  (settings.evaluate text).dumps.map Output.resultLine ++
    match (settings.evaluate text).result with
    | .ok trace => Output.resultLineUnlessEmpty (settings.results trace.values)
    | .error failure => [Output.diagnosticLine failure.report]

/-- What is shown of a text that is held back: its tokens, if they are to be dumped and
no parenthesis is open. -/
def trial (settings : Settings) (text : String) : List Output :=
  if Console.parensClosed text then
    (settings.dumps [.tokens (tokenize text)]).map Output.resultLine
  else []

end Settings

/-! ### What pieces lead to -/

namespace Block

/-- The prompt after some lines of a block, or outside any block after none. -/
def prompt (held : List String) : Output :=
  .result (if held = [] then "> " else "... ")

/-- What is shown while lines are added to those held back. -/
def heldOutputs (settings : Settings) : (held lines : List String) → List Output
  | _, [] => []
  | held, line :: lines =>
      prompt held :: settings.trial (Line.joined (held ++ [line])) ++
        heldOutputs settings (held ++ [line]) lines

end Block

/-- What is shown over a piece, prompts included. -/
def Piece.outputs : Piece → List Output
  | blank _ => [Block.prompt []]
  | command settings line =>
      [Block.prompt [], Output.resultLine ((Line.command line).run { settings }).1]
  | block settings lines =>
      Block.heldOutputs settings [] lines.dropLast ++
        Block.prompt lines.dropLast :: settings.report (Line.joined lines)

def Ending.outputs : Ending → List Output
  | exit _ _ => [Block.prompt [], .result "Goodbye!\n"]
  | endOfInput settings dropped =>
      Block.heldOutputs settings [] dropped ++ [Block.prompt dropped, Conversation.farewell]

/-! ### Turns -/

namespace Console

variable {session : Session} {held : List String} {line text : String}

/-- The console between two lines, with the lines of a block that are held back. -/
def holding (session : Session) (held : List String) : Console :=
  ⟨session, if held = [] then none else some (Line.joined held)⟩

theorem holding_concat (session : Session) (held : List String) (line : String) :
    holding session (held ++ [line]) = ⟨session, some (Line.joined (held ++ [line]))⟩ := by
  simp [holding]

theorem prompt_holding : (holding session held).prompt = Block.prompt held := by
  by_cases hheld : held = [] <;> simp [prompt, holding, Block.prompt, hheld]

/-- A text that completes, or may not be held back, is reported. -/
theorem submit_of_done {pending : Option String} {final : Bool}
    (hdone : session.settings.Completes text ∨ final = true) :
    ∃ after : Session, after.settings = session.settings ∧
      (⟨session, pending⟩ : Console).submit text final =
        ⟨session.settings.report text, ⟨after, none⟩, false⟩ := by
  have hopen : (!final && !parensClosed text) = false := by
    rcases hdone with hcompletes | hfinal
    · simp [hcompletes.1]
    · simp [hfinal]
  refine ⟨(session.evaluate text).2, session.settings_evaluate text, ?_⟩
  simp only [submit, hopen, Settings.report, Session.evaluate_fst, Session.settings_evaluate]
  cases hresult : (session.settings.evaluate text).result with
  | ok trace => rfl
  | error failure =>
      have hreported : (failure.isIncomplete && !final) = false := by
        rcases hdone with hcompletes | hfinal
        · have hcomplete := hcompletes.2
          simp only [Evaluation.isIncomplete, hresult] at hcomplete
          simp [hcomplete]
        · simp [hfinal]
      simp [hreported]

/-- Any other text is held back. -/
theorem submit_of_not_done {pending : Option String}
    (hcompletes : ¬ session.settings.Completes text) :
    ∃ after : Session, after.settings = session.settings ∧
      (⟨session, pending⟩ : Console).submit text false =
        ⟨session.settings.trial text, ⟨after, some text⟩, false⟩ := by
  cases hclosed : parensClosed text with
  | false =>
      refine ⟨session, rfl, ?_⟩
      simp [submit, hclosed, Settings.trial, hold]
  | true =>
      have hincomplete : (session.settings.evaluate text).isIncomplete = true := by
        simpa [Settings.Completes, hclosed] using hcompletes
      have hdumps := Settings.dumps_of_isIncomplete hincomplete
      refine ⟨(session.evaluate text).2, session.settings_evaluate text, ?_⟩
      simp only [submit, hclosed, Settings.trial, Session.evaluate_fst, hdumps]
      cases hresult : (session.settings.evaluate text).result with
      | ok trace => simp [Evaluation.isIncomplete, hresult] at hincomplete
      | error failure =>
          simp only [Evaluation.isIncomplete, hresult] at hincomplete
          simp [hincomplete]

/-- Outside any block, what is done with a line goes by its kind. -/
theorem take_holding_nil (session : Session) (line : String) :
    (holding session []).take line =
      match Line.kind line with
      | .blank => ⟨[], holding session [], false⟩
      | .exit => ⟨[.result "Goodbye!\n"], holding session [], true⟩
      | .command =>
          ⟨[Output.resultLine ((Line.command line).run session).1],
            holding ((Line.command line).run session).2 [], false⟩
      | .text => (holding session []).submit line false := by
  simp only [take, holding, takeFirst, Line.kind, Line.command]
  generalize ".exit".toList = exit
  by_cases hblank : Text.trim line.toList = []
  · simp [hblank]
  · by_cases hexit : Text.trim line.toList = exit
    · simp [hexit, hexit ▸ hblank]
    · by_cases hdot : (Text.trim line.toList).head? = some '.'
      · simp [hblank, hexit, hdot]
      · simp [hblank, hexit, hdot]

/-- A line of a block is put behind the lines held back. -/
theorem take_holding (hfirst : held = [] → Line.kind line = .text) :
    (holding session held).take line =
      (holding session held).submit (Line.joined (held ++ [line]))
        (decide (held ≠ [] ∧ Text.trim line.toList = [])) := by
  by_cases hheld : held = []
  · have hkind := hfirst hheld
    subst hheld
    rw [take_holding_nil, hkind, List.nil_append, Line.joined_singleton]
    rfl
  · simp [holding, take, hheld, Line.joined_concat hheld]

/-- The line that ends a block has the block reported, and nothing is held back. -/
theorem take_of_ends (hfirst : held = [] → Line.kind line = .text)
    (hends : Block.Ends session.settings (held ++ [line])) :
    ∃ after : Session, after.settings = session.settings ∧
      (holding session held).take line =
        ⟨session.settings.report (Line.joined (held ++ [line])), holding after [], false⟩ := by
  have hdone : session.settings.Completes (Line.joined (held ++ [line])) ∨
      decide (held ≠ [] ∧ Text.trim line.toList = []) = true := by
    rw [decide_eq_true_iff]
    exact Block.ends_concat_iff.1 hends
  rw [take_holding hfirst]
  exact submit_of_done hdone

/-- Any other line of a block is held back with the lines before it. -/
theorem take_of_not_ends (hfirst : held = [] → Line.kind line = .text)
    (hends : ¬ Block.Ends session.settings (held ++ [line])) :
    ∃ after : Session, after.settings = session.settings ∧
      (holding session held).take line =
        ⟨session.settings.trial (Line.joined (held ++ [line])),
          holding after (held ++ [line]), false⟩ := by
  obtain ⟨hcompletes, hblank⟩ := not_or.1 (mt Block.ends_concat_iff.2 hends)
  obtain ⟨after, hafter, hturn⟩ := submit_of_not_done hcompletes
  refine ⟨after, hafter, ?_⟩
  rw [take_holding hfirst, decide_eq_false hblank, holding_concat]
  exact hturn

end Console

/-! ### Commands -/

namespace ConsoleCommand

variable (command : ConsoleCommand) (session : Session)

/-- The answer to a command does not depend on what was evaluated before. -/
theorem run_fst : (command.run session).1 = (command.run { settings := session.settings }).1 := by
  cases command with
  | help => rfl
  | showGrammar => rfl
  | setGrammar name =>
      unfold run
      dsimp only
      cases Grammar.ofName? (String.ofList (name.toList.map Char.toLower)) with
      | none => rfl
      | some grammar => rfl
  | unknown text => rfl

theorem settings_run : (command.run session).2.settings = session.settings.after command := by
  cases command with
  | help => rfl
  | showGrammar => rfl
  | setGrammar name =>
      unfold run Settings.after selected?
      dsimp only
      cases Grammar.ofName? (String.ofList (name.toList.map Char.toLower)) with
      | none => rfl
      | some grammar => rfl
  | unknown text => rfl

end ConsoleCommand

/-! ### Runs -/

namespace Conversation

open Console (holding)

variable {session : Session} {held lines : List String} {line : String}

@[simp]
theorem outputs_preceded (conversation : Conversation) (outputs : List Output) :
    (conversation.preceded outputs).outputs = outputs ++ conversation.outputs := rfl

@[simp]
theorem failure_preceded (conversation : Conversation) (outputs : List Output) :
    (conversation.preceded outputs).failure = conversation.failure := rfl

theorem preceded_preceded (conversation : Conversation) (first second : List Output) :
    (conversation.preceded second).preceded first = conversation.preceded (first ++ second) := by
  simp [preceded]

/-- A conversation goes on from the console that a turn leaves. -/
theorem ofLines_of_take {console after : Console} {outputs : List Output}
    (hturn : console.take line = ⟨outputs, after, false⟩) (rest : List (Option String)) :
    ofLines console (some line :: rest) =
      (ofLines after rest).preceded (console.prompt :: outputs) := by
  simp [ofLines, hturn]

/-- Lines that do not end a block are held back one after the other. -/
theorem ofLines_of_unfinished (hstarts : held = [] → Block.Starts lines)
    (hunfinished : Block.Unfinished session.settings (held ++ lines))
    (rest : List (Option String)) :
    ∃ after : Session, after.settings = session.settings ∧
      ofLines (holding session held) (lines.map some ++ rest) =
        (ofLines (holding after (held ++ lines)) rest).preceded
          (Block.heldOutputs session.settings held lines) := by
  -- The lines to come grow shorter while those held back grow; the session may change at
  -- every line, but not its settings.
  induction lines generalizing session held with
  | nil => exact ⟨session, rfl, by rw [List.append_nil]; rfl⟩
  | cons line lines ih =>
      rw [List.append_cons held] at hunfinished
      have hline := (Block.unfinished_concat_iff.1 hunfinished.of_append).2
      have hfirst : held = [] → Line.kind line = .text := by
        intro hheld
        exact hstarts hheld line rfl
      obtain ⟨middle, hmiddle, hturn⟩ := Console.take_of_not_ends hfirst hline
      rw [← hmiddle] at hunfinished
      obtain ⟨after, hafter, hlines⟩ := ih (by simp) hunfinished
      refine ⟨after, hafter.trans hmiddle, ?_⟩
      calc
        ofLines (holding session held) ((line :: lines).map some ++ rest) =
            (ofLines (holding middle (held ++ [line])) (lines.map some ++ rest)).preceded
              (Block.prompt held ::
                session.settings.trial (Line.joined (held ++ [line]))) := by
          rw [List.map_cons, List.cons_append, ofLines_of_take hturn, Console.prompt_holding]
        _ = (ofLines (holding after (held ++ line :: lines)) rest).preceded
              (Block.heldOutputs session.settings held (line :: lines)) := by
          rw [hlines, preceded_preceded, hmiddle, ← List.append_cons]
          rfl

/-- A block is taken whole, and reported at its end. -/
theorem ofLines_of_block {last : String} (hstarts : Block.Starts (held ++ [last]))
    (hheld : Block.Unfinished session.settings held)
    (hends : Block.Ends session.settings (held ++ [last])) (rest : List (Option String)) :
    ∃ after : Session, after.settings = session.settings ∧
      ofLines (holding session []) ((held ++ [last]).map some ++ rest) =
        (ofLines (holding after []) rest).preceded
          (Piece.block session.settings (held ++ [last])).outputs := by
  have hunfinished : Block.Unfinished session.settings ([] ++ held) := hheld
  obtain ⟨middle, hmiddle, hlines⟩ :=
    ofLines_of_unfinished (fun _ => hstarts.of_append) hunfinished (some last :: rest)
  have hfirst : held = [] → Line.kind last = .text := by
    rintro rfl
    exact hstarts last rfl
  rw [← hmiddle] at hends
  obtain ⟨after, hafter, hturn⟩ := Console.take_of_ends hfirst hends
  refine ⟨after, hafter.trans hmiddle, ?_⟩
  calc
    ofLines (holding session []) ((held ++ [last]).map some ++ rest) =
        (ofLines (holding middle held) (some last :: rest)).preceded
          (Block.heldOutputs session.settings [] held) := by
      rw [List.map_append, List.append_assoc]
      exact hlines
    _ = ((ofLines (holding after []) rest).preceded
          (Block.prompt held :: middle.settings.report (Line.joined (held ++ [last])))).preceded
            (Block.heldOutputs session.settings [] held) := by
      rw [ofLines_of_take hturn, Console.prompt_holding]
    _ = (ofLines (holding after []) rest).preceded
          (Piece.block session.settings (held ++ [last])).outputs := by
      rw [preceded_preceded, hmiddle, Piece.outputs, List.dropLast_concat]

/-- A conversation shows what the pieces of its lines lead to, in order, and what their
ending leads to. -/
theorem outputs_of_cut {settings : Settings} {pieces : List Piece} {ending : Ending}
    (hcut : Cut settings lines pieces ending) (hsession : session.settings = settings) :
    (ofLines (holding session []) (lines.map some)).outputs =
        pieces.flatMap Piece.outputs ++ ending.outputs ∧
      (ofLines (holding session []) (lines.map some)).failure = none := by
  induction hcut generalizing session with
  | @exit settings line ignored hkind =>
      have hturn := Console.take_holding_nil session line
      rw [hkind] at hturn
      simp [ofLines, hturn, Console.prompt_holding, Ending.outputs]
  | @endOfInput settings dropped hstarts hunfinished =>
      rw [← hsession] at hunfinished ⊢
      have hdropped : Block.Unfinished session.settings ([] ++ dropped) := hunfinished
      obtain ⟨after, -, hlines⟩ := ofLines_of_unfinished (fun _ => hstarts) hdropped []
      rw [List.append_nil] at hlines
      rw [hlines]
      simp [ofLines, Console.prompt_holding, Ending.outputs]
  | @blank settings line rest pieces ending hkind hrest ih =>
      have hturn := Console.take_holding_nil session line
      rw [hkind] at hturn
      obtain ⟨houtputs, hfailure⟩ := ih hsession
      rw [List.map_cons, ofLines_of_take hturn]
      simp [houtputs, hfailure, Console.prompt_holding, Piece.outputs]
  | @command settings line rest pieces ending hkind hrest ih =>
      have hturn := Console.take_holding_nil session line
      rw [hkind] at hturn
      have hsettings := (Line.command line).settings_run session
      rw [hsession] at hsettings
      obtain ⟨houtputs, hfailure⟩ := ih hsettings
      rw [List.map_cons, ofLines_of_take hturn]
      simp [houtputs, hfailure, Console.prompt_holding, Piece.outputs,
        (Line.command line).run_fst session, hsession]
  | @block settings held last lines rest pieces ending hlines hstarts hheld hends hrest ih =>
      rw [← hsession] at hheld hends
      rw [List.append_cons] at hlines
      rw [hlines] at hstarts ⊢
      obtain ⟨after, hafter, hconversation⟩ :=
        ofLines_of_block hstarts.of_append hheld hends (rest.map some)
      obtain ⟨houtputs, hfailure⟩ := ih (hafter.trans hsession)
      rw [List.map_append, hconversation]
      simp [houtputs, hfailure, hsession]

end Conversation

/-! ### What is held back -/

namespace Console

/-- The console after some lines. -/
def after (console : Console) (lines : List String) : Console :=
  lines.foldl (fun console line => (console.take line).console) console

/-- A text that is held back is not empty. -/
def Buffers (console : Console) : Prop :=
  ∀ text, console.pending = some text → text ≠ ""

theorem pending_submit (console : Console) (text : String) (final : Bool) :
    (console.submit text final).console.pending = none ∨
      (console.submit text final).console.pending = some text := by
  rw [submit]
  split
  · exact .inr rfl
  · dsimp only
    split
    · exact .inl rfl
    · split
      · exact .inr rfl
      · exact .inl rfl

theorem buffers_submit {text : String} (htext : text ≠ "") (console : Console) (final : Bool) :
    (console.submit text final).console.Buffers := by
  intro held hheld
  rcases console.pending_submit text final with hnone | hsome
  · rw [hnone] at hheld
    exact nomatch hheld
  · rw [hsome] at hheld
    obtain rfl : text = held := Option.some.inj hheld
    exact htext

/-- A line keeps it so that no empty text is held back. -/
theorem Buffers.take {console : Console} (hbuffers : console.Buffers) (line : String) :
    (console.take line).console.Buffers := by
  obtain ⟨session, pending⟩ := console
  cases pending with
  | none =>
      have hturn := take_holding_nil session line
      rw [holding, if_pos rfl] at hturn
      rw [hturn]
      cases hkind : Line.kind line with
      | blank => exact hbuffers
      | exit => exact hbuffers
      | command =>
          intro text htext
          exact nomatch htext
      | text =>
          apply buffers_submit
          rintro rfl
          exact nomatch hkind
  | some text =>
      apply buffers_submit
      simp

theorem Buffers.after {console : Console} (hbuffers : console.Buffers) (lines : List String) :
    (console.after lines).Buffers := by
  induction lines generalizing console with
  | nil => exact hbuffers
  | cons line lines ih => exact ih (hbuffers.take line)

/-- The text held back is empty just if none is held back. -/
theorem Buffers.getD_ne_iff {console : Console} (hbuffers : console.Buffers) :
    console.pending.getD "" ≠ "" ↔ console.pending.isSome = true := by
  cases hpending : console.pending with
  | none => simp
  | some text => simpa using hbuffers text hpending

end Console

/-- Lines are cut into pieces in exactly one way, and every line lies in one of them.  A
block is taken under the flags of the session and the grammar selected last before it.
The conversation shows what the pieces lead to, one after the other, each block reported
once and on its own; and whenever a line is asked for, the text held back is empty just
if none is held back. -/
theorem Conversation.ofLines_piecewise (session : Session) (lines : List String) :
    ∃ pieces ending,
      (∀ others otherEnding, Cut session.settings lines others otherEnding ↔
        others = pieces ∧ otherEnding = ending) ∧
      lines = pieces.flatMap Piece.lines ++ ending.lines ∧
      (∀ before settings block later, pieces = before ++ .block settings block :: later →
        settings =
          { session.settings with
            grammar :=
              (before.filterMap Piece.selected?).getLastD session.settings.grammar }) ∧
      (ofLines { session } (lines.map some)).outputs =
        pieces.flatMap Piece.outputs ++ ending.outputs ∧
      (ofLines { session } (lines.map some)).failure = none ∧
      ∀ initial, initial <+: lines →
        ((({ session } : Console).after initial).pending.getD "" ≠ "" ↔
          (({ session } : Console).after initial).pending.isSome = true) := by
  obtain ⟨pieces, ending, hcut⟩ := Cut.exists_cut session.settings lines
  obtain ⟨houtputs, hfailure⟩ := outputs_of_cut hcut rfl
  have hstart : ({ session } : Console).Buffers := by
    intro text htext
    exact nomatch htext
  refine ⟨pieces, ending, ?_, hcut.lines_eq, ?_, houtputs, hfailure, ?_⟩
  · intro others otherEnding
    constructor
    · exact hcut.unique
    · rintro ⟨rfl, rfl⟩
      exact hcut
  · intro before settings block later hpieces
    exact hcut.settings_of_block hpieces
  · intro initial _
    exact (hstart.after initial).getD_ne_iff

end Calculator
