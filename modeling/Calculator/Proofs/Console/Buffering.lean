import Calculator.Proofs.Console.Conversation

/-!
# A buffer and a flag

A loop over lines may keep a buffer, to which every line of a text is added, and a flag
that says whether the next line goes on with the text.  Nothing forces the two to agree.
They do agree, though, whenever a line is asked for: the buffer is filled just if the
flag is set.  Such a loop and a console that holds a text back, or none, show the same
at every line.
-/

namespace Calculator

/-- A session, the text so far, and whether the next line goes on with it. -/
structure BufferedConsole where
  session : Session := {}
  buffer : String := ""
  continuing : Bool := false

/-- What a line led to. -/
structure BufferedTurn where
  outputs : List Output
  console : BufferedConsole
  closed : Bool := false

namespace BufferedConsole

def prompt (console : BufferedConsole) : Output :=
  .result (if console.continuing then "... " else "> ")

def add (console : BufferedConsole) (text : String) : BufferedConsole :=
  { console with buffer := console.buffer ++ text }

/-- Evaluates what is in the buffer unless more lines are to come; `anyway` says that
none are waited for. -/
def submit (console : BufferedConsole) (anyway : Bool) : BufferedTurn :=
  if !anyway && !Console.parensClosed console.buffer then
    ⟨[], { console with continuing := true }, false⟩
  else
    let (evaluation, session) := console.session.evaluate console.buffer
    let dumps := evaluation.dumps.map Output.resultLine
    match evaluation.result with
    | .ok trace =>
        ⟨dumps ++ Output.resultLineUnlessEmpty (session.settings.results trace.values),
          { session }, false⟩
    | .error failure =>
        if failure.isIncomplete && !anyway then
          ⟨dumps, { console with session, continuing := true }, false⟩
        else ⟨dumps ++ [Output.diagnosticLine failure.report], { session }, false⟩

def take (console : BufferedConsole) (line : String) : BufferedTurn :=
  let text := Text.trim line.toList
  if console.continuing then ((console.add "\n").add line).submit (text = [])
  else if text = [] then ⟨[], console, false⟩
  else if text = ".exit".toList then ⟨[.result "Goodbye!\n"], console, true⟩
  else if text.head? = some '.' then
    let (answer, session) := (ConsoleCommand.ofText text).run console.session
    ⟨[Output.resultLine answer], { console with session }, false⟩
  else (console.add line).submit false

/-- Takes the lines in order, each after a prompt. -/
def converse (console : BufferedConsole) : List (Option String) → Conversation
  | [] => { outputs := [console.prompt, Conversation.farewell], session := console.session }
  | none :: _ =>
      { outputs := [console.prompt], session := console.session,
        failure := some Conversation.unreadable }
  | some line :: lines =>
      let turn := console.take line
      if turn.closed then
        { outputs := console.prompt :: turn.outputs, session := turn.console.session }
      else (converse turn.console lines).preceded (console.prompt :: turn.outputs)

/-- The console after some lines. -/
def after (console : BufferedConsole) (lines : List String) : BufferedConsole :=
  lines.foldl (fun console line => (console.take line).console) console

/-! ### The flag and the buffer agree -/

/-- Where the next line starts a text, nothing is left of the one before. -/
def Coherent (console : BufferedConsole) : Prop :=
  console.continuing = false → console.buffer = ""

/-- The text is held back if the next line goes on with it. -/
def toConsole (console : BufferedConsole) : Console :=
  ⟨console.session, if console.continuing then some console.buffer else none⟩

theorem prompt_toConsole (console : BufferedConsole) :
    console.toConsole.prompt = console.prompt := by
  cases hcontinuing : console.continuing <;>
    simp [prompt, Console.prompt, toConsole, hcontinuing]

end BufferedConsole

/-- The turn of a console that holds a text back or none. -/
def BufferedTurn.toTurn (turn : BufferedTurn) : Turn :=
  ⟨turn.outputs, turn.console.toConsole, turn.closed⟩

namespace BufferedConsole

variable {console : BufferedConsole}

/-- Whatever the flag was, submitting the buffer is submitting its text. -/
theorem toTurn_submit (console : BufferedConsole) (pending : Option String) (anyway : Bool) :
    (console.submit anyway).toTurn =
      (⟨console.session, pending⟩ : Console).submit console.buffer anyway := by
  rw [submit, Console.submit]
  split
  · rfl
  · dsimp only
    cases (console.session.evaluate console.buffer).1.result with
    | ok trace => rfl
    | error failure =>
        dsimp only
        split <;> rfl

/-- A buffer that has been submitted is kept only for the next line to go on with. -/
theorem coherent_submit (console : BufferedConsole) (anyway : Bool) :
    (console.submit anyway).console.Coherent := by
  rw [submit, Coherent]
  split
  · exact nofun
  · dsimp only
    cases (console.session.evaluate console.buffer).1.result with
    | ok trace => exact fun _ => rfl
    | error failure =>
        dsimp only
        split
        · exact nofun
        · exact fun _ => rfl

/-- At each line the two consoles show the same, and still correspond after it. -/
theorem Coherent.take (hcoherent : console.Coherent) (line : String) :
    (console.take line).toTurn = console.toConsole.take line ∧
      (console.take line).console.Coherent := by
  obtain ⟨session, buffer, continuing⟩ := console
  rw [BufferedConsole.take]
  cases continuing with
  | true =>
      refine ⟨?_, coherent_submit _ _⟩
      exact toTurn_submit _ (some buffer) _
  | false =>
      obtain rfl : buffer = "" := hcoherent rfl
      -- What starts a text is put into an empty buffer.
      have hadded : ((⟨session, "", false⟩ : BufferedConsole).add line).buffer = line :=
        String.empty_append
      simp only [toConsole, Console.take, Console.takeFirst, Bool.false_eq_true, if_false]
      split
      · exact ⟨rfl, hcoherent⟩
      split
      · exact ⟨rfl, hcoherent⟩
      split
      · exact ⟨rfl, fun _ => rfl⟩
      · refine ⟨?_, coherent_submit _ _⟩
        rw [toTurn_submit _ none, hadded]
        rfl

/-- Over any lines the two consoles lead to the same conversation. -/
theorem Coherent.converse_eq (hcoherent : console.Coherent) (lines : List (Option String)) :
    console.converse lines = Conversation.ofLines console.toConsole lines := by
  induction lines generalizing console with
  | nil => rw [converse, Conversation.ofLines, prompt_toConsole]; rfl
  | cons line lines ih =>
      cases line with
      | none => rw [converse, Conversation.ofLines, prompt_toConsole]; rfl
      | some line =>
          obtain ⟨hturn, hafter⟩ := hcoherent.take line
          rw [converse, Conversation.ofLines, ← hturn, prompt_toConsole, ih hafter]
          rfl

theorem Coherent.after (hcoherent : console.Coherent) (lines : List String) :
    (console.after lines).Coherent ∧
      (console.after lines).toConsole = console.toConsole.after lines := by
  induction lines generalizing console with
  | nil => exact ⟨hcoherent, rfl⟩
  | cons line lines ih =>
      obtain ⟨hturn, hafter⟩ := hcoherent.take line
      obtain ⟨hcoherent, hconsole⟩ := ih hafter
      refine ⟨hcoherent, hconsole.trans ?_⟩
      rw [Console.after, Console.after, List.foldl_cons, ← hturn]
      rfl

/-- A filled buffer and a text held back come to the same. -/
theorem Coherent.buffer_ne_iff (hcoherent : console.Coherent)
    (hbuffers : console.toConsole.Buffers) :
    console.buffer ≠ "" ↔ console.continuing = true := by
  cases hcontinuing : console.continuing with
  | false => simp [hcoherent hcontinuing]
  | true =>
      have hheld : console.toConsole.pending = some console.buffer := by
        simp [toConsole, hcontinuing]
      simp [hbuffers _ hheld]

/-- Whenever a line is asked for, the buffer is filled just if the flag is set, and every
conversation is the one of a console that holds a text back or none. -/
theorem buffer_ne_iff_continuing (session : Session) :
    (∀ lines, (({ session } : BufferedConsole).after lines).buffer ≠ "" ↔
      (({ session } : BufferedConsole).after lines).continuing = true) ∧
    ∀ input, ({ session } : BufferedConsole).converse input =
      Conversation.ofLines { session } input := by
  have hstart : ({ session } : BufferedConsole).Coherent := fun _ => rfl
  have hempty : ({ session } : BufferedConsole).toConsole.Buffers := by
    intro text htext
    exact nomatch htext
  refine ⟨?_, hstart.converse_eq⟩
  intro lines
  obtain ⟨hcoherent, hconsole⟩ := hstart.after lines
  have hbuffers := hempty.after lines
  rw [← hconsole] at hbuffers
  exact hcoherent.buffer_ne_iff hbuffers

end BufferedConsole

end Calculator
