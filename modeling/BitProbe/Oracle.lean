import BitProbe.Text.Blank
import BitProbe.Text.Case
import BitProbe.Text.Lines
import BitProbe.Word

/-!
Oracles.

An oracle decodes a word: it answers with a text or with a reason why there
is none. It may remember what it was asked, so a question leads from one
state of the oracle to the next.

* `OracleError`, `Answer`: what an oracle can answer;
* `classify`: the answer that the output of a disassembler stands for;
* `Oracle`, `Oracle.ask`: an oracle, and asking it a list of words one after
  another until it fails;
* `Oracle.logged`: the oracle that writes down the words it is asked.

Only a process failure ends a list of questions: an ambiguous output and a
fault are answers (`isFailure`).
-/

namespace BitProbe

/-- Why an oracle gives no text. -/
inductive OracleError where
  /-- The output marks something as uncertain. -/
  | ambiguous
  /-- The output holds an error message, or nothing. -/
  | fault (message : String)
  /-- The disassembler could not be started, or did not end in time. -/
  | processFailure (message : String)
  deriving DecidableEq, Repr

/-- Why there is no text, as text. -/
def OracleError.message : OracleError → String
  | .ambiguous => "ambiguous decode"
  | .fault m => "disassembler fault: " ++ m
  | .processFailure m => "process failure: " ++ m

/-- Only a process that failed is worth another try. -/
def OracleError.isRetryable : OracleError → Bool
  | .processFailure _ => true
  | _ => false

/-- What an oracle answers to one word. -/
abbrev Answer := Except OracleError String

/-- Whether an answer is a process failure. -/
def Answer.isFailure : Answer → Bool
  | .error e => e.isRetryable
  | .ok _ => false

/-! ### Outputs of a disassembler -/

/-- The words that mark an error message, in lower case. -/
def errorMarkers : List (List Char) :=
  [['e', 'r', 'r', 'o', 'r'], ['f', 'a', 't', 'a', 'l']]

/-- Whether a text holds an error marker, in whatever case. -/
def holdsErrorMarker (cs : List Char) : Bool :=
  errorMarkers.any fun m => decide (m <:+: Text.lower cs)

/-- The first line of a text with an error marker, without blanks around
it. -/
def errorLine (cs : List Char) : List Char :=
  Text.trim (((Text.lines cs).find? holdsErrorMarker).getD [])

/-- The answer that an output stands for. A blank output is a fault, a
question mark makes it ambiguous, and an error marker a fault with the line
that holds it. -/
def classify (output : String) : Answer :=
  let cs := output.toList
  if (Text.trim cs).isEmpty then .error (.fault "empty output")
  else if cs.contains '?' then .error .ambiguous
  else if holdsErrorMarker cs then
    .error (.fault (String.ofList (errorLine cs)))
  else .ok output

/-! ### Asking -/

/-- An oracle with states `σ`: its answer to a word, and its next state. -/
abbrev Oracle (σ : Type) := Word → σ → Answer × σ

namespace Oracle

variable {σ : Type}

/-- Asks words one after another, up to and including the first to which the
answer is a process failure; the answers before these come first. -/
def askAfter (o : Oracle σ) (earlier : List Answer) :
    List Word → σ → List Answer × σ
  | [], s => (earlier.reverse, s)
  | w :: ws, s =>
    let (a, s) := o w s
    if a.isFailure then ((a :: earlier).reverse, s)
    else askAfter o (a :: earlier) ws s

/-- The answers to words asked one after another, up to and including the
first process failure. -/
def ask (o : Oracle σ) (ws : List Word) (s : σ) : List Answer × σ :=
  o.askAfter [] ws s

/-- The oracle that keeps the words it is asked, last first. -/
def logged (o : Oracle σ) : Oracle (List Word × σ) :=
  fun w s =>
    let (a, t) := o w s.2
    (a, (w :: s.1, t))

/-- The oracle that always gives the answer of a function. -/
def ofFunction (f : Word → Answer) : Oracle Unit :=
  fun w s => (f w, s)

/-- Earlier answers stay in front. -/
theorem askAfter_eq (o : Oracle σ) (earlier : List Answer) (ws : List Word)
    (s : σ) :
    o.askAfter earlier ws s =
      (earlier.reverse ++ (o.ask ws s).1, (o.ask ws s).2) := by
  induction ws generalizing earlier s with
  | nil => simp [askAfter, ask]
  | cons w ws ih =>
    simp only [ask, askAfter]
    split
    · simp
    · rw [ih, ih [_]]
      simp

/-- Asking no words gives no answers. -/
@[simp] theorem ask_nil (o : Oracle σ) (s : σ) : o.ask [] s = ([], s) := by
  simp [ask, askAfter]

/-- Asking goes word by word, and ends at a process failure. -/
theorem ask_cons (o : Oracle σ) (w : Word) (ws : List Word) (s : σ) :
    o.ask (w :: ws) s =
      if (o w s).1.isFailure then ([(o w s).1], (o w s).2)
      else ((o w s).1 :: (o.ask ws (o w s).2).1,
        (o.ask ws (o w s).2).2) := by
  simp only [ask, askAfter]
  split
  · simp
  · rw [askAfter_eq]
    simp [ask]

/-- There are no more answers than words. -/
theorem length_ask_le (o : Oracle σ) (ws : List Word) (s : σ) :
    (o.ask ws s).1.length ≤ ws.length := by
  induction ws generalizing s with
  | nil => simp
  | cons w ws ih =>
    rw [ask_cons]
    split
    · simp
    · simpa using ih _

end Oracle

end BitProbe
