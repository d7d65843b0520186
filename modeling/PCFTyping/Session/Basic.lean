import PCFTyping.Fault
import PCFTyping.Outburst
import PCFTyping.Report
import PCFTyping.Workshop

/-!
A session: one report with a console beside it.

Every action may stop early, and what it did up to there stays done. Nothing is
filed before all of its words, its picture and its footer are complete.
-/

namespace PCFTyping

/-- The state of a session: what building draws on, the report, the picks not
yet used, the text on the console and the term whose check could not even be
announced, until the next check. -/
structure Session where
  workshop : Workshop
  report : Report
  picks : Outburst.Picks
  console : String
  unannounced : Option Term

/-- Something done in a session. -/
abbrev Act := EStateM Stop Session

namespace Session

/-- A session with nothing built, filed or said. -/
def start (report : Report) (picks : Outburst.Picks) : Session :=
  { workshop := .initial, report, picks, console := "", unannounced := none }

/-- Builds something for use in the session. -/
def build {α : Type} (work : Build α) : Act α := fun session =>
  match work.run session.workshop with
  | .ok result workshop => .ok result { session with workshop }
  | .error stop workshop => .error stop { session with workshop }

/-! ### The console -/

/-- Adds a text to the console. -/
def write (s : String) : Act Unit := modify fun session =>
  { session with console := session.console ++ s }

/-- Adds a line to the console. -/
def writeLine (s : String) : Act Unit := write (s ++ "\n")

/-- Writes parts, each behind a blank that is already on the console when the
part turns out to have no written form. -/
def writeRest : List Part → Act Unit
  | [] => pure ()
  | part :: rest => do
    write " "
    write (← MonadExcept.ofExcept part.shown)
    writeRest rest

/-- Writes parts on a line, with a blank between any two. -/
def writeParts : List Part → Act Unit
  | [] => writeLine ""
  | part :: rest => do
    write (← MonadExcept.ofExcept part.shown)
    writeRest rest
    writeLine ""

/-- Writes parts on a line if the report is verbose. -/
def info (parts : List Part) : Act Unit := do
  if (← get).report.verbose then writeParts parts

/-- Takes an outburst from the picks. -/
def outburst : Act String := fun session =>
  let (text, picks) := Outburst.compose.run session.picks
  .ok text { session with picks }

/-- Lists issues on the console, each below a line of dashes. -/
def listIssues : List Issue → Act Unit
  | [] => pure ()
  | issue :: rest => do
    writeLine (String.join (List.replicate 20 "  -"))
    writeLine (← MonadExcept.ofExcept issue.text)
    listIssues rest

/-- Complains on the console about all issues, if there are any. -/
def complain : Act Unit := do
  let issues := (← get).report.issues
  if !issues.isEmpty then
    writeLine (String.join (List.replicate 60 "*"))
    writeLine (← outburst)
  listIssues issues

/-! ### The report -/

/-- Files an issue, and stops if that is one too many. -/
def file (issue : Issue) : Act Unit := do
  modify fun session => { session with report := session.report.add issue }
  if (← get).report.atLimit then throw .tooManyIssues

/-- Files the picture of a complaint about a root. -/
def tell (setting : Setting) (root : Part) (complaint : Complaint) : Act Unit := do
  file (.picture (← MonadExcept.ofExcept (complaint.picture setting root)))

/-- Forgets all issues. -/
def reset : Act Unit := modify fun session => { session with report := session.report.reset }

/-- Stops if there are issues, after complaining about them. The message must
then be a text. -/
def requireNoIssues (message : Scalar) : Act Unit := do
  if (← get).report.sick then
    complain
    let words ← outburst
    let message ← MonadExcept.ofExcept (message.requireText .added)
    throw (.issuesRemain (words ++ " " ++ message))

/-- The picture for a root that the checker has no account of. -/
def unfinishedPicture (root : Part) (hint : Scalar) : Except Stop Picture := do
  let mark ← Mark.of root root ""
  return ⟨"This term hits an unfinished part of the type-checker.", [mark],
    ["", "Hint: " ++ hint.display]⟩

/-- Gives up on a root: files a picture of it, complains and stops. -/
def giveUp {α : Type} (root : Part) (hint : Scalar) : Act α := do
  file (.picture (← MonadExcept.ofExcept (unfinishedPicture root hint)))
  complain
  throw (.unfinished hint)

end Session

end PCFTyping
