import Scripture.Shell.Session
import Scripture.Json.Read
import Scripture.Calendar
import Std.Time.DateTime.Timestamp

/-!
# The search shell on a terminal

`main` runs the search shell over standard input. Its first argument, when given, names a
JSON file holding the modules, each an object of keys and values; without it the shell
runs over an empty Bible and index. It prints the greeting, then the prompt before each
line it reads, until a command ends the shell; at the end of the input it runs `EOF`. The
pager takes its lines from the same input, so a line the pager reads is not run.

A failing command ends the shell: a stop ends it quietly, any other failure is reported on
standard error.
-/

open Scripture Scripture.Shell

/-- What the shell prints before it reads a line. -/
def prompt : String := "\x01[33m\x02search\x01[m\x02> "

/-- The modules of a JSON file, or none without a file. -/
def readStore (args : List String) : IO (Except Failure Store) := do
  match args with
  | [] => pure (Store.build [])
  | path :: _ =>
    let text ← IO.FS.readFile path
    pure do
      match ← Json.parseText text with
      | .obj fs => Store.build fs
      | _ => throw ⟨.wrongType, "the modules must be a JSON object"⟩

/-- Runs the lines of the input in a session until a command ends the shell. -/
partial def runLines (c : Console) (out : IO.FS.Stream) (s : Session) (lines : List String) :
    IO UInt32 := do
  let (line, rest) := match lines with
    | l :: ls => (l, ls)
    | [] => ("EOF", [])
  out.putStr prompt
  let (outcome, s') := c.respond { s with unread := rest.length } line
  let rest := rest.drop (rest.length - s'.unread)
  match outcome with
  | .done stop printed =>
    out.putStr printed
    out.flush
    if stop then pure 0 else runLines c out s' rest
  | .failed f printed =>
    out.putStr printed
    out.flush
    if f.kind == .exit then pure 0
    else
      (← IO.getStderr).putStrLn f.message
      pure 1

/-- Runs the search shell. -/
def main (args : List String) : IO UInt32 := do
  let now ← Std.Time.Timestamp.now
  let today := monthDay now.toSecondsSinceUnixEpoch.val
  match (← readStore args) >>= fun store => Console.load store today with
  | .error f =>
    (← IO.getStderr).putStrLn f.message
    pure 1
  | .ok c =>
    let out ← IO.getStdout
    let text ← (← IO.getStdin).readToEnd
    out.putStrLn (greeting c.program)
    let pieces := text.splitOn "\n"
    runLines c out {} (if pieces.getLast? == some "" then pieces.dropLast else pieces)
