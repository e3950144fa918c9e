import SailNav.Protocol.Connection

/-!
# The command line

A language server for Sail on standard input and output. The log goes to standard error.
-/

namespace SailNav

/-- What the command line sets. -/
structure ServerOptions where
  /-- Whether more than the main events are logged. -/
  verbose : Bool
  /-- Whether the editor shows some of the log. -/
  echoesLog : Bool
  deriving DecidableEq, Repr, Inhabited

namespace ServerOptions

/-- The options that some arguments set, unless one of them is not known. -/
def ofArguments? (arguments : List String) : Option ServerOptions :=
  arguments.foldlM
    (fun o a =>
      match a with
      | "--verbose" | "-v" => some { o with verbose := true }
      | "--log-messages" => some { o with echoesLog := true }
      | _ => none)
    ⟨false, false⟩

/-- Whether an event is logged. -/
def logs (o : ServerOptions) (e : LogEvent) : Bool :=
  match e.level with
  | .error | .warn | .info => true
  | .debug => o.verbose
  | .trace => false

end ServerOptions

/-- Reads the lines before a message, up to the empty one, and gives the announced length. -/
partial def readLength (input : IO.FS.Stream) (length : Option Nat) : IO (Option Nat) := do
  let line ← input.getLine
  if line.isEmpty then return none
  let line := Text.trimString line
  if line.isEmpty then return length
  readLength input (announcedLength? line <|> length)

/-- Reads a number of bytes, or fewer where the input ends. -/
partial def readBytes (input : IO.FS.Stream) (count : Nat) (taken : ByteArray) :
    IO ByteArray := do
  if count ≤ taken.size then return taken
  let more ← input.read (count - taken.size).toUSize
  if more.isEmpty then return taken
  readBytes input count (taken ++ more)

/-- Serves messages until the input ends or the session is exited. -/
partial def serve (options : ServerOptions) (input output log : IO.FS.Stream) (c : Connection) :
    IO Unit := do
  let some length ← readLength input none | return ()
  let bytes ← readBytes input length .empty
  match (String.fromUTF8? bytes).bind Json.read? >>= Incoming.ofJson? with
  | none => serve options input output log c
  | some message =>
    let turn := c.receive message
    for e in turn.events do
      if options.logs e then log.putStrLn e.line
    for m in turn.outgoing do
      output.putStr m.frame
    output.flush
    if turn.connection.session.phase ≠ .exited then
      serve options input output log turn.connection

end SailNav

open SailNav in
/-- Serves the editor at the other end of standard input and output. -/
def main (arguments : List String) : IO UInt32 := do
  let log ← IO.getStderr
  match ServerOptions.ofArguments? arguments with
  | none =>
    log.putStrLn "usage: sail-analyzer [--verbose] [--log-messages]"
    return 2
  | some options =>
    serve options (← IO.getStdin) (← IO.getStdout) log (.fresh options.echoesLog)
    return 0
