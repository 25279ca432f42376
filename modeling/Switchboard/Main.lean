import Switchboard.Bot.Console

/-!
# The echo bot as a program

What the process gives is collected here, and what the bot replies is printed. Everything in
between belongs to the library.
-/

namespace Switchboard

namespace EchoBot

/-- The texts of a block of bytes between its zero bytes. What is not Unicode is left out. -/
def textsBetweenZeros (bytes : ByteArray) : List String :=
  go [] bytes.toList
where
  /-- The texts of bytes behind the reversed beginning of the first one. -/
  go (pending : List UInt8) : List UInt8 → List String
    | [] => text pending
    | byte :: rest =>
      if byte = 0 then text pending ++ go [] rest else go (byte :: pending) rest
  /-- The text of reversed bytes. -/
  text (reversed : List UInt8) : List String :=
    (String.fromUTF8? ⟨reversed.reverse.toArray⟩).toList

/-- The name and the content of a variable that are joined by an equals sign. -/
def nameAndContent? (text : String) : Option (String × String) :=
  match text.toList.dropWhile (· != '=') with
  | [] => none
  | _ :: content =>
    some (String.ofList (text.toList.takeWhile (· != '=')), String.ofList content)

/-- The environment variables of the process. -/
def readVariables : IO (List (String × String)) := do
  let bytes ← try IO.FS.readBinFile "/proc/self/environ" catch _ => pure ByteArray.empty
  return (textsBetweenZeros bytes).filterMap nameAndContent?

/-- The directory in which programs keep the configurations of the user. -/
def userDirectory (environment : List (String × String)) : String :=
  match environment.lookup "XDG_CONFIG_HOME" with
  | some directory =>
    if directory.startsWith "/" then directory else inHome
  | none => inHome
where
  /-- The usual directory below the home of the user. -/
  inHome : String :=
    joinPath ((environment.lookup "HOME").getD "") ".config"

/-- The files among the given paths that can be read. -/
def readFiles (paths : List String) : IO Files := do
  let texts ← paths.filterMapM fun (path : String) => do
    try
      return some (path, ← IO.FS.readFile path)
    catch _ =>
      return none
  return .ofList texts

/-- What the process finds around it. -/
def readSurroundings (options : Options) : IO Surroundings := do
  let environment ← readVariables
  let surroundings : Surroundings := ⟨.ofList [], userDirectory environment, environment⟩
  let paths := match options.config with
    | some path => [path]
    | none =>
      ((Loader.ofSurroundings surroundings).candidates surroundings).flatMap
        fun (profileFile, mainFile) => [profileFile.path, mainFile.path]
  return { surroundings with files := ← readFiles paths }

/-- Answers every line of the input until it ends. -/
def converse (options : Options) (bot : EchoBot) : IO Unit := do
  let input ← IO.getStdin
  let output ← IO.getStdout
  let mut bot := bot
  repeat
    let line ← input.getLine
    if line.isEmpty then
      break
    let (next, replies) := respond options bot (String.ofList (withoutEnd line.toList))
    bot := next
    for reply in replies do
      output.putStrLn reply
    output.flush

/-- Runs the echo bot until its input ends, and gives the exit status. -/
def runProgram (arguments : List String) : IO UInt32 := do
  match Options.ofArguments? arguments with
  | none =>
    IO.eprintln "Options: --config FILE, --channel KIND, --user NAME"
    return refusedArguments.toUInt32
  | some options =>
    match start options (← readSurroundings options) with
    | .error error =>
      IO.eprintln ("Error: " ++ error.message)
      return (exitStatus error).toUInt32
    | .ok bot =>
      converse options bot
      return 0

end EchoBot

end Switchboard

/-- Runs the echo bot. -/
def main (arguments : List String) : IO UInt32 :=
  Switchboard.EchoBot.runProgram arguments
