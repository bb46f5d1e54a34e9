import PreparedSql.CommandLine

/-!
# The program

Reads the arguments and the files that they name, runs the steps of `PreparedSql.CommandLine`, and
prints what they answer.
-/

namespace PreparedSql.Program

open CommandLine

/-- How the program is used. -/
def usage : String :=
  let options := "[-d|--dialect NAME] [-c|--config FILE] [-l|--limit-dialect STYLE] [-v|--verbose]"
  "usage: prepared-sql " ++ options ++ " compile SPEC\n" ++
    "usage: prepared-sql " ++ options ++ " resolve SPEC --values FILE [--lenient]"

/-- Reads the arguments into flags; the first two that belong to no flag are the command and the
file with the description. -/
def parseArguments (flags : Flags) : List String → Option Flags
  | [] => some flags
  | "-d" :: name :: rest | "--dialect" :: name :: rest =>
    parseArguments { flags with dialect := some name } rest
  | "-c" :: file :: rest | "--config" :: file :: rest =>
    parseArguments { flags with config := some file } rest
  | "-l" :: style :: rest | "--limit-dialect" :: style :: rest =>
    parseArguments { flags with limitStyle := some style } rest
  | "--values" :: file :: rest => parseArguments { flags with values := some file } rest
  | "--lenient" :: rest => parseArguments { flags with lenient := true } rest
  | "-v" :: rest | "--verbose" :: rest => parseArguments flags rest
  | word :: rest =>
    if word.startsWith "-" then none
    else if flags.command.isEmpty then parseArguments { flags with command := word } rest
    else if flags.spec.isEmpty then parseArguments { flags with spec := word } rest
    else none

/-- What the arguments and the environment ask for; files are given by their paths. -/
def invocation? (arguments : List String) (environmentDialect : Option String) :
    Option Invocation := do
  let flags ← parseArguments { command := "", spec := "", environmentDialect } arguments
  if flags.spec.isEmpty then none else flags.invocation?

/-- Goes on with the result of a step, or stops with the text of its failure. -/
def orStop {α : Type} (result : Except Failure α) : IO α :=
  match result with
  | .ok a => pure a
  | .error failure => throw (IO.userError failure.message)

/-- Reads each file when its turn comes, and returns what the run prints. -/
def run (invocation : Invocation) : IO String := do
  let config ←
    match invocation.config with
    | none => pure none
    | some path => pure (some (← orStop (readConfiguration (← IO.FS.readFile path))))
  let ctx ← orStop (context invocation.dialect config invocation.limitStyle)
  let q ← orStop (compileText ctx (← IO.FS.readFile invocation.spec))
  match invocation.command with
  | .compile => return listing q
  | .resolve values lenient =>
    let values ← orStop (readValues (← IO.FS.readFile values))
    return resolvedListing q (← orStop (resolveValues q values lenient))

end PreparedSql.Program

/-- Exits with 0 after a run, with 1 after a failure and with 2 if the arguments do not fit. -/
def main (arguments : List String) : IO UInt32 := do
  let environmentDialect ← IO.getEnv "PREPARED_SQL_DIALECT"
  match PreparedSql.Program.invocation? arguments environmentDialect with
  | none =>
    IO.eprintln PreparedSql.Program.usage
    return 2
  | some invocation =>
    try
      IO.print (← PreparedSql.Program.run invocation)
      return 0
    catch e =>
      IO.eprintln ("Error: " ++ toString e)
      return 1
