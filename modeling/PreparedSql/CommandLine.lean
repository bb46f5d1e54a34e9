import PreparedSql.Context.Configuration
import PreparedSql.Description.Statement

/-!
# The command line

The program compiles the statement that a file describes, for a dialect or a configured context, and
prints the query with what each placeholder is bound to; or it also resolves the query with the
values of another file and prints them. All of it but the reading of files and the printing is here.

The steps follow each other in a fixed order, and the first failure ends the run: configuration,
context, statement, query, values, resolution.

## Main definitions

* `Flags.invocation?`: what the flags ask for, if they fit together.
* `listing`, `resolvedListing`: what is printed.
* `Invocation.run`: the whole run on the contents of files.
-/

namespace PreparedSql.CommandLine

/-! ## Flags -/

/-- The flags of a run. A file is given by its path, or by what it contains. -/
structure Flags where
  /-- The command. -/
  command : String
  /-- The file with the description of the statement. -/
  spec : String
  /-- The file with the values of tokens. -/
  values : Option String := none
  /-- The file with the configuration of the context. -/
  config : Option String := none
  /-- The name of the dialect. -/
  dialect : Option String := none
  /-- The name of the dialect from the environment. -/
  environmentDialect : Option String := none
  /-- The name of another limit style. -/
  limitStyle : Option String := none
  /-- Whether tokens without a value are bound to `NULL`. -/
  lenient : Bool := false

/-- What is done with the compiled query. -/
inductive Command where
  /-- The query is listed with its bindings. -/
  | compile
  /-- The query is resolved with the values of a file. -/
  | resolve (values : String) (lenient : Bool)

/-- What a run is asked to do. -/
structure Invocation where
  /-- What is done with the compiled query. -/
  command : Command
  /-- The file with the description of the statement. -/
  spec : String
  /-- The file with the configuration of the context. -/
  config : Option String
  /-- The name of the dialect; a configuration takes its place. -/
  dialect : String
  /-- Another limit style. -/
  limitStyle : Option LimitStyle

namespace Flags

def command? (flags : Flags) : Option Command :=
  match flags.command, flags.values with
  | "compile", none => if flags.lenient then none else some .compile
  | "resolve", some values => some (.resolve values flags.lenient)
  | _, _ => none

def limitStyle? (flags : Flags) : Option (Option LimitStyle) :=
  match flags.limitStyle with
  | none => some none
  | some name =>
    match LimitStyle.ofName name with
    | .ok style => some (some style)
    | .error _ => none

/-- What the flags ask for, if they fit together. A flag for the dialect comes before the
environment. -/
def invocation? (flags : Flags) : Option Invocation := do
  let command ← flags.command?
  let limitStyle ← flags.limitStyle?
  let dialect := flags.dialect.getD (flags.environmentDialect.getD "generic")
  return { command, spec := flags.spec, config := flags.config, dialect, limitStyle }

end Flags

/-! ## Failures -/

/-- Why a run fails. -/
inductive Failure where
  /-- The file with the configuration holds none. -/
  | configuration
  /-- The context cannot be set up. -/
  | context (cause : ContextError)
  /-- The statement cannot be loaded. -/
  | description (cause : DescriptionError)
  /-- The statement does not compile. -/
  | compile (cause : CompileError)
  /-- The file with the values holds none. -/
  | values
  /-- A token has no value. -/
  | resolve (cause : ResolutionError)

namespace Failure

def message : Failure → String
  | configuration => "invalid context configuration"
  | context cause => cause.message
  | description cause => cause.message
  | compile cause => cause.message
  | values => "token values must be a JSON object of scalars"
  | resolve cause => cause.message

/-- The first line of a report. A line ends before its line feed, and a carriage return in front of
the line feed belongs to the end of the line. -/
def firstLine (report : List Char) : List Char :=
  let line := report.takeWhile (· ≠ '\n')
  if line.getLast? = some '\r' then line.dropLast else line

/-- The first line of the text of the failure, which is reported with a line feed behind it. -/
def headline (failure : Failure) : String := String.ofList (firstLine failure.message.toList)

end Failure

/-! ## Steps -/

def readConfiguration (text : String) : Except Failure Configuration :=
  match Json.parse? Json.maxDepth text with
  | none => .error .configuration
  | some document => (Configuration.ofJson document).mapError fun _ ↦ .configuration

/-- The context for a run: of the configuration if there is one, else of the dialect; the limit
style of the run comes before theirs. -/
def context (dialect : String) (config : Option Configuration) (limitStyle : Option LimitStyle) :
    Except Failure Context := do
  let ctx ←
    match config with
    | some config => (Context.ofConfiguration config).mapError .context
    | none => (Context.ofName dialect).mapError .context
  return match limitStyle with
    | some style => ctx.withLimitStyle style
    | none => ctx

def compileText (ctx : Context) (text : String) : Except Failure Query := do
  let statement ← (Statement.read text).mapError .description
  (statement.compile ctx).mapError .compile

def readValues (text : String) : Except Failure (List (String × Value)) :=
  match Json.parse? Json.maxDepth text with
  | none => .error .values
  | some document => (Value.namedOfJson document).mapError fun _ ↦ .values

def resolveValues (q : Query) (values : List (String × Value)) (lenient : Bool) :
    Except Failure (List Value) :=
  if lenient then .ok (q.resolveOrNull values) else (q.resolve values).mapError .resolve

/-! ## Output -/

/-- The line for a binding: a token by its name behind a colon, a fixed value as JSON. -/
def bindingLine : Binding → String
  | .token name => tokenText name
  | .value v => v.jsonText

/-- Lines, each ended by a line feed. -/
def unlines (lines : List String) : String := String.join (lines.map (· ++ "\n"))

/-- The text of a query, and a line for each of its placeholders. -/
def listing (q : Query) : String := unlines (q.sql :: q.bindings.map bindingLine)

/-- The text of a query, and a line with the values of its placeholders. -/
def resolvedListing (q : Query) (values : List Value) : String :=
  unlines [q.sql, (Json.array (values.map Value.toJson)).compact]

/-- A run on the contents of files: what it prints, or why it fails. -/
def Invocation.run (invocation : Invocation) : Except Failure String := do
  let config ←
    match invocation.config with
    | none => pure none
    | some text => (readConfiguration text).map some
  let ctx ← context invocation.dialect config invocation.limitStyle
  let q ← compileText ctx invocation.spec
  match invocation.command with
  | .compile => return listing q
  | .resolve values lenient =>
    let values ← readValues values
    return resolvedListing q (← resolveValues q values lenient)

end PreparedSql.CommandLine
