import FlightRelay.Settings.App

/-!
# The command line

Options may be given once each, by a letter or by a name, with their value behind a sign of equality, in
the next argument, or directly behind the letter.  The value of an option in the next argument is looked
at only when the option is settled: by the next option that is known, or at the end.
-/

namespace FlightRelay

/-- What the command line asks for. -/
structure CommandLine where
  /-- Path of the settings file. -/
  configPath : String
  bindAddress : Option String
  logLevel : Option String
  maxConnections : Option Nat
  /-- Logs are lines of JSON, whatever the settings say. -/
  jsonLogs : Bool
  deriving DecidableEq, Repr, Inhabited

/-- Why a command line is not carried out. -/
inductive CommandLineError where
  /-- An option that is not known, or a word where none is expected. -/
  | unknownArgument
  /-- An option without its value. -/
  | missingValue
  /-- A value that is not of the right form. -/
  | malformedValue
  /-- An option given twice. -/
  | repeatedOption
  /-- A value for an option that takes none. -/
  | surplusValue
  /-- Help is asked for. -/
  | help
  /-- The version is asked for. -/
  | version
  deriving DecidableEq, Repr

/-- Kind of a command line error, for programs. -/
def CommandLineError.kind : CommandLineError → String
  | .unknownArgument => "UnknownArgument"
  | .missingValue => "InvalidValue"
  | .malformedValue => "ValueValidation"
  | .repeatedOption => "ArgumentConflict"
  | .surplusValue => "TooManyValues"
  | .help => "DisplayHelp"
  | .version => "DisplayVersion"

namespace CommandLine

/-- Path of the settings file when none is given. -/
def defaultPath : String := "skyrelay.toml"

/-- The options. -/
inductive Flag where
  | config
  | bind
  | logLevel
  | maxConnections
  | jsonLogs
  | help
  | version
  deriving DecidableEq, Repr

namespace Flag

/-- Letter and name of every option. -/
def table : List (Flag × Option Char × String) :=
  [(.config, some 'c', "config"), (.bind, some 'b', "bind"), (.logLevel, some 'l', "log-level"),
    (.maxConnections, some 'm', "max-connections"), (.jsonLogs, none, "json-logs"),
    (.help, some 'h', "help"), (.version, some 'V', "version")]

/-- The option with a letter. -/
def ofLetter? (c : Char) : Option Flag :=
  (table.find? fun row => row.2.1 = some c).map Prod.fst

/-- The option with a name. -/
def ofName? (name : String) : Option Flag :=
  (table.find? fun row => row.2.2 = name).map Prod.fst

/-- The option has a value. -/
def takesValue : Flag → Bool
  | .config | .bind | .logLevel | .maxConnections => true
  | .jsonLogs | .help | .version => false

end Flag

/-- How far the reading has come: the values that are settled, and the option that still waits. -/
structure State where
  settled : List (Flag × String)
  /-- The last option with its value in an argument of its own, and the value once it was seen. -/
  pending : Option (Flag × Option String)
  deriving Inhabited

/-- A whole number of 64 bits: digits, perhaps behind a plus sign. -/
def number? (s : String) : Option Nat :=
  let ds :=
    match s.toList with
    | '+' :: ds => ds
    | ds => ds
  let n := Decimal.ofDigits ds
  if ds ≠ [] && ds.all Char.isDigit && n < Nat.pow 2 64 then some n else none

/-- Settles an option: it must not be settled already, and a number must be one. -/
def settle (s : State) (f : Flag) (v : String) : Except CommandLineError State :=
  if s.settled.any fun e => e.1 = f then .error .repeatedOption
  else if f = .maxConnections && (number? v).isNone then .error .malformedValue
  else .ok { s with settled := (f, v) :: s.settled }

/-- Settles the option that waits. -/
def settlePending (s : State) : Except CommandLineError State :=
  match s.pending with
  | none => .ok s
  | some (_, none) => .error .missingValue
  | some (f, some v) => settle { s with pending := none } f v

/-- An option that is known, with the value attached to it. -/
def option (s : State) (f : Flag) (attached : Option String) : Except CommandLineError State := do
  let s ← settlePending s
  match f, attached with
  | .help, _ => .error .help
  | .version, _ => .error .version
  | .jsonLogs, _ => settle s f "true"
  | f, some v => settle s f v
  | f, none => .ok { s with pending := some (f, none) }

/-- An option by its name, behind two dashes. -/
def longOption (s : State) (cs : List Char) : Except CommandLineError State :=
  let (name, rest) := cs.span (· ≠ '=')
  let attached :=
    match rest with
    | [] => none
    | _ :: v => some (String.ofList v)
  match Flag.ofName? (String.ofList name) with
  | none => .error .unknownArgument
  | some f => if !f.takesValue && attached.isSome then .error .surplusValue else option s f attached

/-- Options by their letters, behind one dash; what follows the letter of an option with a value is the
value. -/
def letters (s : State) : List Char → Except CommandLineError State
  | [] => .ok s
  | c :: rest =>
    match Flag.ofLetter? c with
    | none => .error .unknownArgument
    | some f =>
      if f.takesValue then
        option s f (match rest with
          | [] => none
          | '=' :: v => some (String.ofList v)
          | v => some (String.ofList v))
      else do letters (← option s f none) rest

/-- A word that is no option: the value of the option that waits for one. -/
def plain (s : State) (word : String) : Except CommandLineError State :=
  match s.pending with
  | some (f, none) => .ok { s with pending := some (f, some word) }
  | _ => .error .unknownArgument

/-- Reads all arguments; behind two dashes alone there may be no other. -/
def scan : State → List String → Except CommandLineError State
  | s, [] => settlePending s
  | s, word :: rest =>
    match word.toList with
    | ['-', '-'] => if rest.isEmpty then settlePending s else .error .unknownArgument
    | '-' :: '-' :: name => do scan (← longOption s name) rest
    | '-' :: c :: more => do scan (← letters s (c :: more)) rest
    | _ => do scan (← plain s word) rest

/-- What was settled for an option. -/
def State.get? (s : State) (f : Flag) : Option String := s.settled.lookup f

/-- Reads a command line without the name of the program. -/
def parse (words : List String) : Except CommandLineError CommandLine := do
  let s ← scan ⟨[], none⟩ words
  return {
    configPath := (s.get? .config).getD defaultPath
    bindAddress := s.get? .bind
    logLevel := s.get? .logLevel
    maxConnections := (s.get? .maxConnections).bind number?
    jsonLogs := (s.get? .jsonLogs).isSome }

/-- The command line as a JSON value. -/
def toJson (c : CommandLine) : Json.Value :=
  .object
    [("config_path", .string c.configPath), ("bind_address", .ofOption .string c.bindAddress),
      ("log_level", .ofOption .string c.logLevel),
      ("max_connections", .ofOption .ofNat c.maxConnections), ("json_logs", .bool c.jsonLogs)]

/-- Settings as the command line changes them. -/
def override (c : CommandLine) (s : AppSettings) : AppSettings :=
  { s with
    listen :=
      { s.listen with
        bindAddress := c.bindAddress.getD s.listen.bindAddress
        maxConnections := c.maxConnections.getD s.listen.maxConnections }
    log :=
      { s.log with
        level := c.logLevel.getD s.log.level
        json := c.jsonLogs || s.log.json } }

end CommandLine

end FlightRelay
