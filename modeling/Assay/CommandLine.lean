import Assay.Json.Decode

/-!
# Command lines

The words of a command line, read as what is to be done. Options may be written with their value
in one word or in two, in any order; after two dashes every word is a path.
-/

namespace Assay

/-- What a run is asked to do. -/
structure RunRequest where
  /-- The path of the configuration. -/
  config : String
  /-- What every test returned. -/
  returnValue : Int64
  /-- Further keys that the harness supplies, a later one before an earlier one of its name. -/
  base : List (String × Value)
  /-- The name of the format. -/
  format : String
  /-- The paths of the outputs, one for each test. -/
  outputs : List String

/-- What is to be done. -/
inductive Command where
  /-- Check the configuration at a path. -/
  | check (config : String)
  /-- Process tests. -/
  | run (request : RunRequest)
  /-- List the result parsers. -/
  | parsers

/-- A command line. -/
structure CommandLine where
  /-- Whether more is shown. -/
  verbose : Bool
  /-- Whether there are colours. -/
  color : Bool
  /-- What is to be done. -/
  command : Command

/-- Why a command line cannot be read. -/
inductive UsageError where
  /-- The value of an option is none that it takes. -/
  | invalidValue (value option cause : String)
  /-- A word has no meaning where it stands. -/
  | unexpected (word : String)
  /-- An option needs a value. -/
  | missingValue (option : String)
  /-- Something must be given. -/
  | missing (what : String)
  /-- An option is given twice. -/
  | repeated (option : String)
  deriving DecidableEq, Repr

/-- The problem of a command line in words. -/
def UsageError.message (error : UsageError) : String :=
  let problem :=
    match error with
    | .invalidValue value option cause =>
      "invalid value '" ++ value ++ "' for '" ++ option ++ "': " ++ cause
    | .unexpected word => "unexpected argument '" ++ word ++ "' found"
    | .missingValue option => "a value is required for '" ++ option ++ "' but none was supplied"
    | .missing what => "the following required arguments were not provided:\n  " ++ what
    | .repeated option => "the argument '" ++ option ++ "' cannot be used multiple times"
  "error: " ++ problem ++ "\n\nFor more information, try '--help'."

namespace CommandLine

/-- The option for the configuration. -/
def configOption : String := "--config <CONFIG>"

/-- The option for what every test returned. -/
def returnOption : String := "--return-value <RETURN_VALUE>"

/-- The option for a further key. -/
def baseOption : String := "--base <KEY=VALUE>"

/-- The option for the format. -/
def formatOption : String := "--format <FORMAT>"

/-- Reads a further key with its value: JSON if it is, and text if not. -/
def readBase (word : String) : Except UsageError (String × Value) :=
  let chars := word.toList
  let key := chars.takeWhile (· != '=')
  let value := String.ofList (chars.drop (key.length + 1))
  if !chars.contains '=' then
    .error (.invalidValue word baseOption ("expected KEY=VALUE, got '" ++ word ++ "'"))
  else if key.isEmpty then
    .error (.invalidValue word baseOption ("empty key in '" ++ word ++ "'"))
  else .ok (String.ofList key, (Value.ofJsonText? value).getD (.text value))

/-- Reads what every test returned. -/
def readReturn (word : String) : Except UsageError Int64 :=
  match Decimal.readInt? word with
  | some number =>
    match word? number with
    | some value => .ok value
    | none =>
      let cause := if 0 < number then "number too large to fit in target type"
        else "number too small to fit in target type"
      .error (.invalidValue word returnOption cause)
  | none =>
    let cause := if word.isEmpty then "cannot parse integer from empty string"
      else "invalid digit found in string"
    .error (.invalidValue word returnOption cause)

/-- A word of a command line. -/
inductive Word where
  /-- A path, the name of a command or a value. -/
  | plain (word : String)
  /-- An option of a single letter. -/
  | letters (letters : List Char)
  /-- An option, with its value if that is part of the word. -/
  | option (name : String) (value : Option String)
  /-- Two dashes. -/
  | dashes
  deriving DecidableEq, Repr

/-- What a word is by its dashes. -/
def Word.ofText (word : String) : Word :=
  match word.toList with
  | ['-', '-'] => .dashes
  | '-' :: '-' :: rest =>
    let name := rest.takeWhile (· != '=')
    let value :=
      if rest.contains '=' then some (String.ofList (rest.drop (name.length + 1))) else none
    .option (String.ofList name) value
  | '-' :: letter :: rest => .letters (letter :: rest)
  | _ => .plain word

/-- What a command line says so far. -/
structure Draft where
  /-- Whether more is shown. -/
  verbose : Bool
  /-- Whether there are colours. -/
  color : Bool
  /-- The name of the command. -/
  command : Option String
  /-- The path of the configuration. -/
  config : Option String
  /-- What every test returned. -/
  returnValue : Option Int64
  /-- Further keys, in order. -/
  base : List (String × Value)
  /-- The name of the format. -/
  format : Option String
  /-- The paths of outputs, in order. -/
  outputs : List String

namespace Draft

/-- What a command line says before its first word. -/
def empty : Draft where
  verbose := false
  color := true
  command := none
  config := none
  returnValue := none
  base := []
  format := none
  outputs := []

/-- The options with a value that the command takes, each with its description. -/
def options (draft : Draft) : List (String × String) :=
  if draft.command = some "run" then
    [("config", configOption), ("return-value", returnOption), ("base", baseOption),
      ("format", formatOption)]
  else if draft.command = some "check" then [("config", configOption)]
  else []

/-- Adds a word without dashes: the command first, then paths. -/
def withPlain (draft : Draft) (word : String) : Except UsageError Draft :=
  match draft.command with
  | none =>
    if ["check", "run", "parsers"].contains word then .ok { draft with command := some word }
    else .error (.unexpected word)
  | some command =>
    if command = "run" then .ok { draft with outputs := draft.outputs ++ [word] }
    else .error (.unexpected word)

/-- Adds options of a single letter. -/
def withLetters (draft : Draft) : List Char → Except UsageError Draft
  | [] => .ok draft
  | letter :: letters =>
    if letter = 'v' then { draft with verbose := true }.withLetters letters
    else .error (.unexpected ("-" ++ letter.toString))

/-- Adds an option without value. -/
def withFlag (draft : Draft) (name : String) : Except UsageError Draft :=
  if name = "verbose" then .ok { draft with verbose := true }
  else if name = "no-color" then .ok { draft with color := false }
  else .error (.unexpected ("--" ++ name))

/-- Sets what is given at most once. -/
def once {α : Type} (option : String) (given : Option α) (value : α) :
    Except UsageError (Option α) :=
  match given with
  | none => .ok (some value)
  | some _ => .error (.repeated option)

/-- Adds an option with its value. -/
def withOption (draft : Draft) (name value : String) : Except UsageError Draft := do
  if name = "config" then return { draft with config := ← once configOption draft.config value }
  else if name = "format" then
    return { draft with format := ← once formatOption draft.format value }
  else if name = "return-value" then
    let number ← readReturn value
    return { draft with returnValue := ← once returnOption draft.returnValue number }
  else if name = "base" then return { draft with base := draft.base ++ [← readBase value] }
  else throw (.unexpected ("--" ++ name))

/-- Whether a word may be the value of an option. Only a number may start with a dash. -/
def isValue (name word : String) : Bool :=
  match Word.ofText word with
  | .plain _ => true
  | .letters _ => name = "return-value" && (Decimal.readFloat? word).isSome
  | _ => false

/-- Adds all words. -/
def withWords (draft : Draft) : List String → Except UsageError Draft
  | [] => .ok draft
  | word :: rest => do
    match Word.ofText word with
    | .plain word => (← draft.withPlain word).withWords rest
    | .letters letters => (← draft.withLetters letters).withWords rest
    | .dashes => rest.foldlM withPlain draft
    | .option name value =>
      match draft.options.lookup name, value with
      | none, none => (← draft.withFlag name).withWords rest
      | none, some _ => throw (.unexpected ("--" ++ name))
      | some _, some value => (← draft.withOption name value).withWords rest
      | some description, none =>
        match rest with
        | [] => throw (.missingValue description)
        | next :: rest =>
          if isValue name next then (← draft.withOption name next).withWords rest
          else throw (.missingValue description)

/-- The path of the configuration, which must be given. -/
def requireConfig (draft : Draft) : Except UsageError String :=
  match draft.config with
  | some config => .ok config
  | none => .error (.missing configOption)

/-- The command, once all words are added. -/
def toCommand (draft : Draft) : Except UsageError Command := do
  match draft.command with
  | none => throw (.missing "<COMMAND>")
  | some name =>
    if name = "parsers" then return .parsers
    let config ← draft.requireConfig
    if name = "check" then return .check config
    if draft.outputs.isEmpty then throw (.missing "<OUTPUT>...")
    return .run
      { config
        returnValue := draft.returnValue.getD 0
        base := draft.base
        format := draft.format.getD "table"
        outputs := draft.outputs }

end Draft

/-- Reads the words of a command line. -/
def read (words : List String) : Except UsageError CommandLine := do
  let draft ← Draft.empty.withWords words
  return { verbose := draft.verbose, color := draft.color, command := ← draft.toCommand }

end CommandLine

end Assay
