/-!
# Arguments of the command line

The program has one command, `extract`, with options that take a value and flags that take none,
and a word that asks for help. An option takes its value from the next argument or after an
equals sign; the flags of verbosity stand before or after the command. An option is given at most
once on either side.
-/

set_option autoImplicit false

namespace ClassRecovery.CommandLine

/-- The options of an extraction as they are given. -/
structure Options where
  source : Option String := none
  docs : Option String := none
  ignore : Option String := none
  config : Option String := none
  output : Option String := none
  isPretty : Bool := false
  deriving DecidableEq, Repr, Inhabited

/-- The flags of verbosity as they are given on one side of the command. -/
structure Verbosity where
  isVerbose : Bool := false
  isQuiet : Bool := false
  deriving DecidableEq, Repr, Inhabited

/-- What a command line asks for. -/
inductive Request
  /-- The extraction of a dump. -/
  | extract (source : String) (options : Options) (verbosity : Verbosity)
  | version
  | help
  /-- The command line makes no sense. -/
  | misuse
  deriving DecidableEq, Repr

/-! ## Switches -/

/-- An option or a flag. -/
inductive Switch
  | source
  | docs
  | ignore
  | config
  | output
  | pretty
  | verbose
  | quiet
  | help
  | version
  deriving DecidableEq, Repr

/-- The switch takes a value. -/
def Switch.takesValue : Switch → Bool
  | .source | .docs | .ignore | .config | .output => true
  | _ => false

/-- The long switches before the command. -/
def outerLong? : String → Option Switch
  | "verbose" => some .verbose
  | "quiet" => some .quiet
  | "help" => some .help
  | "version" => some .version
  | _ => none

/-- The short switches before the command. -/
def outerShort? : Char → Option Switch
  | 'v' => some .verbose
  | 'q' => some .quiet
  | 'h' => some .help
  | 'V' => some .version
  | _ => none

/-- The long switches of the command. -/
def extractLong? : String → Option Switch
  | "source" => some .source
  | "docs" => some .docs
  | "ignore" => some .ignore
  | "config" => some .config
  | "output" => some .output
  | "pretty" => some .pretty
  | "verbose" => some .verbose
  | "quiet" => some .quiet
  | "help" => some .help
  | _ => none

/-- The short switches of the command. -/
def extractShort? : Char → Option Switch
  | 'o' => some .output
  | 'v' => some .verbose
  | 'q' => some .quiet
  | 'h' => some .help
  | _ => none

/-! ## Cutting arguments into switches -/

/-- A piece of a command line. -/
inductive Item
  | switch (switch : Switch) (value : Option String)
  | word (word : String)
  /-- The mark after which no switches stand. -/
  | escape
  /-- A switch that is not known, or a flag with a value. -/
  | unknown
  deriving DecidableEq, Repr

/-- A long switch, with its value after an equals sign if there is one. -/
def longItem (long? : String → Option Switch) (text : List Char) : Item :=
  let name := String.ofList (text.takeWhile (· != '='))
  let value :=
    match text.dropWhile (· != '=') with
    | _ :: value => some (String.ofList value)
    | [] => none
  match long? name with
  | some switch => if value.isSome && !switch.takesValue then .unknown else .switch switch value
  | none => .unknown

/-- Short switches written together; the first one that takes a value takes what is left. -/
def shortItems (short? : Char → Option Switch) : List Char → List Item
  | [] => []
  | c :: rest =>
    match short? c with
    | none => [.unknown]
    | some switch =>
      if switch.takesValue then
        match rest with
        | [] => [.switch switch none]
        | '=' :: value => [.switch switch (some (String.ofList value))]
        | value => [.switch switch (some (String.ofList value))]
      else .switch switch none :: shortItems short? rest

/-- The pieces of one argument. -/
def argumentItems (long? : String → Option Switch) (short? : Char → Option Switch)
    (argument : String) : List Item :=
  match argument.toList with
  | ['-', '-'] => [.escape]
  | '-' :: '-' :: text => [longItem long? text]
  | '-' :: c :: text => shortItems short? (c :: text)
  | _ => [.word argument]

/-! ## Reading the command line -/

/-- What the arguments of the command have said so far. -/
structure Reading where
  options : Options := {}
  verbosity : Verbosity := {}
  /-- The option that waits for its value. -/
  pending : Option Switch := none
  isEscaped : Bool := false
  deriving Repr

/-- An option with its value, unless it has one already. An empty value is none. -/
def Options.set? (options : Options) (switch : Switch) (value : String) : Option Options :=
  let fill (old : Option String) (options : Options) : Option Options :=
    if value.isEmpty || old.isSome then none else some options
  match switch with
  | .source => fill options.source { options with source := some value }
  | .docs => fill options.docs { options with docs := some value }
  | .ignore => fill options.ignore { options with ignore := some value }
  | .config => fill options.config { options with config := some value }
  | .output => fill options.output { options with output := some value }
  | _ => none

/-- A flag of verbosity, unless it is set already. -/
def Verbosity.set? (verbosity : Verbosity) : Switch → Option Verbosity
  | .verbose => if verbosity.isVerbose then none else some { verbosity with isVerbose := true }
  | .quiet => if verbosity.isQuiet then none else some { verbosity with isQuiet := true }
  | _ => none

/-- The reading after one more piece; an error is the request that is settled by it. -/
def Reading.push (reading : Reading) (item : Item) : Except Request Reading :=
  match reading.pending, item with
  | some switch, .word value =>
    match reading.options.set? switch value with
    | some options => .ok { reading with options := options, pending := none }
    | none => .error .misuse
  | some _, _ => .error .misuse
  | none, .switch .help _ => .error .help
  | none, .switch .pretty _ =>
    if reading.options.isPretty then .error .misuse
    else .ok { reading with options := { reading.options with isPretty := true } }
  | none, .switch switch (some value) =>
    match reading.options.set? switch value with
    | some options => .ok { reading with options := options }
    | none => .error .misuse
  | none, .switch switch none =>
    if switch.takesValue then .ok { reading with pending := some switch }
    else
      match reading.verbosity.set? switch with
      | some verbosity => .ok { reading with verbosity := verbosity }
      | none => .error .misuse
  | none, .escape => .ok { reading with isEscaped := true }
  | none, _ => .error .misuse

/-- The reading after one more argument of the command; nothing may follow the escape mark. -/
def Reading.pushArgument (reading : Reading) (argument : String) : Except Request Reading :=
  if reading.isEscaped then .error .misuse
  else (argumentItems extractLong? extractShort? argument).foldlM Reading.push reading

/-- What the arguments of the command ask for. -/
def readExtract (outer : Verbosity) (arguments : List String) : Request :=
  match arguments.foldlM Reading.pushArgument {} with
  | .error request => request
  | .ok reading =>
    match reading.pending, reading.options.source with
    | none, some source =>
      .extract source reading.options
        { isVerbose := outer.isVerbose || reading.verbosity.isVerbose
          isQuiet := outer.isQuiet || reading.verbosity.isQuiet }
    | _, _ => .misuse

/-- The verbosity after the pieces of an argument before the command. -/
def pushOuter (verbosity : Verbosity) : Item → Except Request Verbosity
  | .switch .help _ => .error .help
  | .switch .version _ => .error .version
  | .switch switch _ =>
    match verbosity.set? switch with
    | some verbosity => .ok verbosity
    | none => .error .misuse
  | _ => .error .misuse

/-- What a request for help asks for: help on the program, on one of its commands, or on asking
for help. -/
def readHelp : List String → Request
  | [] | ["extract"] | ["help"] => .help
  | _ => .misuse

/-- What the arguments from the program's name on ask for. -/
def readArguments (outer : Verbosity) : List String → Request
  | [] => .misuse
  | "extract" :: arguments => readExtract outer arguments
  | "help" :: topics => readHelp topics
  | argument :: arguments =>
    match (argumentItems outerLong? outerShort? argument).foldlM pushOuter outer with
    | .ok outer => readArguments outer arguments
    | .error request => request

/-- What a command line asks for. -/
def Request.ofArguments (arguments : List String) : Request := readArguments {} arguments

end ClassRecovery.CommandLine
