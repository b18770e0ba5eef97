import TelegramMarkdown.CommandLine.Files
import TelegramMarkdown.Convert
import TelegramMarkdown.Document.Listing

/-!
The command line: a program that converts one Markdown text, from a file or from
standard input, and writes the result to a file or to standard output.

What a run produces is known before anything is written (`CommandLine.evaluate`),
so a run that fails changes nothing (`CommandLine.runIn`).
-/

namespace TelegramMarkdown.CommandLine

/-! ### Arguments -/

/-- What the arguments ask for. -/
structure Arguments where
  /-- The file to read, in place of standard input. -/
  input : Option Text := none
  /-- The file to write, in place of standard output. -/
  output : Option Text := none
  /-- The configuration file, in place of the one in the directory. -/
  config : Option Text := none
  /-- Whether to log details. -/
  verbose : Bool := false
  /-- Whether to list the tree of the document instead of rendering it. -/
  tree : Bool := false
  deriving DecidableEq

/-- Why arguments ask for no conversion. -/
inductive Refusal where
  /-- They ask for help. -/
  | help
  /-- They are not valid. -/
  | usage
  deriving DecidableEq

/-- The options. -/
inductive Flag where
  | output
  | config
  | verbose
  | tree
  | help
  deriving DecidableEq

namespace Flag

/-- The option with a name after two hyphens. -/
def ofName? (name : Text) : Option Flag :=
  [("output".toList, output), ("config".toList, config), ("verbose".toList, verbose),
    ("tree".toList, tree), ("help".toList, help)].lookup name

/-- The option with a letter after one hyphen. -/
def ofLetter? : Char → Option Flag
  | 'o' => some output
  | 'c' => some config
  | 'v' => some verbose
  | 'h' => some help
  | _ => none

/-- Whether the option takes a value. -/
def takesValue : Flag → Bool
  | output | config => true
  | _ => false

end Flag

namespace Arguments

/-- The arguments with an input file, which is named once. -/
def setInput (a : Arguments) (value : Text) : Except Refusal Arguments :=
  if a.input.isSome || value.isEmpty then .error .usage else .ok { a with input := some value }

/-- The arguments with an option, which is given once; options that take a value
are given one that is not empty. -/
def set (a : Arguments) (flag : Flag) (value : Text) : Except Refusal Arguments :=
  match flag with
  | .output =>
    if a.output.isSome || value.isEmpty then .error .usage
    else .ok { a with output := some value }
  | .config =>
    if a.config.isSome || value.isEmpty then .error .usage
    else .ok { a with config := some value }
  | .verbose => if a.verbose then .error .usage else .ok { a with verbose := true }
  | .tree => if a.tree then .error .usage else .ok { a with tree := true }
  | .help => .error .help

/-- What is known after one more argument. -/
inductive Step where
  /-- The argument is complete. -/
  | complete (a : Arguments)
  /-- The value of an option follows. -/
  | awaiting (flag : Flag) (a : Arguments)

/-- Read letters after one hyphen. The first that takes a value ends them: what
follows it, perhaps after an equals sign, is its value. -/
def readLetters : Text → Arguments → Except Refusal Step
  | [], a => .ok (.complete a)
  | c :: rest, a =>
    match Flag.ofLetter? c with
    | none => .error .usage
    | some flag =>
      if flag.takesValue then
        match rest with
        | [] => .ok (.awaiting flag a)
        | '=' :: value => (a.set flag value).map .complete
        | value => (a.set flag value).map .complete
      else
        match a.set flag [] with
        | .ok a => readLetters rest a
        | .error refusal => .error refusal

/-- Read a name after two hyphens, perhaps with an equals sign and a value. -/
def readName (t : Text) (a : Arguments) : Except Refusal Step :=
  let name := t.takeWhile (· ≠ '=')
  match Flag.ofName? name, t.drop name.length with
  | none, _ => .error .usage
  | some flag, [] =>
    if flag.takesValue then .ok (.awaiting flag a) else (a.set flag []).map .complete
  | some flag, _ :: value =>
    if flag.takesValue then (a.set flag value).map .complete else .error .usage

/-- Whether an argument is no value: it starts with a hyphen and is not one. -/
def isOption : Text → Bool
  | '-' :: _ :: _ => true
  | _ => false

/-- Read arguments. After two hyphens alone none is an option. -/
def read : (inputsOnly : Bool) → List Text → Arguments → Except Refusal Arguments
  | _, [], a => .ok a
  | true, value :: rest, a => (a.setInput value).bind (read true rest)
  | false, arg :: rest, a =>
    if arg = "--".toList then read true rest a
    else if !isOption arg then (a.setInput arg).bind (read false rest)
    else
      let step := match arg with
        | '-' :: '-' :: name => readName name a
        | letters => readLetters (letters.drop 1) a
      match step with
      | .error refusal => .error refusal
      | .ok (.complete a) => read false rest a
      | .ok (.awaiting flag a) =>
        match rest with
        | value :: rest =>
          if isOption value then .error .usage else (a.set flag value).bind (read false rest)
        | [] => .error .usage

/-- The arguments of a command line. -/
def ofList (args : List Text) : Except Refusal Arguments :=
  read false args { }

end Arguments

/-- What is printed when help is asked for. -/
def helpText : Text :=
  ("Convert Markdown to Telegram MarkdownV2\n\n" ++
    "Usage: tgmd [OPTIONS] [INPUT]\n\n" ++
    "Arguments:\n" ++
    "  [INPUT]  Input Markdown file (reads stdin when omitted)\n\n" ++
    "Options:\n" ++
    "  -o, --output <OUTPUT>  Output file (writes to stdout when omitted)\n" ++
    "  -c, --config <CONFIG>  TOML config file\n" ++
    "  -v, --verbose          Log conversion details to stderr\n" ++
    "      --tree             Print the parsed document tree instead of rendering it\n" ++
    "  -h, --help             Print help\n").toList

/-! ### Conversion -/

/-- The configuration file that is looked for when none is named. -/
def configFile : Text := "tgmd.toml".toList

/-- Why a run fails. -/
inductive Failure where
  | config (path : Text)
  | input (path : Text)
  | stdin
  | output (path : Text)
  deriving DecidableEq

namespace Failure

/-- What is said of a failure. -/
def message : Failure → Text
  | config path => "Failed to load config ".toList ++ path
  | input path => "Failed to read ".toList ++ path
  | stdin => "Failed to read stdin".toList
  | output path => "Failed to write ".toList ++ path

end Failure

/-- The settings of a run. A configuration file that is there has to be valid. -/
def settings (a : Arguments) (read : Text → Reading) : Except Failure Settings :=
  match a.config with
  | some path => (Settings.load (read path)).mapError fun _ => .config path
  | none => (Settings.loadOrBundled (read configFile)).mapError fun _ => .config configFile

/-- The text to convert. -/
def markdown (a : Arguments) (read : Text → Reading) (stdin : Utf8.Bytes) :
    Except Failure Text :=
  match a.input with
  | none =>
    match Utf8.decode? stdin with
    | some t => .ok t
    | none => .error .stdin
  | some path =>
    match read path with
    | .content bytes =>
      match Utf8.decode? bytes with
      | some t => .ok t
      | none => .error (.input path)
    | _ => .error (.input path)

/-- The result for a text, with a line feed after it. -/
def result (a : Arguments) (s : Settings) (t : Text) : Text :=
  (if a.tree then (Document.ofMarkdown s t).listing else convert s t) ++ ['\n']

/-- What a run produces: the settings are looked at first, then the text. -/
def evaluate (a : Arguments) (read : Text → Reading) (stdin : Utf8.Bytes) :
    Except Failure Text := do
  let s ← settings a read
  let t ← markdown a read stdin
  return result a s t

/-! ### Runs -/

/-- What a run leaves behind. -/
structure Outcome (Dir : Type) where
  /-- The exit status. -/
  status : Nat
  /-- What is printed. -/
  output : Text
  /-- What is said of a file that was written, or of a failure. -/
  note : Option Text
  /-- The files after the run. -/
  directory : Dir

section

variable {Dir : Type}

/-- The outcome of a failure. -/
def failed (d : Dir) (failure : Failure) : Outcome Dir :=
  ⟨1, [], some ("Error: ".toList ++ failure.message), d⟩

variable (system : FileSystem Dir)

/-- A run with arguments. -/
def runWith (a : Arguments) (d : Dir) (stdin : Utf8.Bytes) : Outcome Dir :=
  match evaluate a (system.read d) stdin with
  | .error failure => failed d failure
  | .ok text =>
    match a.output with
    | none => ⟨0, text, none, d⟩
    | some path =>
      match system.write? d path (Utf8.encode text) with
      | some after => ⟨0, [], some ("Created ".toList ++ path), after⟩
      | none => failed d (.output path)

/-- A run. -/
def runIn (args : List Text) (d : Dir) (stdin : Utf8.Bytes) : Outcome Dir :=
  match Arguments.ofList args with
  | .ok a => runWith system a d stdin
  | .error .help => ⟨0, helpText, none, d⟩
  | .error .usage => ⟨2, [], none, d⟩

end

/-- A run in a directory. -/
def run (args : List Text) (d : Directory) (stdin : Utf8.Bytes) : Outcome Directory :=
  runIn Directory.system args d stdin

end TelegramMarkdown.CommandLine
