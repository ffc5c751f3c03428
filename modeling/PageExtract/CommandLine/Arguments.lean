/-!
# Arguments

The program is told what to do by options.  A *switch* stands for itself.  Other
options take a value, which is the rest of the same argument or the next one.
An argument that starts with a hyphen is no value, and neither is anything after
`--`.  Every option may stand once.

An option that waits for its value, or has just got it from the next argument, is
looked at when another option comes, or at the end.  So the mistake that is
reported first need not be the one that stands first.

Once all options are taken in, those that exclude one another are looked for, and
then those that must be there.
-/

namespace PageExtract.CommandLine

/-- The options. -/
inductive Opt where
  /-- The file with the job. -/
  | config
  /-- The URL of the document. -/
  | url
  /-- The file with the document. -/
  | html
  /-- Fail if the document cannot be fetched. -/
  | strict
  /-- Write the record without space. -/
  | compact
  /-- The file to write the record to. -/
  | output
  /-- How long a request may take, in seconds. -/
  | timeout
  /-- The name to send with requests. -/
  | userAgent
  /-- Ask private hosts too. -/
  | allowPrivate
  /-- Tell how long it took. -/
  | timing
  /-- What to keep a log of. -/
  | logLevel
  /-- Show how the program is used. -/
  | help
  deriving DecidableEq, Repr

namespace Opt

/-- All options. -/
def all : List Opt :=
  [config, url, html, strict, compact, output, timeout, userAgent, allowPrivate, timing,
    logLevel, help]

/-- The name of an option. -/
def name : Opt → String
  | config => "config"
  | url => "url"
  | html => "html"
  | strict => "strict"
  | compact => "compact"
  | output => "output"
  | timeout => "timeout"
  | userAgent => "user-agent"
  | allowPrivate => "allow-private-networks"
  | timing => "timing"
  | logLevel => "log-level"
  | help => "help"

/-- The letter that an option can be given by. -/
def letter? : Opt → Option Char
  | config => some 'c'
  | output => some 'o'
  | help => some 'h'
  | _ => none

/-- What the value of an option is called, if it takes one. -/
def valueName? : Opt → Option String
  | config => some "CONFIG"
  | url => some "URL"
  | html => some "HTML"
  | output => some "OUTPUT"
  | timeout => some "TIMEOUT"
  | userAgent => some "USER_AGENT"
  | logLevel => some "LOG_LEVEL"
  | _ => none

/-- Whether an option takes a value. -/
def takesValue (o : Opt) : Bool := o.valueName?.isSome

/-- Whether the value of an option is a path, which is not empty. -/
def isPath : Opt → Bool
  | config => true
  | html => true
  | output => true
  | _ => false

/-- An option as messages show it. -/
def shown (o : Opt) : String :=
  "--" ++ o.name ++ match o.valueName? with
    | none => ""
    | some value => " <" ++ value ++ ">"

/-- The option with a name. -/
def ofName? (s : String) : Option Opt := all.find? fun o => o.name == s

/-- The option with a letter. -/
def ofLetter? (c : Char) : Option Opt := all.find? fun o => o.letter? == some c

end Opt

/-- Why a text is no number of seconds. -/
inductive NumberFault where
  | empty
  | notDigit
  | tooLarge
  deriving DecidableEq, Repr

/-- A fault in words. -/
def NumberFault.message : NumberFault → String
  | empty => "cannot parse integer from empty string"
  | notDigit => "invalid digit found in string"
  | tooLarge => "number too large to fit in target type"

/-- What is wrong with the arguments. -/
inductive UsageFault where
  /-- An argument is no option, or no value can stand there. -/
  | unexpected (arg : String)
  /-- A switch has a value. -/
  | unexpectedValue (value : String) (opt : Opt)
  /-- An option has no value. -/
  | noValue (opt : Opt)
  /-- The value of an option is wrong. -/
  | badValue (value : String) (opt : Opt) (fault : NumberFault)
  /-- An option stands twice. -/
  | repeated (opt : Opt)
  /-- Two options exclude one another. -/
  | conflict (opt other : Opt)
  /-- The file with the job is not named. -/
  | noConfig
  /-- Nothing is wrong, but the use of the program is to be shown. -/
  | helpWanted
  deriving DecidableEq, Repr

/-- A fault in words. -/
def UsageFault.message : UsageFault → String
  | unexpected arg => "unexpected argument '" ++ arg ++ "' found"
  | unexpectedValue value opt =>
      "unexpected value '" ++ value ++ "' for '" ++ opt.shown ++ "' found; no more were expected"
  | noValue opt => "a value is required for '" ++ opt.shown ++ "' but none was supplied"
  | badValue value opt fault =>
      "invalid value '" ++ value ++ "' for '" ++ opt.shown ++ "': " ++ fault.message
  | repeated opt => "the argument '" ++ opt.shown ++ "' cannot be used multiple times"
  | conflict opt other =>
      "the argument '" ++ opt.shown ++ "' cannot be used with '" ++ other.shown ++ "'"
  | noConfig => "the following required arguments were not provided:"
  | helpWanted => ""

/-- What the arguments say. -/
structure Arguments where
  /-- The file with the job. -/
  config : String
  /-- The URL of the document. -/
  url : Option String := none
  /-- The file with the document. -/
  html : Option String := none
  /-- Whether to fail if the document cannot be fetched. -/
  strict : Bool := false
  /-- Whether to write the record without space. -/
  compact : Bool := false
  /-- The file to write the record to. -/
  output : Option String := none
  /-- How long a request may take, in seconds. -/
  timeout : Nat := 30
  /-- The name to send with requests. -/
  userAgent : Option String := none
  /-- Whether private hosts may be asked. -/
  allowPrivate : Bool := false
  /-- Whether to tell how long it took. -/
  timing : Bool := false
  /-- What to keep a log of. -/
  logLevel : String := "warn"
  deriving DecidableEq, Repr

/-! ## Values -/

/-- The greatest number of seconds. -/
def maxSeconds : Nat := Nat.pow 2 64 - 1

/-- Reads the digits of a number after those that make `n`. -/
def readDigits (n : Nat) : List Char → Except NumberFault Nat
  | [] => .ok n
  | c :: rest =>
      if '0' ≤ c ∧ c ≤ '9' then
        let n := n * 10 + (c.toNat - '0'.toNat)
        if maxSeconds < n then .error .tooLarge else readDigits n rest
      else .error .notDigit

/-- Reads a number of seconds. -/
def readSeconds (s : String) : Except NumberFault Nat :=
  match s.toList with
  | [] => .error .empty
  | ['+'] => .error .notDigit
  | '+' :: digits => readDigits 0 digits
  | digits => readDigits 0 digits

/-! ## Taking options in -/

/-- The options taken in so far. -/
structure Intake where
  /-- The options with their values, last first. -/
  seen : List (Opt × String) := []
  /-- The option that is still to be looked at, with its value if it has got it. -/
  pending : Option (Opt × Option String) := none
  /-- Whether `--` has come. -/
  ended : Bool := false

namespace Intake

/-- Takes an option in, with an empty value for a switch. -/
def add (i : Intake) (opt : Opt) (value : String) : Except UsageFault Intake := do
  if opt = .help then throw .helpWanted
  if i.seen.any fun (o, _) => o == opt then throw (.repeated opt)
  if opt.isPath ∧ value.isEmpty then throw (.noValue opt)
  if opt = .timeout then
    match readSeconds value with
    | .error fault => throw (.badValue value opt fault)
    | .ok _ => return { i with seen := (opt, value) :: i.seen }
  return { i with seen := (opt, value) :: i.seen }

/-- Looks at the option that is still to be looked at. -/
def settle (i : Intake) : Except UsageFault Intake :=
  match i.pending with
  | none => .ok i
  | some (opt, none) => .error (.noValue opt)
  | some (opt, some value) => { i with pending := none }.add opt value

/-- Takes in an option and the rest of the argument that it stands in, if there is any. -/
def option (i : Intake) (opt : Opt) (attached : Option String) : Except UsageFault Intake := do
  if opt.takesValue then
    match attached with
    | some value => (← i.settle).add opt value
    | none => return { ← i.settle with pending := some (opt, none) }
  else match attached with
    | some value => throw (.unexpectedValue value opt)
    | none => (← i.settle).add opt ""

/-- Takes in options that are given by letters. -/
def letters (i : Intake) : List Char → Except UsageFault Intake
  | [] => .ok i
  | c :: rest =>
      match Opt.ofLetter? c with
      | none => .error (.unexpected (String.ofList ['-', c]))
      | some opt =>
        if opt.takesValue then
          match rest with
          | [] => i.option opt none
          | '=' :: value => i.option opt (some (String.ofList value))
          | value => i.option opt (some (String.ofList value))
        else do (← i.option opt none).letters rest

/-- Takes in an option that is given by its name, perhaps with a value after an equals sign. -/
def named (i : Intake) (cs : List Char) : Except UsageFault Intake :=
  let name := String.ofList (cs.takeWhile (· ≠ '='))
  let attached := match cs.dropWhile (· ≠ '=') with
    | [] => none
    | _ :: value => some (String.ofList value)
  match Opt.ofName? name with
  | none => .error (.unexpected ("--" ++ name))
  | some opt => i.option opt attached

/-- Takes in an argument that is no option. -/
def plain (i : Intake) (arg : String) : Except UsageFault Intake :=
  match i.pending with
  | some (opt, none) =>
      if i.ended then .error (.unexpected arg)
      else .ok { i with pending := some (opt, some arg) }
  | _ => .error (.unexpected arg)

/-- Takes in an argument. -/
def step (i : Intake) (arg : String) : Except UsageFault Intake :=
  if i.ended then i.plain arg
  else match arg.toList with
    | ['-', '-'] => .ok { i with ended := true }
    | '-' :: '-' :: cs => i.named cs
    | ['-'] => i.plain arg
    | '-' :: cs => i.letters cs
    | _ => i.plain arg

/-- Takes in arguments. -/
def steps (i : Intake) : List String → Except UsageFault Intake
  | [] => i.settle
  | arg :: rest => do (← i.step arg).steps rest

/-- The value of an option. -/
def value? (i : Intake) (opt : Opt) : Option String := i.seen.lookup opt

/-- Whether an option was taken in. -/
def has (i : Intake) (opt : Opt) : Bool := (i.value? opt).isSome

end Intake

/-- The arguments that options make. -/
def Arguments.ofIntake (i : Intake) : Except UsageFault Arguments := do
  if i.has .url ∧ i.has .html then
    match i.seen.reverse.find? fun (o, _) => o == .url || o == .html with
    | some (.html, _) => throw (.conflict .html .url)
    | _ => throw (.conflict .url .html)
  let some config := i.value? .config | throw .noConfig
  return {
    config
    url := i.value? .url
    html := i.value? .html
    strict := i.has .strict
    compact := i.has .compact
    output := i.value? .output
    timeout := ((i.value? .timeout).bind fun s => (readSeconds s).toOption).getD 30
    userAgent := i.value? .userAgent
    allowPrivate := i.has .allowPrivate
    timing := i.has .timing
    logLevel := (i.value? .logLevel).getD "warn" }

/-- Reads the arguments of the program. -/
def Arguments.parse (args : List String) : Except UsageFault Arguments := do
  Arguments.ofIntake (← ({} : Intake).steps args)

/-- How the program is used. -/
def usage : String :=
  "Extract structured data from a web page using declarative rules

Usage: gleaner [OPTIONS] --config <CONFIG>

Options:
  -c, --config <CONFIG>          JSON config file with \x60url\x60 and \x60rules\x60
      --url <URL>                Target URL (overrides \x60url\x60 from the config)
      --html <HTML>              Extract from a local HTML file instead of fetching
      --strict                   Fail on fetch errors instead of extracting from an empty document
      --compact                  Output compact JSON instead of pretty
  -o, --output <OUTPUT>          Output file path (default: stdout)
      --timeout <TIMEOUT>        Request timeout in seconds [default: 30]
      --user-agent <USER_AGENT>  User-Agent header to send
      --allow-private-networks   Allow fetching from private/local networks
      --timing                   Print elapsed time in ms to stderr
      --log-level <LOG_LEVEL>    Log level used when RUST_LOG is not set [default: warn]
  -h, --help                     Print help
"

end PageExtract.CommandLine
