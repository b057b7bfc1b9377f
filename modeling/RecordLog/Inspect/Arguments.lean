import RecordLog.Config

/-!
# Command-line arguments

An invocation names a log by options and gives one command. Options stand
before the command and the command's own options after it. An option with a
value takes it from the same argument, after an equals sign or directly after
a short name, or from the next argument, which must then not look like an
option. An option is given at most once. After a double dash every argument
of a command is a plain word.
-/

namespace RecordLog.Inspect

/-- What to do with a log. -/
inductive Command where
  | list
  | verify
  /-- Print the records of a segment, at most so many. -/
  | dump (segment : SegmentId) (limit : Option Nat)
  /-- Append a text record, and sync it if asked. -/
  | append (payload : String) (sync : Bool)
  deriving DecidableEq, Repr

/-- Arguments that make sense: the settings of the log and a command, or a
request for help or for the version of the program. -/
inductive Invocation where
  | run (config : Config) (command : Command)
  | help
  | version
  deriving DecidableEq, Repr

/-! ## Tokens -/

/-- An option: its long name, its short name, and whether it has a value. -/
structure OptionForm where
  long : String
  short : Option Char
  hasValue : Bool

/-- A request about the program, answered in place of a command. -/
inductive Request where
  | help
  | version
  deriving DecidableEq, Repr

/-- An argument read as an option or as a plain word, or a request, which ends
the reading. -/
inductive Token where
  | option (long value : String)
  | word (text : String)
  | request (request : Request)
  deriving DecidableEq, Repr

/-- How a single argument begins a token. -/
inductive Beginning where
  | token (token : Token)
  /-- An option whose value is the next argument. -/
  | awaitingValue (long : String)
  /-- The double dash. -/
  | endOfOptions
  | unknown
  deriving DecidableEq, Repr

/-- Split text at its first equals sign. -/
def splitEquals (text : List Char) : List Char × Option (List Char) :=
  match text.dropWhile (· ≠ '=') with
  | [] => (text, none)
  | _ :: value => (text.takeWhile (· ≠ '='), some value)

/-- What an option without a value says. -/
def flag (form : OptionForm) : Token :=
  match form.long with
  | "help" => .request .help
  | "version" => .request .version
  | long => .option long ""

/-- Read an argument that begins with two dashes. -/
def beginLong (forms : List OptionForm) (body : List Char) : Beginning :=
  let (name, value) := splitEquals body
  match forms.find? (fun form => form.long = String.ofList name), value with
  | none, _ => .unknown
  | some form, none =>
      if form.hasValue then .awaitingValue form.long else .token (flag form)
  | some form, some value =>
      if form.hasValue then .token (.option form.long (String.ofList value)) else .unknown

/-- Read an argument that begins with one dash and a short name. All short
options without a value are requests, so that nothing is read after one. -/
def beginShort (forms : List OptionForm) (short : Char) (body : List Char) : Beginning :=
  match forms.find? (fun form => form.short = some short), body with
  | none, _ => .unknown
  | some form, [] =>
      if form.hasValue then .awaitingValue form.long else .token (flag form)
  | some form, '=' :: value =>
      if form.hasValue then .token (.option form.long (String.ofList value))
      else .token (flag form)
  | some form, value =>
      if form.hasValue then .token (.option form.long (String.ofList value))
      else .token (flag form)

/-- Read one argument. A single dash is a plain word. -/
def beginToken (forms : List OptionForm) (argument : String) : Beginning :=
  match argument.toList with
  | ['-', '-'] => .endOfOptions
  | '-' :: '-' :: body => beginLong forms body
  | '-' :: short :: body => beginShort forms short body
  | _ => .token (.word argument)

/-- Whether an argument can be the value of the option before it. -/
def isValue (argument : String) : Bool :=
  argument = "-" || argument.toList.head? ≠ some '-'

/-- Read arguments. With `stopAtWord` the reading ends before the first plain
word; the arguments from there on are answered beside the tokens. -/
def tokenize (forms : List OptionForm) (stopAtWord : Bool) :
    List String → Option (List Token × List String)
  | [] => some ([], [])
  | argument :: rest =>
      match beginToken forms argument with
      | .unknown => none
      | .token (.request request) => some ([.request request], [])
      | .endOfOptions =>
          if stopAtWord then none else some (rest.map .word, [])
      | .token (.word text) =>
          if stopAtWord then some ([], argument :: rest)
          else (tokenize forms stopAtWord rest).map fun (tokens, left) =>
            (.word text :: tokens, left)
      | .token (.option long value) =>
          (tokenize forms stopAtWord rest).map fun (tokens, left) =>
            (.option long value :: tokens, left)
      | .awaitingValue long =>
          match rest with
          | [] => none
          | value :: rest =>
              if isValue value then
                (tokenize forms stopAtWord rest).map fun (tokens, left) =>
                  (.option long value :: tokens, left)
              else none

/-- The long names of the options given. -/
def optionNames (tokens : List Token) : List String :=
  tokens.filterMap fun
    | .option long _ => some long
    | _ => none

/-- The plain words given. -/
def words (tokens : List Token) : List String :=
  tokens.filterMap fun
    | .word text => some text
    | _ => none

/-- The request that ended the reading, if any. -/
def request? (tokens : List Token) : Option Request :=
  match tokens.getLast? with
  | some (.request request) => some request
  | _ => none

/-- The value given to an option. -/
def value? (tokens : List Token) (long : String) : Option String :=
  tokens.findSome? fun
    | .option name value => if name = long then some value else none
    | _ => none

/-! ## Values -/

/-- A number of 64 bits in decimal; a plus sign may precede it. -/
def number? (text : String) : Option Nat :=
  let digits :=
    match text.toList with
    | '+' :: digits => digits
    | digits => digits
  if digits = [] ∨ ¬ digits.all Char.isDigit then none
  else if SegmentId.decimalValue digits < SegmentId.bound then
    some (SegmentId.decimalValue digits)
  else none

/-- The value of an option that may be missing, read by a function that may
refuse it. -/
def optional (tokens : List Token) (long : String) (read : String → Option α) :
    Option (Option α) :=
  match value? tokens long with
  | none => some none
  | some text => (read text).map some

/-- A text with at least one character. -/
def nonEmpty? (text : String) : Option String :=
  if text = "" then none else some text

/-! ## Commands -/

/-- The option that asks for help. -/
def helpForm : OptionForm := ⟨"help", some 'h', false⟩

/-- The options that name a log. -/
def logForms : List OptionForm :=
  [⟨"dir", some 'd', true⟩, ⟨"extension", some 'e', true⟩, ⟨"block-size", some 'b', true⟩,
    helpForm, ⟨"version", some 'V', false⟩]

/-- The settings of the log that the options name. -/
def config? (tokens : List Token) : Option Config := do
  let directory ← optional tokens "dir" nonEmpty?
  let extension ← optional tokens "extension" some
  let blockSize ← optional tokens "block-size" number?
  pure { Config.default with
    directory := directory.getD Config.default.directory
    fileExtension := extension.getD Config.default.fileExtension
    blockSize := blockSize.getD Config.default.blockSize }

/-- The options of a command. -/
def commandForms : String → Option (List OptionForm)
  | "list" => some [helpForm]
  | "verify" => some [helpForm]
  | "dump" => some [helpForm, ⟨"limit", some 'l', true⟩]
  | "append" => some [helpForm, ⟨"sync", none, false⟩]
  | _ => none

/-- Whether a command takes what it is given so far: not too many words, and
words and values that can be read. Words may still be missing. -/
def accepts (name : String) (tokens : List Token) : Bool :=
  match name, words tokens with
  | "list", [] | "verify", [] => true
  | "dump", segments =>
      segments.length ≤ 1 && segments.all (fun segment => (number? segment).isSome) &&
        (optional tokens "limit" number?).isSome
  | "append", payloads => payloads.length ≤ 1
  | _, _ => false

/-- The command that a name and its tokens give. -/
def command? (name : String) (tokens : List Token) : Option Command :=
  match name, words tokens with
  | "list", [] => some .list
  | "verify", [] => some .verify
  | "dump", [segment] => do
      let segment ← number? segment
      let limit ← optional tokens "limit" number?
      pure (.dump ⟨segment⟩ limit)
  | "append", [payload] => some (.append payload ((value? tokens "sync").isSome))
  | _, _ => none

/-- Whether a request for help about some commands can be answered. -/
def isHelpTopic : List String → Bool
  | [] => true
  | [topic] => topic = "help" || (commandForms topic).isSome
  | _ => false

/-- What a request asks for. -/
def Invocation.ofRequest : Request → Invocation
  | .help => .help
  | .version => .version

/-- Read a command and its arguments. A request is heard only after arguments
that the command takes. -/
def commandInvocation (config : Config) (name : String) (arguments : List String) :
    Option Invocation :=
  if name = "help" then if isHelpTopic arguments then some .help else none
  else
    match (commandForms name).bind fun forms => tokenize forms false arguments with
    | none => none
    | some (tokens, _) =>
        if ¬ (optionNames tokens).Nodup ∨ accepts name tokens = false then none
        else
          match request? tokens with
          | some request => some (.ofRequest request)
          | none => (command? name tokens).map (.run config)

/-- Read the arguments of a program. -/
def Invocation.ofArguments (arguments : List String) : Option Invocation :=
  match tokenize logForms true arguments with
  | none => none
  | some (tokens, rest) =>
      if ¬ (optionNames tokens).Nodup then none
      else
        match config? tokens with
        | none => none
        | some config =>
            match request? tokens, rest with
            | some request, _ => some (.ofRequest request)
            | none, [] => none
            | none, name :: arguments => commandInvocation config name arguments

end RecordLog.Inspect
