import SuperChip.Text.Digit
import SuperChip.Text.Quoted

/-!
# Arguments of a command line

Each argument of a command line is an option, a word that stands for itself, or the separator
behind which all arguments are words.

- `Switch`, `Setting`: the options without and with a value.
- `Switch.chain`: the switches that letters behind one dash stand for.
- `Argument`: what an argument is.
- `Argument.classify`, `Argument.classifyAll`: telling arguments apart. An option may be
  shortened as long as it stays the only one with its beginning.
- `UsageError`: what can be wrong with a command line.
-/

namespace SuperChip

/-- An option without a value. -/
inductive Switch where
  | help
  | fullscreen
  | disassemble
deriving DecidableEq, Repr

/-- An option with a value. -/
inductive Setting where
  | scale
  | cyclesPerFrame
  | timerRate
  | seed
  | palette
  | trace
deriving DecidableEq, Repr

/-- How messages name a switch. -/
def Switch.title : Switch → String
  | help => "-h/--help"
  | fullscreen => "--fullscreen"
  | disassemble => "--disassemble"

/-- How messages name a setting. -/
def Setting.title : Setting → String
  | scale => "--scale"
  | cyclesPerFrame => "--cycles-per-frame"
  | timerRate => "--timer-hz"
  | seed => "--seed"
  | palette => "--palette"
  | trace => "--trace"

/-- What is wrong with a command line. -/
inductive UsageError where
  /-- The program file is not named. -/
  | romRequired
  /-- Arguments that stand for nothing. -/
  | unrecognized (arguments : List String)
  /-- A beginning that several options have. -/
  | ambiguous (argument : String) (candidates : List String)
  /-- A value that is not of the kind that the setting takes. -/
  | invalidValue (setting : Setting) (kind value : String)
  /-- A value that is not one of those that the setting can have. -/
  | invalidChoice (setting : Setting) (value : String) (choices : List String)
  /-- A setting without a value. -/
  | valueRequired (setting : Setting)
  /-- A switch with a value. -/
  | valueIgnored (switch : Switch) (value : String)
  /-- The program file does not exist. -/
  | romNotFound (path : String)
  /-- A setting whose value has to be positive. -/
  | notPositive (setting : Setting)
deriving DecidableEq, Repr

/-- The wording of an error. -/
def UsageError.message : UsageError → String
  | romRequired => "the following arguments are required: rom"
  | unrecognized arguments => "unrecognized arguments: " ++ " ".intercalate arguments
  | ambiguous argument candidates =>
    "ambiguous option: " ++ argument ++ " could match " ++ ", ".intercalate candidates
  | invalidValue setting kind value =>
    "argument " ++ setting.title ++ ": invalid " ++ kind ++ " value: " ++ Text.quoted value
  | invalidChoice setting value choices =>
    "argument " ++ setting.title ++ ": invalid choice: " ++ Text.quoted value ++
      " (choose from " ++ ", ".intercalate (choices.map Text.quoted) ++ ")"
  | valueRequired setting => "argument " ++ setting.title ++ ": expected one argument"
  | valueIgnored switch value =>
    "argument " ++ switch.title ++ ": ignored explicit argument " ++ Text.quoted value
  | romNotFound path => "ROM file not found: " ++ path
  | notPositive setting => setting.title ++ " must be positive"

/-- The switch that a letter stands for. -/
def Switch.ofLetter? : Char → Option Switch
  | 'h' => some help
  | _ => none

/-- The switches that the letter of a switch and the characters attached to it stand for: each
of them has to be the letter of a further switch. -/
def Switch.chain (first : Switch) : List Char → Except UsageError (List Switch)
  | [] => .ok [first]
  | c :: rest =>
    match ofLetter? c with
    | none => .error (.valueIgnored first (String.ofList (c :: rest)))
    | some next => (chain next rest).map (first :: ·)

/-- What an argument is. -/
inductive Argument where
  | word (text : String)
  /-- The first `--`. -/
  | separator
  /-- A switch, with the value that is attached to it. -/
  | switch (switch : Switch) (value : Option String)
  /-- A switch by its letter, with the text that is attached to it. -/
  | letter (switch : Switch) (attached : Option String)
  /-- A setting, with the value that is attached to it. -/
  | setting (setting : Setting) (value : Option String)
  /-- Something that looks like an option but is none. -/
  | unknown (text : String)
deriving DecidableEq, Repr

namespace Argument

/-- The options by name, in the order in which messages list them. -/
def names : List (String × (Option String → Argument)) :=
  [("-h", letter .help),
   ("--help", switch .help),
   ("--scale", setting .scale),
   ("--cycles-per-frame", setting .cyclesPerFrame),
   ("--timer-hz", setting .timerRate),
   ("--seed", setting .seed),
   ("--palette", setting .palette),
   ("--trace", setting .trace),
   ("--fullscreen", switch .fullscreen),
   ("--disassemble", switch .disassemble)]

/-- The part of a text before the first equals sign, and the part behind it. -/
def splitValue (cs : List Char) : String × Option String :=
  let name := cs.takeWhile (· != '=')
  (String.ofList name,
    if name.length < cs.length then some (String.ofList (cs.drop (name.length + 1))) else none)

/-- The options that an argument can stand for, with the names they have in full. -/
def candidates (cs : List Char) : List (String × Argument) :=
  match cs with
  | '-' :: '-' :: _ =>
    let (beginning, value) := splitValue cs
    (names.filter fun (name, _) => beginning.toList.isPrefixOf name.toList).map
      fun (name, make) => (name, make value)
  | '-' :: c :: rest =>
    (names.filter fun (name, _) => name.toList == ['-', c]).map
      fun (name, make) => (name, make (some (String.ofList rest)))
  | _ => []

/-- Whether a text is a number below zero: digits behind a minus sign, with or without a decimal
point. A line end behind them does not count. -/
def isNegativeNumber (cs : List Char) : Bool :=
  let isDigit (c : Char) := (Text.decimalDigit? c).isSome
  match if cs.getLast? = some '\n' then cs.dropLast else cs with
  | '-' :: digits =>
    match digits.dropWhile isDigit with
    | [] => !digits.isEmpty
    | '.' :: part => !part.isEmpty && part.all isDigit
    | _ => false
  | _ => false

/-- The option that is named in full, with the value that is attached to it by an equals sign. -/
def named? (text : String) : Option Argument :=
  match names.lookup text with
  | some make => some (make none)
  | none =>
    let (name, value) := splitValue text.toList
    if value.isSome then (names.lookup name).map (· value) else none

/-- Tells what an argument is that is not behind a separator. -/
def classify (text : String) : Except UsageError Argument :=
  match text.toList with
  | [] | ['-'] => .ok (word text)
  | '-' :: rest =>
    match named? text with
    | some a => .ok a
    | none =>
      match candidates ('-' :: rest) with
      | [(_, a)] => .ok a
      | (a :: b :: more) => .error (.ambiguous text ((a :: b :: more).map (·.1)))
      | [] =>
        if isNegativeNumber ('-' :: rest) || rest.contains ' ' then .ok (word text)
        else .ok (unknown text)
  | _ => .ok (word text)

/-- Tells what the arguments of a command line are. Behind the separator all are words. -/
def classifyAll : List String → Except UsageError (List Argument)
  | [] => .ok []
  | text :: rest =>
    if text = "--" then .ok (separator :: rest.map word)
    else do
      let a ← classify text
      let others ← classifyAll rest
      .ok (a :: others)

end Argument

end SuperChip
