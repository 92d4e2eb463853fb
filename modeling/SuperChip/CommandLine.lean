import SuperChip.CommandLine.Argument
import SuperChip.Rom.Path
import SuperChip.Session
import SuperChip.Text.Numeral

/-!
# The command line

- `Options`: what a command line asks for.
- `Given`: the value of a setting, in whose place a separator may stand.
- `PaletteName`: the palettes that can be asked for.
- `Options.parse`: the options of a command line, or what is to be said instead.

Models the options that `main` takes.
-/

namespace SuperChip

open Text

/-- The palettes that can be asked for. -/
inductive PaletteName where
  | mono
  | phosphor
deriving DecidableEq, Repr

namespace PaletteName

/-- The name of a palette. -/
def text : PaletteName → String
  | mono => "mono"
  | phosphor => "phosphor"

/-- All palettes, in the order of their names. -/
def all : List PaletteName := [mono, phosphor]

/-- The palette of a name. -/
def ofText? (name : String) : Option PaletteName := all.find? fun p => p.text == name

/-- The colours of a palette. -/
def palette : PaletteName → Palette
  | mono => .mono
  | phosphor => .phosphor

end PaletteName

/-- The value of a setting. -/
inductive Given (α : Type) where
  | value (a : α)
  /-- A separator stands in the place of the value. -/
  | blank
deriving DecidableEq, Repr

/-- The value, or else the setting that has none. -/
def Given.of {α : Type} (setting : Setting) : Given α → Except Setting α
  | value a => .ok a
  | blank => .error setting

/-- What a command line asks for. -/
structure Options where
  rom : Path
  scale : Given Int
  cyclesPerFrame : Given Int
  timerRate : Given Float
  seed : Given (Option Int)
  palette : Given PaletteName
  trace : Given Int
  fullscreen : Bool
  disassemble : Bool

namespace Options

/-- The options of a command line that names a program file and nothing else. -/
def ofRom (rom : Path) : Options where
  rom := rom
  scale := .value Settings.defaultScale
  cyclesPerFrame := .value Settings.defaultCycles
  timerRate := .value Timers.defaultRate
  seed := .value none
  palette := .value .mono
  trace := .value 0
  fullscreen := false
  disassemble := false

/-- An integer as the value of a setting. -/
def integer (setting : Setting) (value : String) : Except UsageError Int :=
  match readInteger? value with
  | some n => .ok n
  | none => .error (.invalidValue setting "int" value)

/-- A real number as the value of a setting. -/
def real (setting : Setting) (value : String) : Except UsageError Float :=
  match readReal? value with
  | some x => .ok x
  | none => .error (.invalidValue setting "float" value)

/-- A palette as the value of a setting. -/
def choice (setting : Setting) (value : String) : Except UsageError PaletteName :=
  match PaletteName.ofText? value with
  | some p => .ok p
  | none => .error (.invalidChoice setting value (PaletteName.all.map PaletteName.text))

/-- The options with a setting changed. -/
def set (o : Options) (setting : Setting) (value : String) : Except UsageError Options :=
  match setting with
  | .scale => (integer setting value).map fun n => { o with scale := .value n }
  | .cyclesPerFrame => (integer setting value).map fun n => { o with cyclesPerFrame := .value n }
  | .timerRate => (real setting value).map fun x => { o with timerRate := .value x }
  | .seed => (integer setting value).map fun n => { o with seed := .value (some n) }
  | .palette => (choice setting value).map fun p => { o with palette := .value p }
  | .trace => (integer setting value).map fun n => { o with trace := .value n }

/-- The options with a separator in the place of the value of a setting. -/
def blank (o : Options) : Setting → Options
  | .scale => { o with scale := .blank }
  | .cyclesPerFrame => { o with cyclesPerFrame := .blank }
  | .timerRate => { o with timerRate := .blank }
  | .seed => { o with seed := .blank }
  | .palette => { o with palette := .blank }
  | .trace => { o with trace := .blank }

/-- Why a command line gives no options. -/
inductive Refusal where
  /-- It asks for help. -/
  | help
  | error (error : UsageError)
deriving DecidableEq, Repr

/-- What has been read of a command line. -/
structure Progress where
  /-- The options so far, apart from the program file. -/
  options : Options
  rom : Option String
  /-- The arguments that stand for nothing. -/
  extras : List String

namespace Progress

/-- Nothing has been read. -/
def start : Progress := ⟨.ofRom (.ofText ""), none, []⟩

/-- An argument that stands for nothing. -/
def extra (p : Progress) (text : String) : Progress := { p with extras := p.extras ++ [text] }

/-- A setting with its value. -/
def set (p : Progress) (setting : Setting) (value : String) : Except Refusal Progress :=
  if value = "--" then .ok { p with options := p.options.blank setting }
  else match p.options.set setting value with
    | .ok options => .ok { p with options := options }
    | .error e => .error (.error e)

/-- A switch. -/
def turn (p : Progress) : Switch → Except Refusal Progress
  | .help => .error .help
  | .fullscreen => .ok { p with options.fullscreen := true }
  | .disassemble => .ok { p with options.disassemble := true }

/-- A switch by its name, which takes no value. -/
def turnNamed (p : Progress) (switch : Switch) : Option String → Except Refusal Progress
  | none => p.turn switch
  | some value => .error (.error (.valueIgnored switch value))

/-- A switch by its letter, with what is attached to it. All of that has to stand for switches
before any of them is turned. -/
def turnLetters (p : Progress) (switch : Switch) : Option String → Except Refusal Progress
  | none => p.turn switch
  | some "" => .error (.error (.valueIgnored switch ""))
  | some attached =>
    match switch.chain attached.toList with
    | .error e => .error (.error e)
    | .ok switches => switches.foldlM turn p

/-- What has been read after further arguments. The first word is the program file, and a
separator on either side of it belongs to it. `behindRom` says whether the argument before was
the program file. -/
def read (behindRom : Bool) : List Argument → Progress → Except Refusal Progress
  | [], p => .ok p
  | .unknown text :: rest, p => read false rest (p.extra text)
  | .switch switch value :: rest, p => do read false rest (← p.turnNamed switch value)
  | .letter switch attached :: rest, p => do read false rest (← p.turnLetters switch attached)
  | .setting setting (some value) :: rest, p => do read false rest (← p.set setting value)
  | .setting setting none :: .word value :: rest, p => do read false rest (← p.set setting value)
  | .setting setting none :: _, _ => .error (.error (.valueRequired setting))
  | .separator :: rest, p =>
    if behindRom || (p.rom.isNone && !rest.isEmpty) then read false rest p
    else read false rest (p.extra "--")
  | .word text :: rest, p =>
    if p.rom.isNone then read true rest { p with rom := some text }
    else read false rest (p.extra text)

/-- The options, once everything has been read. -/
def finish (p : Progress) : Except Refusal Options :=
  match p.rom with
  | none => .error (.error .romRequired)
  | some rom =>
    if p.extras.isEmpty then .ok { p.options with rom := .ofText rom }
    else .error (.error (.unrecognized p.extras))

end Progress

/-- The options of a command line. -/
def parse (arguments : List String) : Except Refusal Options :=
  match Argument.classifyAll arguments with
  | .error e => .error (.error e)
  | .ok classified =>
    match Progress.read false classified .start with
    | .error r => .error r
    | .ok p => p.finish

end Options

end SuperChip
