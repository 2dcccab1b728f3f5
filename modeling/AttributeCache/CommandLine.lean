import AttributeCache.Text.Decimal
import AttributeCache.Text.Split
/-!
# The command line

Switches have a long and a short form. Short ones may stand together behind
one dash; the first of them that takes a value takes what is left of the
argument, with or without `=`, or else the next argument. A switch is given
once. Arguments are taken in from left to right and the first thing amiss
ends the reading, so a request for help counts only if nothing in front of
it is wrong.
-/

namespace AttributeCache.CommandLine

/-- What the arguments ask for. -/
structure Options where
  /-- The file with the settings. -/
  config : Option String := none
  /-- The port, in place of the one in the settings. -/
  port : Option UInt16 := none
  verbose : Bool := false
deriving DecidableEq, Repr

/-- Why nothing is run. -/
inductive Stop where
  /-- Help was asked for. -/
  | help
  /-- The arguments are wrong. -/
  | wrong
deriving DecidableEq, Repr

/-- The code the program ends with. -/
def Stop.exitCode : Stop → UInt32
  | .help => 0
  | .wrong => 2

/-! ## Switches -/

/-- What can be switched on or given a value. -/
inductive Switch where
  | config
  | port
  | verbose
  | help
deriving DecidableEq, Repr

namespace Switch

/-- All switches. -/
def all : List Switch := [.config, .port, .verbose, .help]

/-- The name behind two dashes. -/
def long : Switch → String
  | .config => "config"
  | .port => "port"
  | .verbose => "verbose"
  | .help => "help"

/-- The letter behind one dash. -/
def short : Switch → Char
  | .config => 'c'
  | .port => 'p'
  | .verbose => 'v'
  | .help => 'h'

/-- Whether a value belongs to it. -/
def takesValue : Switch → Bool
  | .config | .port => true
  | .verbose | .help => false

/-- What it is for. -/
def about : Switch → String
  | .config => "file with the settings of the node"
  | .port => "port of the node, in place of the one in the settings"
  | .verbose => "log debug lines, too"
  | .help => "show this help"

end Switch

/-! ## From arguments to switches -/

/-- A switch or what is none. -/
inductive Item where
  /-- A switch, and the value that stands in the same argument. -/
  | switch (s : Switch) (value : Option String)
  | plain (text : String)
  /-- Two dashes alone, behind which nothing is a switch. -/
  | close
  | unknown
deriving DecidableEq, Repr

/-- The switch in a long form, which may have a value behind `=`. -/
def longItem (s : List Char) : Item :=
  let (name, value) :=
    match Text.cut '=' s with
    | some (name, value) => (name, some (String.ofList value))
    | none => (s, none)
  match Switch.all.find? (·.long.toList == name) with
  | some switch => .switch switch value
  | none => .unknown

/-- A value right behind its letter. -/
def attached : List Char → Option String
  | [] => none
  | '=' :: value => some (String.ofList value)
  | value => some (String.ofList value)

/-- The switches behind one dash. -/
def shortItems : List Char → List Item
  | [] => []
  | c :: rest =>
    match Switch.all.find? (·.short == c) with
    | none => [.unknown]
    | some switch =>
      if switch.takesValue then [.switch switch (attached rest)]
      else .switch switch none :: shortItems rest

/-- What an argument holds. -/
def items (argument : String) : List Item :=
  match argument.toList with
  | ['-', '-'] => [.close]
  | '-' :: '-' :: name => [longItem name]
  | '-' :: c :: rest => shortItems (c :: rest)
  | _ => [.plain argument]

/-! ## From switches to options -/

/-- A port. A sign in front does no harm, as long as the number is one. -/
def port? (s : String) : Option UInt16 :=
  let number :=
    match s.toList with
    | '-' :: digits => (Text.readDigits? digits).filter (· = 0)
    | digits => Text.readUnsigned? UInt16.size digits
  number.map UInt16.ofNat

namespace Options

/-- Takes in a switch without a value. -/
def flag (o : Options) : Switch → Except Stop Options
  | .help => .error .help
  | .verbose => if o.verbose then .error .wrong else .ok { o with verbose := true }
  | .config | .port => .error .wrong

/-- Takes in a switch with its value. -/
def give (o : Options) (value : String) : Switch → Except Stop Options
  | .config =>
    if o.config.isSome || value.isEmpty then .error .wrong
    else .ok { o with config := some value }
  | .port =>
    match o.port, port? value with
    | none, some port => .ok { o with port := some port }
    | _, _ => .error .wrong
  | .verbose | .help => .error .wrong

/-- Takes in items one after the other. -/
def takeAll (o : Options) : List Item → Except Stop Options
  | [] => .ok o
  | [.close] => .ok o
  | .switch s (some value) :: rest => do takeAll (← o.give value s) rest
  | .switch s none :: .plain value :: rest =>
    if s.takesValue then do takeAll (← o.give value s) rest
    else do takeAll (← o.flag s) (.plain value :: rest)
  | .switch s none :: rest => do takeAll (← o.flag s) rest
  | .plain _ :: _ | .close :: _ | .unknown :: _ => .error .wrong

end Options

/-- What the arguments ask for. -/
def parse (arguments : List String) : Except Stop Options :=
  Options.takeAll {} (arguments.flatMap items)

/-- The text of the help. -/
def usage : String :=
  Text.join "\n" (Switch.all.map fun s =>
    "  -" ++ s.short.toString ++ ", --" ++ s.long ++ "  " ++ s.about)

end AttributeCache.CommandLine
