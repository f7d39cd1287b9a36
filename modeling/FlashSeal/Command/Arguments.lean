/-
FlashSeal.Command.Arguments — the command that the arguments of a run ask for.

Options that hold for every command may stand before the command's name or after it; the others
follow the name.  An option's value stands in the next argument, or in the same one behind an
equals sign, or right behind a short option.  Arguments are taken from the left, and any that is
not understood makes the whole run unusable.
-/
import FlashSeal.Quantity

namespace FlashSeal

/-- What a run is asked to do. -/
inductive Command
  /-- Seal an image with the region of a map. -/
  | embed (map input output : String) (padTo : Option Nat)
  /-- Show the region of an image. -/
  | describe (input : String) (map : Option String)
  /-- Check the digest of an image. -/
  | verify (input : String) (map : Option String)
  | listAreas (map : String)
  deriving DecidableEq, Repr

/-- What the arguments of a run ask for. -/
inductive Invocation
  | version
  | help
  /-- A command, with the number of times that more events were asked for. -/
  | run (verbosity : Nat) (command : Command)
  deriving DecidableEq, Repr

namespace Arguments

/-! ## Names -/

/-- A command's name. -/
inductive Verb
  | embed
  | describe
  | verify
  | listAreas
  deriving DecidableEq, Repr

/-- The command that a word names. -/
def Verb.ofWord? : String → Option Verb
  | "embed" => some embed
  | "show" => some describe
  | "verify" => some verify
  | "areas" => some listAreas
  | _ => none

/-- An option that takes a value. -/
inductive Key
  | map
  | input
  | output
  | padTo
  deriving DecidableEq, Repr

/-- The options of a command. -/
def Verb.keys : Verb → List Key
  | embed => [.map, .input, .output, .padTo]
  | describe => [.map, .input]
  | verify => [.map, .input]
  | listAreas => [.map]

/-- The long name of an option. -/
def Key.long : Key → List Char
  | map => "flash-map".toList
  | input => "input".toList
  | output => "output".toList
  | padTo => "pad-to".toList

/-- The short name of an option. -/
def Key.short? : Key → Option Char
  | map => some 'm'
  | input => some 'i'
  | output => some 'o'
  | padTo => none

/-! ## Single arguments -/

/-- What an argument is. -/
inductive Reading
  /-- A request for more events, so many times over. -/
  | verbose (times : Nat)
  /-- A request for help, whatever else is said. -/
  | help
  /-- A request for the version, whatever else is said. -/
  | version
  /-- An option whose value is the next argument, after requests for more events. -/
  | open (times : Nat) (key : Key)
  /-- An option with its value, after requests for more events. -/
  | given (times : Nat) (key : Key) (value : String)
  | stop
  /-- An argument that is no option. -/
  | word (s : String)
  | unknown

/-- Reads short options that stand together; `versioned` allows the one for the version. -/
def readShort (keys : List Key) (versioned : Bool) (times : Nat) : List Char → Reading
  | [] => .verbose times
  | 'v' :: more => readShort keys versioned (times + 1) more
  | 'h' :: _ => .help
  | c :: more =>
    if versioned && c == 'V' then .version
    else
      match keys.find? fun k => k.short? == some c with
      | none => .unknown
      | some k =>
        match more with
        | [] => .open times k
        | '=' :: value => .given times k (String.ofList value)
        | value => .given times k (String.ofList value)

/-- Reads a long option behind its two dashes. -/
def readLong (keys : List Key) (versioned : Bool) (cs : List Char) : Reading :=
  let name := cs.takeWhile (· != '=')
  match keys.find? fun k => k.long == name, cs.dropWhile (· != '=') with
  | some k, [] => .open 0 k
  | some k, _ :: value => .given 0 k (String.ofList value)
  | none, _ :: _ => .unknown
  | none, [] =>
    if name = "verbose".toList then .verbose 1
    else if name = "help".toList then .help
    else if versioned && name == "version".toList then .version
    else .unknown

/-- Reads an argument. -/
def read (keys : List Key) (versioned : Bool) (s : String) : Reading :=
  match s.toList with
  | ['-', '-'] => .stop
  | '-' :: '-' :: cs => readLong keys versioned cs
  | '-' :: c :: cs => readShort keys versioned 0 (c :: cs)
  | _ => .word s

/-! ## Commands -/

/-- The options that a command was given. -/
structure Given where
  map : Option String := none
  input : Option String := none
  output : Option String := none
  padTo : Option Nat := none

/-- Takes note of an option.  Each may be given once, a path is not empty, and a size must be
one. -/
def Given.add? (g : Given) (key : Key) (value : String) : Option Given :=
  let path := if value.isEmpty then none else some value
  match key with
  | .map => if g.map.isSome then none else path.map fun p => { g with map := some p }
  | .input => if g.input.isSome then none else path.map fun p => { g with input := some p }
  | .output => if g.output.isSome then none else path.map fun p => { g with output := some p }
  | .padTo =>
    if g.padTo.isSome then none
    else (readPadSize value).toOption.map fun n => { g with padTo := some n }

/-- The command of a name with these options, if none that it needs is missing. -/
def Given.command? (g : Given) : Verb → Option Command
  | .embed => do return .embed (← g.map) (← g.input) (← g.output) g.padTo
  | .describe => g.input.map fun input => .describe input g.map
  | .verify => g.input.map fun input => .verify input g.map
  | .listAreas => g.map.map .listAreas

/-- Reads the arguments behind a command's name.  `waiting` is the option whose value comes next,
`before` and `times` count the requests for more events in front of the name and behind it; the
latter hold if there are any. -/
def readOptions (verb : Verb) (before : Nat) (g : Given) (times : Nat) (waiting : Option Key) :
    List String → Option Invocation
  | [] =>
    match waiting with
    | some _ => none
    | none => (g.command? verb).map (.run (if times = 0 then before else times))
  | s :: rest =>
    match waiting, read verb.keys false s with
    | some key, .word value =>
      (g.add? key value).bind fun g => readOptions verb before g times none rest
    | some _, _ => none
    | none, .verbose n => readOptions verb before g (times + n) none rest
    | none, .help => some .help
    | none, .open n key => readOptions verb before g (times + n) (some key) rest
    | none, .given n key value =>
      (g.add? key value).bind fun g => readOptions verb before g (times + n) none rest
    | none, .stop =>
      if rest.isEmpty then (g.command? verb).map (.run (if times = 0 then before else times))
      else none
    | none, .version | none, .word _ | none, .unknown => none

/-- Help on what the words behind the word for help name: the program, a command, or help
itself. -/
def helpOn : List String → Option Invocation
  | [] => some .help
  | [w] => if w = "help" || (Verb.ofWord? w).isSome then some .help else none
  | _ => none

/-- Reads the arguments in front of a command's name. -/
def readVerb (times : Nat) : List String → Option Invocation
  | [] => none
  | s :: rest =>
    match read [] true s with
    | .verbose n => readVerb (times + n) rest
    | .help => some .help
    | .version => some .version
    | .word "help" => helpOn rest
    | .word w => (Verb.ofWord? w).bind fun verb => readOptions verb times {} 0 none rest
    | _ => none

end Arguments

/-- What the arguments of a run ask for, if they can be understood. -/
def Invocation.ofArguments? (args : List String) : Option Invocation := Arguments.readVerb 0 args

end FlashSeal
