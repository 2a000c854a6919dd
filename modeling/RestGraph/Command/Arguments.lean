/-!
The command line. Options may stand anywhere before a double dash; what is left over is the input.
-/

set_option autoImplicit false

namespace RestGraph.Command

structure Arguments where
  input : Option String := none
  output : Option String := none
  name : Option String := none
  dryRun : Bool := false
  indent : Option Nat := none
  operationFromMethod : Bool := false
  allowCollisions : Bool := false
  requestModule : Option String := none
  contextModule : Option String := none
  verbosity : Nat := 0
  deriving DecidableEq

inductive ValueOption where
  | output
  | name
  | indent
  | requestModule
  | contextModule
  deriving DecidableEq

inductive Switch where
  | dryRun
  | operationFromMethod
  | allowCollisions
  | verbose
  | help
  | version
  deriving DecidableEq

inductive OptionKind where
  | value (option : ValueOption)
  | switch (option : Switch)
  deriving DecidableEq

/-- How reading a command line ends when no run follows. -/
inductive Halt where
  | usage
  | help
  | version
  deriving DecidableEq

def longOption? (name : String) : Option OptionKind :=
  match name with
  | "output" => some (.value .output)
  | "name" => some (.value .name)
  | "indent" => some (.value .indent)
  | "request-module" => some (.value .requestModule)
  | "context-module" => some (.value .contextModule)
  | "dry-run" => some (.switch .dryRun)
  | "operation-from-method" => some (.switch .operationFromMethod)
  | "allow-collisions" => some (.switch .allowCollisions)
  | "verbose" => some (.switch .verbose)
  | "help" => some (.switch .help)
  | "version" => some (.switch .version)
  | _ => none

def shortOption? (name : Char) : Option OptionKind :=
  match name with
  | 'o' => some (.value .output)
  | 'v' => some (.switch .verbose)
  | 'h' => some (.switch .help)
  | 'V' => some (.switch .version)
  | _ => none

def natOfDigits? (digits : List Char) : Option Nat :=
  if digits.isEmpty || !digits.all Char.isDigit then none
  else some (digits.foldl (fun n c => n * 10 + (c.toNat - '0'.toNat)) 0)

/-- A width of indentation: a number from 0 to 255, with or without a sign. -/
def indentWidth? (text : String) : Option Nat := do
  let width ← match text.toList with
    | '+' :: digits => natOfDigits? digits
    | '-' :: digits => (natOfDigits? digits).filter (· == 0)
    | digits => natOfDigits? digits
  if width ≤ 255 then some width else none

namespace Arguments

def once {α : Type} (old : Option α) (new : α) : Except Halt (Option α) :=
  if old.isSome then .error .usage else .ok (some new)

def givenPath (text : String) : Except Halt String :=
  if text.isEmpty then .error .usage else .ok text

def setValue (arguments : Arguments) (option : ValueOption) (value : String) :
    Except Halt Arguments := do
  match option with
  | .output => return { arguments with output := ← once arguments.output (← givenPath value) }
  | .name => return { arguments with name := ← once arguments.name value }
  | .indent =>
    match indentWidth? value with
    | some width => return { arguments with indent := ← once arguments.indent width }
    | none => .error .usage
  | .requestModule =>
    return { arguments with requestModule := ← once arguments.requestModule value }
  | .contextModule =>
    return { arguments with contextModule := ← once arguments.contextModule value }

def turnOn (arguments : Arguments) (switch : Switch) : Except Halt Arguments :=
  match switch with
  | .dryRun =>
    if arguments.dryRun then .error .usage else .ok { arguments with dryRun := true }
  | .operationFromMethod =>
    if arguments.operationFromMethod then .error .usage
    else .ok { arguments with operationFromMethod := true }
  | .allowCollisions =>
    if arguments.allowCollisions then .error .usage
    else .ok { arguments with allowCollisions := true }
  | .verbose => .ok { arguments with verbosity := arguments.verbosity + 1 }
  | .help => .error .help
  | .version => .error .version

def setInput (arguments : Arguments) (text : String) : Except Halt Arguments := do
  return { arguments with input := ← once arguments.input (← givenPath text) }

/-- Reads the letters of a cluster of short options. An option with a value takes the rest of the
cluster, after a sign of equality if there is one; if there is no rest it waits for the next word. -/
def readCluster (arguments : Arguments) :
    List Char → Except Halt (Arguments × Option ValueOption)
  | [] => .ok (arguments, none)
  | letter :: rest =>
    match shortOption? letter, rest with
    | none, _ => .error .usage
    | some (.switch switch), _ => do
      let next ← arguments.turnOn switch
      next.readCluster rest
    | some (.value option), [] => .ok (arguments, some option)
    | some (.value option), '=' :: value => do
      return (← arguments.setValue option (String.ofList value), none)
    | some (.value option), value => do
      return (← arguments.setValue option (String.ofList value), none)

def readLong (arguments : Arguments) (chars : List Char) :
    Except Halt (Arguments × Option ValueOption) :=
  let name := chars.takeWhile (· != '=')
  match longOption? (String.ofList name), chars.drop name.length with
  | none, _ => .error .usage
  | some (.switch switch), [] => do return (← arguments.turnOn switch, none)
  | some (.switch _), _ :: _ => .error .usage
  | some (.value option), [] => .ok (arguments, some option)
  | some (.value option), _ :: value => do
    return (← arguments.setValue option (String.ofList value), none)

def readInputs (arguments : Arguments) (words : List String) : Except Halt Arguments :=
  words.foldlM setInput arguments

/-- Reads words, the first of which is the value of an option that waits for one. A value of its own
does not begin with a dash, unless it is one dash alone. -/
def readWords (arguments : Arguments) (waiting : Option ValueOption) :
    List String → Except Halt Arguments
  | [] => if waiting.isSome then .error .usage else .ok arguments
  | word :: rest =>
    match waiting, word.toList with
    | some _, '-' :: _ :: _ => .error .usage
    | some option, _ => do
      let next ← arguments.setValue option word
      next.readWords none rest
    | none, ['-', '-'] => arguments.readInputs rest
    | none, '-' :: '-' :: chars => do
      let (next, waiting) ← arguments.readLong chars
      next.readWords waiting rest
    | none, '-' :: letter :: letters => do
      let (next, waiting) ← arguments.readCluster (letter :: letters)
      next.readWords waiting rest
    | none, _ => do
      let next ← arguments.setInput word
      next.readWords none rest

def parse (words : List String) : Except Halt (Arguments × String) := do
  let arguments ← readWords {} none words
  match arguments.input with
  | some input => return (arguments, input)
  | none => .error .usage

end Arguments

end RestGraph.Command
