import CompiledViews.Path
import CompiledViews.Settings.Variable

/-!
# The arguments of the command line

Arguments are read from the left, and the first one that cannot be read ends it; only then it is
asked whether something is missing. An option that takes a value takes the next argument, unless
that is an option itself; with `=`, or right behind its letter, the value may also be part of the
same argument. Letters can be put together behind one dash.
-/

namespace CompiledViews.CommandLine

/-- The options of the commands. -/
inductive Switch
  | config
  | root
  | views
  | outputs
  | force
  | verbose
  | help
  deriving DecidableEq

def Switch.takesValue : Switch → Bool
  | config => true
  | root => true
  | views => true
  | outputs => true
  | force => false
  | verbose => false
  | help => false

def Switch.ofName? (name : Text) : Option Switch :=
  match String.ofList name with
  | "config" => some config
  | "template-root" => some root
  | "views-dir" => some views
  | "cache-dir" => some outputs
  | "force" => some force
  | "verbose" => some verbose
  | "help" => some help
  | _ => none

def Switch.ofLetter? : Char → Option Switch
  | 'c' => some config
  | 'r' => some root
  | 'f' => some force
  | 'v' => some verbose
  | 'h' => some help
  | _ => none

inductive Verb
  /-- Renders a template file. -/
  | render
  /-- Checks that a view can be loaded and parsed. -/
  | check
  deriving DecidableEq

def Verb.ofName? (name : Text) : Option Verb :=
  match String.ofList name with
  | "render" => some render
  | "check" => some check
  | _ => none

/-- Whether the command has the option. -/
def Verb.has : Verb → Switch → Bool
  | render, _ => true
  | check, switch => switch != .force

/-- Whether the command can be given this text: a file has a name, while a view may have none. -/
def Verb.allows : Verb → Text → Bool
  | render, subject => !subject.isEmpty
  | check, _ => true

/-- Why arguments do not make up a command. -/
inductive Stop
  /-- They are not as they should be. -/
  | usage
  /-- They ask for help. -/
  | help
  /-- They ask for the version. -/
  | version
  deriving DecidableEq

/-- A command: what to do, with what, and the options given, each with its value if it takes one. -/
structure Command where
  verb : Verb
  subject : Text
  given : List (Switch × Text)

def Command.path? (command : Command) (switch : Switch) : Option Path :=
  (command.given.lookup switch).map Path.mk

def Command.has (command : Command) (switch : Switch) : Bool :=
  (command.given.lookup switch).isSome

/-! ## Reading -/

/-- What is read of a command so far. -/
structure Reading where
  verb : Verb
  subject? : Option Text
  given : List (Switch × Text)
  /-- Whether a `--` has come: no options follow it. -/
  plain : Bool
  /-- The option that takes the next argument. -/
  awaiting? : Option Switch

namespace Reading

/-- Adds an option with its value. No option is given twice, and no path is empty. -/
def give (r : Reading) (switch : Switch) (value : Text) : Except Stop Reading :=
  if switch = .help then .error .help
  else if r.given.any (·.1 == switch) then .error .usage
  else if switch.takesValue && value.isEmpty then .error .usage
  else .ok { r with given := r.given ++ [(switch, value)], awaiting? := none }

/-- Adds what the command is about. -/
def setSubject (r : Reading) (t : Text) : Except Stop Reading :=
  if r.subject?.isSome || !r.verb.allows t then .error .usage else .ok { r with subject? := some t }

/-- Reads an option with a long name, after its two dashes. -/
def long (r : Reading) (t : Text) : Except Stop Reading :=
  let (name, value?) := match t.splitOnce? '=' with
    | some (name, value) => (name, some value)
    | none => (t, none)
  match (Switch.ofName? name).filter r.verb.has, value? with
  | none, _ => .error .usage
  | some switch, some value => if switch.takesValue then r.give switch value else .error .usage
  | some switch, none =>
    if switch.takesValue then .ok { r with awaiting? := some switch } else r.give switch []

/-- Reads options by their letters, after one dash. -/
def short (r : Reading) : Text → Except Stop Reading
  | [] => .ok r
  | c :: rest =>
    match (Switch.ofLetter? c).filter r.verb.has with
    | none => .error .usage
    | some switch =>
      if switch.takesValue then
        match rest with
        | [] => .ok { r with awaiting? := some switch }
        | '=' :: value => r.give switch value
        | value => r.give switch value
      else do (← r.give switch []).short rest

/-- Whether an argument is an option, or ends the options. -/
def isOption : Text → Bool
  | '-' :: _ :: _ => true
  | _ => false

def argument (r : Reading) (t : Text) : Except Stop Reading :=
  match r.awaiting? with
  | some switch => if isOption t then .error .usage else r.give switch t
  | none =>
    if r.plain then r.setSubject t
    else match t with
      | ['-', '-'] => .ok { r with plain := true }
      | '-' :: '-' :: name => r.long name
      | '-' :: c :: rest => r.short (c :: rest)
      | t => r.setSubject t

/-- The command, if nothing is missing. -/
def finish (r : Reading) : Except Stop Command :=
  match r.awaiting?, r.subject? with
  | none, some subject => .ok ⟨r.verb, subject, r.given⟩
  | _, _ => .error .usage

end Reading

/-- The variable for the root, where the option is not given. -/
def rootVariable : Text := "VW_TEMPLATE_ROOT".toList

/-- Adds what variables say to options that are not given. -/
def addVariables (environment : Environment) (r : Reading) : Except Stop Reading :=
  match environment.lookup rootVariable with
  | some value => if r.given.any (·.1 == .root) then .ok r else r.give .root value
  | none => .ok r

/-- Reads the arguments of a command. -/
def readCommand (environment : Environment) (verb : Verb) (arguments : List Text) :
    Except Stop Command := do
  let r ← arguments.foldlM Reading.argument ⟨verb, none, [], false, none⟩
  if r.awaiting?.isSome then throw .usage
  (← addVariables environment r).finish

/-- Whether an argument asks for help or the version by a letter; the first one counts. -/
def ofFirstLetter : Text → Stop
  | 'V' :: _ => .version
  | 'h' :: _ => .help
  | _ => .usage

/-- Reads all arguments: the name of a command, and its own. -/
def read (environment : Environment) : List Text → Except Stop Command
  | [] => .error .usage
  | name :: arguments =>
    match Verb.ofName? name with
    | some verb => readCommand environment verb arguments
    | none =>
      match String.ofList name with
      | "--version" => .error .version
      | "--help" => .error .help
      | "help" => .error (if arguments.all fun t ↦ (Verb.ofName? t).isSome then .help else .usage)
      | _ => .error (match name with
        | '-' :: letters => ofFirstLetter letters
        | _ => .usage)

end CompiledViews.CommandLine
