import DocLint.Text.Basic

/-!
# Arguments of the command line

There are two commands, `lint` and `init`. Options may stand before and after the patterns, and those
for all commands also before the command. `Invocation.parse?` reads a command line and refuses one
that is not well-formed.
-/

namespace DocLint

/-- How reports are printed. -/
inductive Format where
  | text
  | json
  deriving DecidableEq, Repr

/-- What a command line asks for. -/
inductive Invocation where
  | version
  /-- Check the files that patterns name, with the configuration in the given file if there is one. -/
  | lint (config : Option Text) (patterns : List Text) (format : Format) (noManifest : Bool)
  /-- Write a configuration file, even if there is one. -/
  | init (force : Bool)
  deriving DecidableEq, Repr

namespace Arguments

/-- An option. -/
inductive Flag where
  | config
  | verbose
  | version
  | format
  | noManifest
  | force
  deriving DecidableEq, Repr

/-- Where options stand: before the command, or after it. -/
inductive Level where
  | top
  | lint
  | init
  deriving DecidableEq, Repr

def Level.flags : Level → List Flag
  | .top => [.config, .verbose, .version]
  | .lint => [.config, .verbose, .format, .noManifest]
  | .init => [.config, .verbose, .force]

def Flag.long : Flag → Text
  | .config => "config".toList
  | .verbose => "verbose".toList
  | .version => "version".toList
  | .format => "format".toList
  | .noManifest => "no-manifest".toList
  | .force => "force".toList

def Flag.short? : Flag → Option Char
  | .config => some 'c'
  | .verbose => some 'v'
  | .version => some 'V'
  | .format => some 'f'
  | .noManifest | .force => none

/-- Whether an option has a value. -/
def Flag.hasValue : Flag → Bool
  | .config | .format => true
  | _ => false

/-- What was read at a level. -/
structure Given where
  config : Option Text := none
  format : Option Format := none
  /-- The options without a value. -/
  switches : List Flag := []
  /-- The patterns, the last first. -/
  patterns : List Text := []
  deriving DecidableEq, Repr

def format? (t : Text) : Option Format :=
  if t == "text".toList then some .text else if t == "json".toList then some .json else none

/-- Adds an option with its value. No option may be repeated. -/
def Given.setValue? (g : Given) (flag : Flag) (value : Text) : Option Given :=
  match flag with
  | .config =>
    if value.isEmpty || g.config.isSome then none else some { g with config := some value }
  | .format =>
    match g.format, format? value with
    | none, some f => some { g with format := some f }
    | _, _ => none
  | _ => none

def Given.setSwitch? (g : Given) (flag : Flag) : Option Given :=
  if g.switches.contains flag then none else some { g with switches := flag :: g.switches }

/-- What an argument with options leads to. -/
inductive Progress where
  /-- All was read. -/
  | done (g : Given)
  /-- The next argument is the value of an option. -/
  | needsValue (g : Given) (flag : Flag)
  /-- The version is asked for, and nothing else counts. -/
  | version
  deriving DecidableEq, Repr

/-- Reads an option with a long name, without its dashes. -/
def long? (level : Level) (g : Given) (t : Text) : Option Progress :=
  let name := t.takeWhile (· != '=')
  match level.flags.find? (·.long == name), t.dropWhile (· != '=') with
  | none, _ => none
  | some .version, [] => some .version
  | some flag, [] =>
    if flag.hasValue then some (.needsValue g flag) else (g.setSwitch? flag).map .done
  | some flag, _ :: value => (g.setValue? flag value).map .done

/-- Reads options with short names, without their dash. A value may follow in the same argument. -/
def short? (level : Level) : Given → Text → Option Progress
  | g, [] => some (.done g)
  | g, c :: cs =>
    match level.flags.find? (·.short? == some c) with
    | none => none
    | some .version => some .version
    | some flag =>
      if flag.hasValue then
        match cs with
        | [] => some (.needsValue g flag)
        | '=' :: value => (g.setValue? flag value).map .done
        | value => (g.setValue? flag value).map .done
      else
        match g.setSwitch? flag with
        | none => none
        | some g => short? level g cs

/-- Whether an argument is the value of the option before it: it does not look like an option. -/
def isValue : Text → Bool
  | ['-'] => true
  | '-' :: _ => false
  | _ => true

/-- Reads one argument that begins with a dash. -/
def option? (level : Level) (g : Given) : Text → Option Progress
  | '-' :: '-' :: t => long? level g t
  | '-' :: t => short? level g t
  | _ => none

/-- Whether an argument holds options. A dash alone does not. -/
def isOption : Text → Bool
  | '-' :: _ :: _ => true
  | _ => false

/-- What reading the arguments of a level leads to. -/
inductive Stop where
  | given (g : Given)
  /-- An argument that is no option, and those after it. -/
  | command (g : Given) (name : Text) (rest : List Text)
  | version
  deriving DecidableEq, Repr

/-- Reads arguments. Before the command, the first argument that is no option stops; after it, such
arguments are patterns. Nothing after two dashes is an option. -/
def read? (level : Level) : Given → List Text → Option Stop
  | g, [] => some (.given g)
  | g, a :: rest =>
    if a == ['-', '-'] then
      -- What follows would have to be the command.
      if level == .top && !rest.isEmpty then none
      else some (.given { g with patterns := rest.reverse ++ g.patterns })
    else if isOption a then
      match option? level g a with
      | none => none
      | some .version => some .version
      | some (.done g) => read? level g rest
      | some (.needsValue g flag) =>
        match rest with
        | [] => none
        | value :: rest =>
          if isValue value then
            match g.setValue? flag value with
            | none => none
            | some g => read? level g rest
          else none
    else if level == .top then some (.command g a rest)
    else read? level { g with patterns := a :: g.patterns } rest

end Arguments

namespace Invocation

open Arguments

def afterCommand? (level : Level) (top : Given) (rest : List Text) : Option Invocation :=
  match read? level {} rest with
  | some (.given g) =>
    match level with
    | .lint =>
      if g.patterns.isEmpty then none
      else
        some (.lint (g.config.or top.config) g.patterns.reverse (g.format.getD .text)
          (g.switches.contains .noManifest))
    | .init => if g.patterns.isEmpty then some (.init (g.switches.contains .force)) else none
    | .top => none
  | some .version => some .version
  | _ => none

def parse? (args : List Text) : Option Invocation :=
  match read? .top {} args with
  | some (.command g name rest) =>
    if name == "lint".toList then afterCommand? .lint g rest
    else if name == "init".toList then afterCommand? .init g rest
    else none
  | some .version => some .version
  | _ => none

end Invocation

end DocLint
