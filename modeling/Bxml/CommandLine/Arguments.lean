import Bxml.World.Basic

/-!
# Command line arguments

The command line names one document. Options may stand before and after it, with their value in the
next argument or after an equals sign, each at most once. After `--` nothing is an option.
-/

namespace Bxml.CommandLine

/-- An option that takes a value. -/
inductive OptionName
  | resources
  | locale
  | charset
  | log
deriving DecidableEq, Repr

namespace OptionName

/-- All options that take a value. -/
def all : List OptionName := [.resources, .locale, .charset, .log]

/-- The name of an option, without its dashes. -/
def text : OptionName → String
  | .resources => "resources"
  | .locale => "locale"
  | .charset => "charset"
  | .log => "log"

/-- Whether a value fits an option: a path is not empty. -/
def accepts : OptionName → String → Bool
  | .resources, v => v != ""
  | _, _ => true

end OptionName

/-- The flag for output on one line. -/
def compactFlag : String := "compact"

/-- The flags that ask for a text about the program, with their letters. -/
def helpFlag : String × Char := ("help", 'h')

@[inherit_doc helpFlag]
def versionFlag : String × Char := ("version", 'V')

/-- What a command line says so far. -/
structure Arguments where
  document : Option String
  values : List (OptionName × String)
  compact : Bool
deriving Repr

namespace Arguments

/-- What an empty command line says. -/
def none : Arguments := ⟨.none, [], false⟩

/-- The value of an option. -/
def value? (a : Arguments) (o : OptionName) : Option String := a.values.lookup o

end Arguments

/-- What a command line asks for. -/
inductive Request
  | load (document : String) (a : Arguments)
  | help
  | version
  | invalid
deriving Repr

/-- An argument divided at its first equals sign. -/
def splitValue (l : List Char) : String × Option String :=
  let name := l.takeWhile (· != '=')
  match l.drop name.length with
  | [] => (String.ofList name, .none)
  | _ :: v => (String.ofList name, some (String.ofList v))

/-- How an argument is to be understood. -/
inductive ArgumentKind
  | escape
  | long (name : String) (value : Option String)
  | letters (l : List Char)
  | plain
deriving Repr

/-- How an argument before `--` is to be understood. A dash by itself is no option. -/
def argumentKind (s : String) : ArgumentKind :=
  match s.toList with
  | ['-', '-'] => .escape
  | '-' :: '-' :: r => .long (splitValue r).1 (splitValue r).2
  | '-' :: c :: r => .letters (c :: r)
  | _ => .plain

/-- Whether an argument can be the value of the option before it. -/
def isValue (s : String) : Bool :=
  match argumentKind s with
  | .plain => true
  | _ => false

/-- Stores the value of an option, unless it has one already. -/
def Arguments.setValue? (a : Arguments) (o : OptionName) (v : String) : Option Arguments :=
  if (a.value? o).isSome || !o.accepts v then .none else some { a with values := (o, v) :: a.values }

/-- Stores the document, unless there is one already. -/
def Arguments.setDocument? (a : Arguments) (s : String) : Option Arguments :=
  if a.document.isSome || s == "" then .none else some { a with document := some s }

/-- What the end of a command line asks for. -/
def Arguments.finish (a : Arguments) : Request :=
  match a.document with
  | some d => .load d a
  | .none => .invalid

/-- What the arguments after `--` ask for. -/
def readPlain : List String → Arguments → Request
  | [], a => a.finish
  | s :: r, a =>
    match a.setDocument? s with
    | some a => readPlain r a
    | .none => .invalid

/-- What the arguments ask for, after those that were read already. -/
def readFrom : List String → Arguments → Request
  | [], a => a.finish
  | s :: r, a =>
    match argumentKind s with
    | .escape => readPlain r a
    | .letters (c :: _) =>
      if c = helpFlag.2 then .help else if c = versionFlag.2 then .version else .invalid
    | .letters [] => .invalid
    | .plain =>
      match a.setDocument? s with
      | some a => readFrom r a
      | .none => .invalid
    | .long name value =>
      match OptionName.all.find? (·.text == name), value with
      | some o, some v =>
        match a.setValue? o v with
        | some a => readFrom r a
        | .none => .invalid
      | some o, .none =>
        match r with
        | v :: r =>
          if isValue v then
            match a.setValue? o v with
            | some a => readFrom r a
            | .none => .invalid
          else .invalid
        | [] => .invalid
      | .none, some _ => .invalid
      | .none, .none =>
        if name = helpFlag.1 then .help
        else if name = versionFlag.1 then .version
        else if name = compactFlag ∧ !a.compact then readFrom r { a with compact := true }
        else .invalid

/-- What a command line asks for. -/
def Request.ofArguments (args : List String) : Request := readFrom args .none

end Bxml.CommandLine
