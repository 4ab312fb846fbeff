import SwiftExpansion.Text.Quoted

/-!
# Command lines

Arguments are either options or positional. A long option is written out, with its value after an
equals sign or in the next argument; short options may share one dash, and the rest of the argument
is the value of the first that takes one. Two dashes end the options. A group of commands stops at
its first positional argument, a command takes options anywhere.
-/
namespace SwiftExpansion.Command

inductive Switch
  | config
  | format
  | output
  | jobs
  | verbose
  | version
  | help
  deriving Repr, DecidableEq

structure SwitchForm where
  switch : Switch
  long : String
  short : Option Char
  takesValue : Bool
  deriving Repr, DecidableEq

structure Given where
  switch : Switch
  value : Option String
  deriving Repr, DecidableEq

inductive UsageFault
  | noSuchOption (name : String)
  | missingValue (name : String)
  | unexpectedValue (name : String)
  | missingCommand
  | noSuchCommand (name : String)
  | missingFiles
  | extraArguments (arguments : List String)
  | invalidValue (parameter reason : String)
  deriving Repr, DecidableEq

def UsageFault.message : UsageFault → String
  | .noSuchOption name => "No such option " ++ Text.quoted name ++ "."
  | .missingValue name => "Option " ++ Text.quoted name ++ " requires an argument."
  | .unexpectedValue name => "Option " ++ Text.quoted name ++ " does not take a value."
  | .missingCommand => "Missing command."
  | .noSuchCommand name => "No such command " ++ Text.quoted name ++ "."
  | .missingFiles => "Missing argument 'REQUEST_FILES...'."
  | .extraArguments arguments =>
    "Got unexpected extra argument" ++ (if arguments.length == 1 then "" else "s") ++
      " (" ++ " ".intercalate arguments ++ ")"
  | .invalidValue parameter reason => "Invalid value for " ++ parameter ++ ": " ++ reason

/-- Whether a fault belongs to an option alone, whichever command it was given to. -/
def UsageFault.isOptionUse : UsageFault → Bool
  | .missingValue _ | .unexpectedValue _ => true
  | _ => false

structure Match where
  given : List Given
  takesNext : Bool

/-- The switches that share a dash. `next` is the argument after them. -/
def matchShort (forms : List SwitchForm) (next : Option String) :
    List Char → Except UsageFault Match
  | [] => .ok ⟨[], false⟩
  | c :: cs =>
    let name := String.ofList ['-', c]
    match forms.find? (·.short == some c) with
    | none => .error (.noSuchOption name)
    | some form =>
      if form.takesValue then
        if cs.isEmpty then
          match next with
          | some value => .ok ⟨[⟨form.switch, some value⟩], true⟩
          | none => .error (.missingValue name)
        else .ok ⟨[⟨form.switch, some (String.ofList cs)⟩], false⟩
      else do
        let m ← matchShort forms next cs
        return { m with given := ⟨form.switch, none⟩ :: m.given }

def matchLong (form : SwitchForm) (explicit next : Option String) : Except UsageFault Match :=
  if form.takesValue then
    match explicit, next with
    | some value, _ => .ok ⟨[⟨form.switch, some value⟩], false⟩
    | none, some value => .ok ⟨[⟨form.switch, some value⟩], true⟩
    | none, none => .error (.missingValue form.long)
  else if explicit.isSome then .error (.unexpectedValue form.long)
  else .ok ⟨[⟨form.switch, none⟩], false⟩

def splitOption (arg : String) : String × Option String :=
  let name := arg.toList.takeWhile (· != '=')
  match arg.toList.drop name.length with
  | [] => (arg, none)
  | _ :: value => (String.ofList name, some (String.ofList value))

def matchOption (forms : List SwitchForm) (arg : String) (next : Option String) :
    Except UsageFault Match :=
  let (name, explicit) := splitOption arg
  match forms.find? (·.long == name) with
  | some form => matchLong form explicit next
  | none =>
    match arg.toList with
    | '-' :: '-' :: _ => .error (.noSuchOption name)
    | cs => matchShort forms next (cs.drop 1)

/-- Whether an argument is an option; a lone dash is not. -/
def isOption (arg : String) : Bool :=
  arg.toList.head? == some '-' && 1 < arg.length

structure Parsed where
  given : List Given
  positional : List String

/-- Reads arguments in order, passing over the first when it was taken as a value. -/
def parseFrom (forms : List SwitchForm) (anywhere : Bool) :
    Bool → List String → Except UsageFault Parsed
  | _, [] => .ok ⟨[], []⟩
  | true, _ :: args => parseFrom forms anywhere false args
  | false, arg :: args =>
    if arg == "--" then .ok ⟨[], args⟩
    else if isOption arg then do
      let m ← matchOption forms arg args.head?
      let p ← parseFrom forms anywhere m.takesNext args
      return { p with given := m.given ++ p.given }
    else if anywhere then do
      let p ← parseFrom forms anywhere false args
      return { p with positional := arg :: p.positional }
    else .ok ⟨[], arg :: args⟩

def parse (forms : List SwitchForm) (anywhere : Bool) (args : List String) :
    Except UsageFault Parsed :=
  parseFrom forms anywhere false args

namespace Parsed

def has (p : Parsed) (switch : Switch) : Bool :=
  p.given.any (·.switch == switch)

/-- The value of a switch; the last one given counts. -/
def value? (p : Parsed) (switch : Switch) : Option String :=
  ((p.given.filter (·.switch == switch)).getLast?).bind (·.value)

def switches (p : Parsed) : List Switch :=
  (p.given.map (·.switch)).eraseDups

end Parsed

end SwiftExpansion.Command
