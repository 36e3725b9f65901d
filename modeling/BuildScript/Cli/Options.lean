/-! # Command line options

Options by their names, in the long form with an optional `=value` and in the short form where
several may share a dash. Everything after a bare double dash is an operand.
-/

namespace BuildScript.Cli

/-- Why a command line is not understood. -/
inductive Misuse
  | unknownOption (name : String)
  | missingValue (name : String)
  | unexpectedValue (name : String)
  | missingCommand
  | unknownCommand (name : String)
  | missingOperand (name : String)
  | unexpectedOperand (text : String)
deriving DecidableEq

def Misuse.message : Misuse → String
  | .unknownOption name => "No such option: " ++ name
  | .missingValue name => "Option '" ++ name ++ "' requires an argument."
  | .unexpectedValue name => "Option '" ++ name ++ "' does not take a value."
  | .missingCommand => "Missing command."
  | .unknownCommand name => "No such command '" ++ name ++ "'."
  | .missingOperand name => "Missing argument '" ++ name ++ "'."
  | .unexpectedOperand text => "Got unexpected extra argument (" ++ text ++ ")"

/-- An option under all its names. -/
structure Spec (ω : Type) where
  names : List String
  takesValue : Bool
  option : ω

variable {ω : Type}

/-- An option that was given, with its value if it takes one. -/
structure Given (ω : Type) where
  option : ω
  value : String

def find? (specs : List (Spec ω)) (name : String) : Option (Spec ω) :=
  specs.find? fun s => s.names.contains name

/-- What one word of options gives: options, and perhaps one that waits for the next word. -/
structure Word (ω : Type) where
  given : List (Given ω)
  waiting : Option (Spec ω)

/-- Reads a word of short options without its dash. -/
def shortWord (specs : List (Spec ω)) : List Char → Except Misuse (Word ω)
  | [] => .ok ⟨[], none⟩
  | c :: rest =>
    let name := String.ofList ['-', c]
    match find? specs name with
    | none => .error (.unknownOption name)
    | some spec =>
      if spec.takesValue then
        if rest.isEmpty then .ok ⟨[], some spec⟩
        else .ok ⟨[⟨spec.option, String.ofList rest⟩], none⟩
      else (shortWord specs rest).map fun w => { w with given := ⟨spec.option, ""⟩ :: w.given }

/-- Reads a word that begins with a dash. -/
def optionWord (specs : List (Spec ω)) (word : List Char) : Except Misuse (Word ω) :=
  let isLong := word.take 2 == ['-', '-']
  if isLong then
    let name := String.ofList (word.takeWhile (· != '='))
    let value := (word.dropWhile (· != '='))
    match find? specs name, value with
    | none, _ => .error (.unknownOption name)
    | some spec, [] =>
      .ok (if spec.takesValue then ⟨[], some spec⟩ else ⟨[⟨spec.option, ""⟩], none⟩)
    | some spec, _ :: value =>
      if spec.takesValue then .ok ⟨[⟨spec.option, String.ofList value⟩], none⟩
      else .error (.unexpectedValue name)
  else shortWord specs (word.drop 1)

/-- Options and operands of a command line. -/
structure Line (ω : Type) where
  given : List (Given ω)
  operands : List String

def isOptionWord (arg : String) : Bool :=
  match arg.toList with
  | '-' :: _ :: _ => true
  | _ => false

/-- Reads options and operands. Unless they may be mixed, everything from the first operand on is
an operand. -/
def read (specs : List (Spec ω)) (mixed : Bool) : List String → Except Misuse (Line ω)
  | [] => .ok ⟨[], []⟩
  | arg :: rest =>
    if arg = "--" then .ok ⟨[], rest⟩
    else if isOptionWord arg then
      match optionWord specs arg.toList, rest with
      | .error e, _ => .error e
      | .ok ⟨given, none⟩, rest =>
        (read specs mixed rest).map fun l => { l with given := given ++ l.given }
      | .ok ⟨_, some spec⟩, [] => .error (.missingValue (spec.names.headD ""))
      | .ok ⟨given, some spec⟩, value :: rest =>
        (read specs mixed rest).map fun l =>
          { l with given := given ++ ⟨spec.option, value⟩ :: l.given }
    else if mixed then
      (read specs mixed rest).map fun l => { l with operands := arg :: l.operands }
    else .ok ⟨[], arg :: rest⟩

end BuildScript.Cli
