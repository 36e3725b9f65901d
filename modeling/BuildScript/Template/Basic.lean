import BuildScript.Setting.Text
import BuildScript.Text.Path

/-! # Templates

The text around a script. A template is made of fixed text, values that are inserted as they
stand, and choices that hang on whether a value is set. Every value that is used has to be given,
but for constants and for what every template can name.
-/

namespace BuildScript.Template

inductive Part
  | text (s : String)
  | value (name : String)
  | choice (name : String) (yes no : List Part)

/-- Why a template has no text. -/
inductive Fault
  | notFound
  | malformed
  /-- Choices lie too deep in each other to be run, or even to be read. -/
  | deep
  | bottomless
  | undefined (name : String)
  | reserved (name : String)
deriving DecidableEq

/-- Values by name. -/
abbrev Context := List (String × Setting)

def Context.value (context : Context) (name : String) : Except Fault Setting :=
  match context.lookup name with
  | some v => .ok v
  | none => .error (.undefined name)

mutual

def Part.render (context : Context) : Part → Except Fault String
  | .text s => .ok s
  | .value name => do
    let v ← context.value name
    pure (v.written .loose)
  | .choice name yes no => do
    let v ← context.value name
    if v.isSet then renderAll context yes else renderAll context no

def renderAll (context : Context) : List Part → Except Fault String
  | [] => .ok ""
  | part :: rest => do
    let first ← part.render context
    let more ← renderAll context rest
    pure (first ++ more)

end

/-- Renders a template by name. -/
abbrev Renderer := String → Context → Except Fault String

/-! ## Names of templates and of values -/

/-- The path of a template below the directory of templates, from which no name leads out. -/
def path? (name : String) : Option String :=
  let names := Text.pathNames (name ++ ".j2")
  if names.contains Text.outward then none else some ("/".intercalate names)

def constants : Context := [
  ("true", .bool true), ("True", .bool true), ("false", .bool false), ("False", .bool false),
  ("none", .null), ("None", .null)]

/-- What every template can name, unless a value of that name is given. -/
def globals : Context := [
  ("range", .text "<class 'range'>"), ("dict", .text "<class 'dict'>"),
  ("lipsum", .text "<function generate_lorem_ipsum>"),
  ("cycler", .text "<class 'jinja2.utils.Cycler'>"),
  ("joiner", .text "<class 'jinja2.utils.Joiner'>"),
  ("namespace", .text "<class 'jinja2.utils.Namespace'>")]

/-- Everything that the template of a name can refer to. -/
def Context.within (context : Context) (name : String) : Context :=
  constants ++ context ++ ("self", .text ("<TemplateReference '" ++ name ++ ".j2'>")) :: globals

/-- Names under which no value can be given: those of the template itself. -/
def reserved : List String := ["self", "name"]

/-- Renders a template with values from outside. -/
def render (r : Renderer) (name : String) (context : Context) : Except Fault String :=
  match context.find? fun e => reserved.contains e.1 with
  | some e => .error (.reserved e.1)
  | none => r name context

end BuildScript.Template
