import BuildScript.Shell.Node
import BuildScript.Text.Case
import BuildScript.Text.Lines
import BuildScript.Text.ShellWord

/-! # Pieces of a script

The statements that a script is made of, each with the level at which it stands. A piece may have
several lines; only its first line is indented, since the others belong to the user's text.
-/

namespace BuildScript.Shell

/-- A statement that prints a message as it stands, in a colour if one is named. -/
def messageLine (message : String) (color : Option String) : String :=
  match color with
  | none => "echo " ++ Text.shellQuote message
  | some name =>
    "printf \"$\x7bANSI_" ++ Text.upper name ++ "\x7d%s$\x7bANSI_RESET\x7d\\n\" " ++
      Text.shellQuote message

inductive Piece
  | timeStart
  | preview (message : String) (color : Option Color)
  | run (text : String)
  | retry (text : String)
  | timeFinish
  | assertResult
  | assign (key value : String)
  | raw (text : String)
  | foldStart (label : String)
  | foldEnd (label : String)
  | ifHead (test : String)
  | elifHead (test : String)
  | elseHead
  | placeholder
  | endIf
deriving DecidableEq

def Piece.text : Piece → String
  | .timeStart => "cibuild_time_start"
  | .preview message color => messageLine message (color.map Color.name)
  | .run text => text
  | .retry text => "cibuild_retry eval " ++ Text.shellQuote text
  | .timeFinish => "cibuild_time_finish"
  | .assertResult => "cibuild_assert"
  | .assign key value => "export " ++ key ++ "=" ++ value
  | .raw text => text
  | .foldStart label => "cibuild_fold start " ++ Text.shellQuote label
  | .foldEnd label => "cibuild_fold end " ++ Text.shellQuote label
  | .ifHead test => "if " ++ test ++ "; then"
  | .elifHead test => "elif " ++ test ++ "; then"
  | .elseHead => "else"
  | .placeholder => ":"
  | .endIf => "fi"

/-- A piece at its level of nesting. -/
structure Placed where
  level : Int
  piece : Piece
deriving DecidableEq

/-- Two blanks for each level above zero. -/
def indentation (level : Int) : String :=
  String.ofList (List.replicate (2 * level.toNat) ' ')

/-- Indents a line that is not empty. -/
def indentLine (level : Int) (line : String) : String :=
  if line = "" then "" else indentation level ++ line

def Placed.lines (p : Placed) : List String :=
  match Text.lines p.piece.text with
  | [] => []
  | first :: rest => indentLine p.level first :: rest

/-- The text of placed pieces, one below the other. -/
def layout (pieces : List Placed) : String := Text.joinLines (pieces.flatMap Placed.lines)

end BuildScript.Shell
