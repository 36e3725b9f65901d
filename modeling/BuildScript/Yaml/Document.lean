import BuildScript.Text.Lines
import BuildScript.Yaml.Meaning

/-! # Documents

The setting that a spec file holds. A file has at most one document; an empty one holds null. Anchors,
aliases, tags and merge keys are malformed here, and a date is a text.
-/

namespace BuildScript.Yaml

/-- Characters that may stand in a file. -/
def isAllowed (c : Char) : Bool :=
  let n := c.toNat
  c == '\t' || c == '\n' || c == '\r' || (32 ≤ n && n ≤ 126) || n == 0x85 ||
    (0xa0 ≤ n && n ≤ 0xd7ff) || (0xe000 ≤ n && n ≤ 0xfffd) || 0x10000 ≤ n

namespace Node

/-- How many nodes may lie in each other. -/
def nestingLimit : Nat := 488

/-- The document after its start. -/
def content (ts : List Token) (fuel : Nat) : Parsed :=
  match ts with
  | [] | .directive _ :: _ | .documentStart :: _ | .documentEnd :: _ => .ok (omitted, ts)
  | ts => parse nestingLimit true false ts fuel

/-- The directives at the front of the tokens, and the tokens after them. -/
def directives : List Token → List Directive × List Token
  | .directive d :: rest => let (ds, rest) := directives rest; (d :: ds, rest)
  | ts => ([], ts)

/-- The document at the front of the tokens. Directives have to agree and need its start. -/
def document (ts : List Token) (fuel : Nat) : Parsed :=
  match ts with
  | [] => .ok (omitted, [])
  | .directive _ :: _ | .documentStart :: _ =>
    let (ds, rest) := directives ts
    if !Directive.agree [] ds then .error .malformed
    else
      match rest with
      | .documentStart :: rest => content rest fuel
      | rest => .error (stop rest)
  | ts => parse nestingLimit true false ts fuel

/-- The only document of a file, after which its end may be marked. -/
def ofTokens (ts : List Token) : Except Fault Node := do
  let (node, rest) ← document ts (4 * ts.length + 4)
  match rest.dropWhile fun t => t == .documentEnd with
  | [] => pure node
  | rest => throw (stop rest)

end Node

/-- The document of a file. -/
def document (text : String) : Except Fault Setting := do
  let cs := Text.unifyNewlines text.toList
  if !cs.all isAllowed then throw .malformed
  let node ← Node.ofTokens (tokens cs)
  node.setting

end BuildScript.Yaml
