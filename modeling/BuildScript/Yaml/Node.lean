import BuildScript.Yaml.Token

/-! # Nodes

The tree that tokens stand for. A node that is left out is an empty plain scalar. Where tokens end
with a fault, no tree that needs more of them has another. `room` is how many nodes may still lie
in each other.
-/

namespace BuildScript.Yaml

inductive Node
  | scalar (text : String) (isPlain : Bool)
  | list (items : List Node)
  | mapping (entries : List (Node × Node))

namespace Node

/-- A node that is left out. -/
def omitted : Node := .scalar "" true

/-- Why tokens end before a node is complete. -/
def stop : List Token → Fault
  | .fault f :: _ => f
  | _ => .malformed

/-- A node and the tokens after it. -/
abbrev Parsed := Except Fault (Node × List Token)

/-- Whether a node is left out before one of these tokens. -/
def isOmitted (ends : List Token) (ts : List Token) : Bool :=
  match ts with
  | [] => true
  | t :: _ => ends.contains t

mutual

/-- The node at the front of the tokens. In a block a node can be a block; as the value of an
entry it can be a list at the indentation of its key. -/
def parse (room : Nat) (inBlock unindented : Bool) (ts : List Token) : Nat → Parsed
  | 0 => .error .malformed
  | fuel + 1 =>
    match room, ts with
    | 0, _ => .error .bottomless
    | _, .scalar text isPlain :: rest => .ok (.scalar text isPlain, rest)
    | room + 1, .flowSequenceStart :: rest => flowSequence room true [] rest fuel
    | room + 1, .flowMappingStart :: rest => flowMapping room true [] rest fuel
    | room + 1, .sequenceStart :: rest =>
      if inBlock then blockSequence room [] rest fuel else .error .malformed
    | room + 1, .mappingStart :: rest =>
      if inBlock then blockMapping room [] rest fuel else .error .malformed
    | room + 1, .entry :: rest =>
      if unindented then entries room [] (.entry :: rest) fuel else .error .malformed
    | _, ts => .error (stop ts)
termination_by structural fuel => fuel

/-- A node that may be left out before one of `ends`. -/
def optional (room : Nat) (inBlock unindented : Bool) (ends : List Token) (ts : List Token) :
    Nat → Parsed
  | 0 => .error .malformed
  | fuel + 1 =>
    if isOmitted ends ts then .ok (omitted, ts) else parse room inBlock unindented ts fuel
termination_by structural fuel => fuel

/-- The entries of a list that has its own indentation. -/
def blockSequence (room : Nat) (items : List Node) (ts : List Token) : Nat → Parsed
  | 0 => .error .malformed
  | fuel + 1 =>
    match ts with
    | .entry :: rest =>
      match optional room true false [.entry, .blockEnd] rest fuel with
      | .ok (item, rest) => blockSequence room (items ++ [item]) rest fuel
      | .error f => .error f
    | .blockEnd :: rest => .ok (.list items, rest)
    | ts => .error (stop ts)
termination_by structural fuel => fuel

/-- The entries of a list at the indentation of its key. -/
def entries (room : Nat) (items : List Node) (ts : List Token) : Nat → Parsed
  | 0 => .error .malformed
  | fuel + 1 =>
    match ts with
    | .entry :: rest =>
      match optional room true false [.entry, .key, .value, .blockEnd] rest fuel with
      | .ok (item, rest) => entries room (items ++ [item]) rest fuel
      | .error f => .error f
    | ts => .ok (.list items, ts)
termination_by structural fuel => fuel

def blockMapping (room : Nat) (es : List (Node × Node)) (ts : List Token) : Nat → Parsed
  | 0 => .error .malformed
  | fuel + 1 =>
    match ts with
    | .key :: rest =>
      match optional room true true [.key, .value, .blockEnd] rest fuel with
      | .ok (key, rest) =>
        match entryValue room true true [.key, .value, .blockEnd] rest fuel with
        | .ok (value, rest) => blockMapping room (es ++ [(key, value)]) rest fuel
        | .error f => .error f
      | .error f => .error f
    | .blockEnd :: rest => .ok (.mapping es, rest)
    | ts => .error (stop ts)
termination_by structural fuel => fuel

/-- The value of an entry, which may be left out. -/
def entryValue (room : Nat) (inBlock unindented : Bool) (ends : List Token) (ts : List Token) :
    Nat → Parsed
  | 0 => .error .malformed
  | fuel + 1 =>
    match ts with
    | .value :: rest => optional room inBlock unindented ends rest fuel
    | ts => .ok (omitted, ts)
termination_by structural fuel => fuel

/-- An entry that stands in a list in place of a mapping. -/
def pair (room : Nat) (ts : List Token) : Nat → Parsed
  | 0 => .error .malformed
  | fuel + 1 =>
    let room := room - 1
    match optional room false false [.value, .flowEntry, .flowSequenceEnd] ts fuel with
    | .ok (key, rest) =>
      match entryValue room false false [.flowEntry, .flowSequenceEnd] rest fuel with
      | .ok (value, rest) => .ok (.mapping [(key, value)], rest)
      | .error f => .error f
    | .error f => .error f
termination_by structural fuel => fuel

def flowSequence (room : Nat) (isFirst : Bool) (items : List Node) (ts : List Token) :
    Nat → Parsed
  | 0 => .error .malformed
  | fuel + 1 =>
    let more (found : Parsed) : Parsed :=
      match found with
      | .ok (item, rest) => flowSequence room false (items ++ [item]) rest fuel
      | .error f => .error f
    let item (ts : List Token) : Parsed :=
      match ts with
      | .flowSequenceEnd :: rest => .ok (.list items, rest)
      | .key :: rest => more (pair room rest fuel)
      | ts => more (parse room false false ts fuel)
    match isFirst, ts with
    | true, ts => item ts
    | false, .flowSequenceEnd :: rest => .ok (.list items, rest)
    | false, .flowEntry :: rest => item rest
    | false, ts => .error (stop ts)
termination_by structural fuel => fuel

def flowMapping (room : Nat) (isFirst : Bool) (es : List (Node × Node)) (ts : List Token) :
    Nat → Parsed
  | 0 => .error .malformed
  | fuel + 1 =>
    let entry (ts : List Token) : Parsed :=
      match ts with
      | .flowMappingEnd :: rest => .ok (.mapping es, rest)
      | .key :: rest =>
        match optional room false false [.value, .flowEntry, .flowMappingEnd] rest fuel with
        | .ok (key, rest) =>
          match entryValue room false false [.flowEntry, .flowMappingEnd] rest fuel with
          | .ok (value, rest) => flowMapping room false (es ++ [(key, value)]) rest fuel
          | .error f => .error f
        | .error f => .error f
      | ts =>
        match parse room false false ts fuel with
        | .ok (key, rest) => flowMapping room false (es ++ [(key, omitted)]) rest fuel
        | .error f => .error f
    match isFirst, ts with
    | true, ts => entry ts
    | false, .flowMappingEnd :: rest => .ok (.mapping es, rest)
    | false, .flowEntry :: rest => entry rest
    | false, ts => .error (stop ts)
termination_by structural fuel => fuel

end

end Node

end BuildScript.Yaml
