import BuildScript.Yaml.Node
import BuildScript.Yaml.Plain

/-! # Meaning of nodes

The setting that a node stands for. Of entries with one key the later counts; a list or a mapping
cannot be a key. Of several faults the first of those counts that are least deep.
-/

namespace BuildScript.Yaml.Node

/-- What a scalar stands for as a key. A key may be the sign of equality. -/
def keyScalar (text : String) (isPlain : Bool) : Except Fault Scalar :=
  if !isPlain then .ok (.text text)
  else if text = "<<" then .error .malformed
  else plainValue text

/-- What a scalar stands for as a value. -/
def valueScalar (text : String) (isPlain : Bool) : Except Fault Scalar :=
  if isPlain && text == "=" then .error .malformed else keyScalar text isPlain

def faultOf {α : Type} : Except Fault α → List Fault
  | .ok _ => []
  | .error f => [f]

/-- Faults that a node has as a key. -/
def keyFaults : Node → List Fault
  | .scalar text isPlain => faultOf (keyScalar text isPlain)
  | .list _ | .mapping _ => [.malformed]

/-- Faults that a node has as a value, its parts apart. -/
def valueFaults : Node → List Fault
  | .scalar text isPlain => faultOf (valueScalar text isPlain)
  | .list _ | .mapping _ => []

/-- Puts faults together depth by depth. -/
def byDepth : List (List Fault) → List (List Fault) → List (List Fault)
  | [], more => more
  | levels, [] => levels
  | level :: levels, more :: rest => (level ++ more) :: byDepth levels rest

mutual

/-- Faults of the parts of a node by their depth. -/
def faults : Node → List (List Fault)
  | .scalar _ _ => []
  | .list items => items.flatMap valueFaults :: faultsOfItems items
  | .mapping es =>
    es.flatMap (fun e => keyFaults e.1 ++ valueFaults e.2) :: faultsOfEntries es

def faultsOfItems : List Node → List (List Fault)
  | [] => []
  | item :: rest => byDepth (faults item) (faultsOfItems rest)

def faultsOfEntries : List (Node × Node) → List (List Fault)
  | [] => []
  | (_, value) :: rest => byDepth (faults value) (faultsOfEntries rest)

end

def scalarOf (found : Except Fault Scalar) : Scalar := found.toOption.getD .null

def asKey : Node → Scalar
  | .scalar text isPlain => scalarOf (keyScalar text isPlain)
  | .list _ | .mapping _ => .null

mutual

/-- The setting of a node without faults. -/
def value : Node → Setting
  | .scalar text isPlain => .scalar (scalarOf (valueScalar text isPlain))
  | .list items => .list (values items)
  | .mapping es => .mapping (valuesOfEntries [] es)

def values : List Node → List Setting
  | [] => []
  | item :: rest => value item :: values rest

def valuesOfEntries (found : Entries) : List (Node × Node) → Entries
  | [] => found
  | (key, item) :: rest => valuesOfEntries (Entries.put found (asKey key) (value item)) rest

end

/-- The setting that a node stands for. -/
def setting (n : Node) : Except Fault Setting :=
  match valueFaults n ++ (faults n).flatten with
  | f :: _ => .error f
  | [] => .ok n.value

end BuildScript.Yaml.Node
