import ModuleCatalog.Yaml.Token

/-!
YAML documents as trees. Anchored nodes carry a number, and an alias names the number of its node.

An anchor takes as its number how many different names were anchored before it. So when a name is
anchored again, a later anchor can get a number that is in use; the alias then means the last node
with the number.
-/
namespace ModuleCatalog.Yaml

/-- A node of a document. -/
inductive Node where
  | scalar (anchor : Option Nat) (style : Style) (tag : Option (List UInt8)) (value : List Char)
  | sequence (anchor : Option Nat) (items : List Node)
  | mapping (anchor : Option Nat) (pairs : List (Node × Node))
  | alias (target : Nat)
  deriving Repr

namespace Node

def missing : Node :=
  .scalar none .plain none []

mutual

/-- The last node with a number below a node, itself included; outer nodes count as earlier. -/
def anchored? (n : Nat) : Node → Option Node
  | .scalar a style tag value => if a = some n then some (.scalar a style tag value) else none
  | .sequence a items =>
    match anchoredInItems? n items with
    | some found => some found
    | none => if a = some n then some (.sequence a items) else none
  | .mapping a pairs =>
    match anchoredInPairs? n pairs with
    | some found => some found
    | none => if a = some n then some (.mapping a pairs) else none
  | .alias _ => none

/-- The last node with a number in the items of a sequence. -/
def anchoredInItems? (n : Nat) : List Node → Option Node
  | [] => none
  | x :: xs =>
    match anchoredInItems? n xs with
    | some found => some found
    | none => anchored? n x

/-- The last node with a number in the pairs of a mapping. -/
def anchoredInPairs? (n : Nat) : List (Node × Node) → Option Node
  | [] => none
  | (k, v) :: rest =>
    match anchoredInPairs? n rest with
    | some found => some found
    | none =>
      match anchored? n v with
      | some found => some found
      | none => anchored? n k

end

/-- The node that a node of a document stands for: an alias stands for the node it names. -/
def target? (root : Node) : Node → Option Node
  | .alias n => anchored? n root
  | node => some node

end Node

end ModuleCatalog.Yaml
