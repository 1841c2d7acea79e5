import FlowRuns.Format.Refusal
import FlowRuns.Format.Yaml.Node
import FlowRuns.Format.Yaml.Token.Lexer
import FlowRuns.Json.Basic

/-!
# YAML documents

The value that a YAML document holds. Keys are texts; an integer as a key is the text that writes
it. A key of another kind is hopeless, which is different from a text that is no YAML.

* `Node.toJson` — the value of a node.
* `Yaml.ofText` — the value of a text; an object without entries if it holds no document.
-/

namespace FlowRuns.Yaml

/-- The key that a node stands for. -/
def Node.keyText : Node → Except Refusal String
  | string s => .ok s
  | int i => .ok (toString i)
  | _ => .error .hopeless

namespace Node

mutual

/-- The value of a node. Infinities and what is no number have none. -/
def toJson : Node → Except Refusal Json
  | null => .ok .null
  | bad => .ok .null
  | bool b => .ok (.bool b)
  | int i => .ok (.int i)
  | real s => Refusal.unless ((Text.binary64Of? s).map .float)
  | string s => .ok (.string s)
  | sequence ns => (elementsToJson ns).map .array
  | mapping es => (entriesToJson es).map .ofEntries

/-- The values of elements. -/
def elementsToJson : List Node → Except Refusal (List Json)
  | [] => .ok []
  | n :: ns => do
    let v ← toJson n
    return v :: (← elementsToJson ns)

/-- The keys and values of entries. The first that cannot be understood decides. -/
def entriesToJson : List (Node × Node) → Except Refusal (List (String × Json))
  | [] => .ok []
  | (k, n) :: es => do
    let key ← keyText k
    let v ← toJson n
    return (key, v) :: (← entriesToJson es)

end

end Node

/-- The value of a text. -/
def ofText (s : String) : Except Refusal Json := do
  (← Refusal.unless (Token.ofText? s >>= Node.ofTokens?)).toJson

end FlowRuns.Yaml
