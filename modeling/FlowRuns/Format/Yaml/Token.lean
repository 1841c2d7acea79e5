/-!
# Tokens of YAML

The parts that a YAML text consists of. The indentation of lines shows in them as the beginning and
the end of blocks.
-/

namespace FlowRuns.Yaml

/-- A token. The end of a text is the end of its tokens. -/
inductive Token where
  /-- a line that tells the version -/
  | versionDirective
  /-- a line that tells what a handle stands for, or any other line of its kind -/
  | tagDirective (handle leading : String)
  /-- the mark that a document begins -/
  | documentStart
  /-- the mark that a document ends -/
  | documentEnd
  /-- a sequence by indentation begins -/
  | blockSequenceStart
  /-- a mapping by indentation begins -/
  | blockMappingStart
  /-- the block ends that began last -/
  | blockEnd
  /-- a sequence in brackets begins -/
  | flowSequenceStart
  /-- a sequence in brackets ends -/
  | flowSequenceEnd
  /-- a mapping in braces begins -/
  | flowMappingStart
  /-- a mapping in braces ends -/
  | flowMappingEnd
  /-- an element of a sequence by indentation follows -/
  | blockEntry
  /-- a comma within brackets or braces -/
  | flowEntry
  /-- a key follows -/
  | key
  /-- the value of a key follows -/
  | value
  /-- the node with a name is meant -/
  | alias (name : String)
  /-- the node that follows has a name -/
  | anchor (name : String)
  /-- the node that follows has a type: a handle and what follows it -/
  | tag (handle suffix : String)
  /-- a text, written plainly or not -/
  | scalar (plain : Bool) (text : String)
  deriving DecidableEq, Inhabited

end FlowRuns.Yaml
