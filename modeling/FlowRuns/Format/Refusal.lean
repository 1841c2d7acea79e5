/-!
# Texts that give no value

Why the text of a configuration file is refused.
-/

namespace FlowRuns

/-- Why a text gives no value. -/
inductive Refusal where
  /-- it is no document of its format, or one whose numbers cannot be held -/
  | malformed
  /-- it is a document, but what it says cannot be gone on with: a key that is neither a text nor an
  integer -/
  | hopeless
  deriving DecidableEq, Inhabited

/-- The value of a text that was understood; otherwise the text is malformed. -/
def Refusal.unless {α : Type} : Option α → Except Refusal α
  | some a => .ok a
  | none => .error .malformed

end FlowRuns
