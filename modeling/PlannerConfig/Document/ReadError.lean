/-!
Why a text holds no document, and how deep the documents in files may be nested.
-/
namespace PlannerConfig

/-- A text is malformed, or its arrays and objects are nested too deep; what is said of that ends
with `within`. -/
inductive ReadError
  | malformed
  | tooDeep (within : String)
  deriving DecidableEq, Repr

namespace ReadError

/-- The steps down into a document that a reader may take. -/
def maxDepth : Nat := 985

/-- What was found; if nothing was, the text is malformed. -/
def expect {α : Type} (found : Option α) : Except ReadError α :=
  found.elim (throw malformed) pure

end ReadError

end PlannerConfig
