/-!
# Causes

The reason that a fault carries: something this library found itself, or the words of a
collaborator outside it.
-/

namespace Purse

inductive Cause (α : Type) where
  | found (value : α)
  | stated (words : String)
  deriving DecidableEq

def Cause.describe {α : Type} (text : α → String) : Cause α → String
  | .found value => text value
  | .stated words => words

end Purse
