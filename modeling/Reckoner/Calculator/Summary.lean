import Reckoner.Calculator
import Reckoner.Text.Quoted

/-!
# A calculator at a glance

One line that shows the registered names and the policy, for logs and messages.
The operations themselves have no text.
-/

namespace Reckoner

/-- The word for a policy. -/
def Policy.text : Policy → String
  | .overwrite => "Overwrite"
  | .reject => "Reject"

/-- The registered names, in order, and the policy. -/
def Calculator.summary (c : Calculator) : String :=
  "Calculator \x7b operations: " ++ Text.quotedList c.operationNames
    ++ ", policy: " ++ c.policy.text ++ " \x7d"

end Reckoner
