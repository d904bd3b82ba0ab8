-- What the libraries beneath the program say about texts that they refuse. The failures and the
-- reports of the program quote what is said, and nothing else depends on it.
import Predefined.Pattern.Fault

namespace Predefined

structure Diagnostics where
  /-- About a pattern that is refused for a fault. -/
  pattern : (source : String) → Pattern.Fault → String
  /-- About a document that holds no settings. -/
  settings : (document : String) → String
  /-- About a document that holds no context. -/
  context : (document : String) → String
deriving Inhabited

end Predefined
