-- Expressions: constants and calls of predefined functions, with two kinds of nodes for watching an
-- evaluation from outside.
import Predefined.Settings
import Predefined.Value.Basic

namespace Predefined

inductive Expr where
  | literal (v : Value)
  /-- Fails with a message of its own. -/
  | failing (text : String)
  /-- Leaves its label in the journal, then is the inner expression. -/
  | recorded (label : String) (inner : Expr)
  /-- A call of a function by its name. Neither the name nor the number of arguments is checked
  before the call is evaluated. -/
  | call (function : String) (arguments : List Expr) (settings : Settings)

end Predefined
