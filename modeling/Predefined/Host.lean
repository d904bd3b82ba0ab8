-- What an evaluation asks of the world around it: the registry, the vault, the XPath engine bound
-- to the message at hand, and the clock. Laws about evaluation quantify over hosts, so nothing is
-- known of a host but its answers.
import Predefined.EvalError

namespace Predefined

/-- The capabilities of a host whose state is a `σ`. Each look-up may change the state. -/
structure Host (σ : Type) where
  /-- The content of a registry resource, none when there is no such resource. -/
  resource : (key : String) → σ → Except HostError (Option String) × σ
  /-- A property of a registry resource, none when the resource or the property is missing. -/
  property : (key name : String) → σ → Option String × σ
  /-- The secret under a key, its alias. A vault that does not know the alias may answer with a mark
  instead of failing. -/
  secret : (key : String) → σ → Except HostError String × σ
  /-- The value of an XPath expression on the message at hand. -/
  xpath : (expression : String) → σ → Except HostError Value × σ
  /-- The time in milliseconds of the epoch. It stands still for a whole evaluation, while a clock
  that is read anew at each call of `now` may have gone on in between. -/
  clock : Int64

end Predefined
