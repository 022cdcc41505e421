import SavingsCircle.Schema
import SavingsCircle.Token

/-!
# Settings

What the service is told by its surroundings through six named texts, each of which may be
missing and then has a default.
-/

namespace SavingsCircle

structure Settings where
  mode : String
  httpPort : Number
  secret : String
  /-- Whether callers may have tokens issued and assets minted. -/
  hasDevTools : Bool
  custody : Address
  cycleDuration : Number

namespace Settings

open Schema

/-- Seven days, in seconds. -/
def usualCycleDuration : Nat := 7 * 24 * 60 * 60

/-- Reads the settings from named texts. -/
def read (texts : String → Option String) : Checked Settings :=
  let value (name : String) : Option Json := (texts name).map .text
  let part {α : Type} (name : String) (reader : Reader α) : Checked α :=
    (reader (value name)).under name
  Checked.apply Settings.mk
      (part "NODE_ENV" (orElse (oneOf ["development", "test", "production"]) "development"))
    |>.both (part "API_PORT" (orElse (coerced []) (.ofNat 4000)))
    |>.both (part "AUTH_SECRET"
      (orElse (text [.minSize 16]) "change-this-in-production-please"))
    |>.both (.ok (texts "EXPOSE_DEV_TOOLS" == some "true"))
    |>.both (part "CUSTODY_ADDRESS" (orElse (text [.minSize 1]) "roscaflow-custody"))
    |>.both (part "DEFAULT_CYCLE_DURATION_SECS"
      (orElse (coerced [.whole, .above 0]) (.ofNat usualCycleDuration)))

end Settings

end SavingsCircle
