/-!
# Ways to duplicate a handle
-/

namespace UsbBridge

inductive StrategyChoice where
  /-- The best that the system offers. -/
  | auto
  /-- One call that also marks the duplicate to be closed on program start. -/
  | cloexec
  /-- A plain duplicate, marked in a second call. -/
  | legacy
  deriving DecidableEq, Repr, Inhabited

namespace StrategyChoice

def name : StrategyChoice → String
  | .auto => "auto"
  | .cloexec => "cloexec"
  | .legacy => "legacy"

def ofName? : String → Option StrategyChoice
  | "auto" => some .auto
  | "cloexec" => some .cloexec
  | "legacy" => some .legacy
  | _ => none

end StrategyChoice

end UsbBridge
