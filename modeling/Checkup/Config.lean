/-!
# Configuration

All limits of the program in one place.
-/

namespace Checkup

/-- The limits that the program keeps to. Times are in milliseconds. -/
structure Config where
  maxCodeChars : Nat := 100000
  maxVerifyUrls : Nat := 50
  batchSize : Nat := 5
  probeTimeout : Nat := 5000
  maxRedirects : Nat := 5
  userAgent : String := "code-health/0.1.0"
deriving DecidableEq, Repr

namespace Config

/-- The configuration with another batch size, at least 1. -/
def withBatchSize (config : Config) (size : Nat) : Config := { config with batchSize := max size 1 }

/-- The configuration with another timeout, at least a second. -/
def withProbeTimeout (config : Config) (milliseconds : Nat) : Config :=
  { config with probeTimeout := max milliseconds 1000 }

end Config
end Checkup
