namespace TokenTransfer

structure TelemetrySettings where
  serviceName : String
  logLevel : String
  consoleOutput : Bool
  jsonLogs : Bool
deriving DecidableEq

inductive TelemetryError where
  | logging (detail : String)
  | metrics (detail : String)
  | config (detail : String)
deriving DecidableEq

def TelemetryError.message : TelemetryError → String
  | .logging detail => "Failed to initialize logging: " ++ detail
  | .metrics detail => "Failed to initialize Prometheus metrics: " ++ detail
  | .config detail => "Invalid configuration: " ++ detail

namespace TelemetrySettings

def preset : TelemetrySettings := ⟨"ics20-transfer","info",true,false⟩

def forTests : TelemetrySettings := {preset with logLevel := "debug"}

def isSpace (c : Char) : Bool :=
  let n := c.toNat
  (9 ≤ n && n ≤ 13) || n == 0x20 || n == 0x85 || n == 0xA0 || n == 0x1680 ||
    (0x2000 ≤ n && n ≤ 0x200A) || n == 0x2028 || n == 0x2029 || n == 0x202F || n == 0x205F || n == 0x3000

def trim (chars : List Char) : List Char :=
  ((chars.dropWhile isSpace).reverse.dropWhile isSpace).reverse

-- On for "true" in any case and for "1", with space around either; off for all
-- else. No character outside ASCII has a lowercase form among these letters.
def flagOf (value : String) : Bool :=
  let word := (trim value.toList).map Char.toLower
  word == "true".toList || word == "1".toList

def ofEnvironment (lookup : String → Option String) : TelemetrySettings where
  serviceName := (lookup "OTEL_SERVICE_NAME").getD preset.serviceName
  logLevel := ((lookup "ICS20_LOG_LEVEL").or (lookup "RUST_LOG")).getD preset.logLevel
  consoleOutput := ((lookup "ICS20_CONSOLE_OUTPUT").map flagOf).getD true
  jsonLogs := ((lookup "ICS20_JSON_LOGS").map flagOf).getD
    ((lookup "KUBERNETES_SERVICE_HOST").isSome || (lookup "DOCKER_CONTAINER").isSome)

end TelemetrySettings
end TokenTransfer
