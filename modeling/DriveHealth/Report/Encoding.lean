/-
# Snapshots

All that is known of one drive, gathered by asking every question once. The output kept from the first
question answers the others. In JSON every part of a snapshot is a field under its own name, in the
order of the declarations, and the information keeps the order of its entries.

Key definitions: `Snapshot`, `Snapshot.collect`, `Attribute.toJson`, `SelfTest.toJson`,
`Information.toJson`, `Snapshot.toJson`.
-/
import DriveHealth.Json
import DriveHealth.Monitor.Queries

namespace DriveHealth

structure Snapshot where
  device : String
  size : UInt64
  isSupported : Bool
  isEnabled : Bool
  verdict : Verdict
  temperature : Option Int32
  power : PowerCounters
  powerMode : String
  information : Information
  attributes : List Attribute
  selfTests : List SelfTest
  deriving DecidableEq, Repr

namespace Snapshot

variable {σ : Type} (runner : Runner σ) (m : Monitor)

def collect : Query σ Snapshot := do
  let isSupported ← m.isSupported runner
  let isEnabled ← m.isEnabled runner
  let verdict ← m.overallStatus runner
  let temperature ← m.temperature runner
  let power ← m.powerCounters runner
  let powerMode ← m.powerMode runner
  let information ← m.information runner
  let attributes ← m.attributes runner
  let selfTests ← m.selfTests runner
  pure
    { device := m.device.path, size := m.device.size
      isSupported, isEnabled, verdict, temperature, power, powerMode, information, attributes, selfTests }

end Snapshot

/-! ### In JSON -/

def Verdict.toJson (v : Verdict) : Json := .text v.label

def Attribute.toJson (a : Attribute) : Json :=
  .object
    [("id", .nat a.id), ("name", .text a.name), ("flags", .text a.flags), ("value", .nat a.value),
      ("worst", .nat a.worst), ("threshold", .nat a.threshold), ("when_failed", .text a.whenFailed),
      ("raw_value", .text a.rawValue), ("description", .text a.description),
      ("is_prefailure", .bool a.isPrefailure), ("verdict", a.verdict.toJson)]

def SelfTest.toJson (t : SelfTest) : Json :=
  .object
    [("num", .nat t.number), ("description", .text t.kind.label), ("status", .text t.status),
      ("remaining_percent", .nat t.remaining), ("lifetime_hours", .nat t.hours),
      ("lba_of_first_error", .text t.firstError)]

def PowerCounters.toJson (p : PowerCounters) : Json :=
  .object [("power_cycles", .int p.cycles), ("power_on_hours", .int p.hours)]

def Information.toJson (info : Information) : Json :=
  .object (info.entries.map fun (key, value) => (key, .text value))

def Snapshot.toJson (s : Snapshot) : Json :=
  .object
    [("device", .text s.device), ("size_bytes", .nat s.size.toNat), ("supported", .bool s.isSupported),
      ("enabled", .bool s.isEnabled), ("verdict", s.verdict.toJson),
      ("temperature", Json.ofOption (fun t => .int t.toInt) s.temperature), ("power", s.power.toJson),
      ("power_mode", .text s.powerMode), ("information", s.information.toJson),
      ("attributes", .array (s.attributes.map Attribute.toJson)),
      ("self_tests", .array (s.selfTests.map SelfTest.toJson))]

end DriveHealth
