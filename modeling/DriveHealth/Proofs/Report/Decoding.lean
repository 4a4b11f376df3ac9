/-
# Snapshots are read back from their JSON

A snapshot is found again in its JSON by a strict reader: at every level an object has to have just the declared
fields, in their order, and every value its declared type. Nothing of a snapshot is lost that way, so two snapshots
never have the same text, whatever characters their texts and keys have. The entries of the information stay in the
order of the map, and a map that was made by inserts gives an object without a repeated key.

Key definitions: `Json.values?`, `Attribute.ofJson?`, `SelfTest.ofJson?`, `Information.ofJson?`, `Snapshot.ofJson?`.
Key theorems: `Json.listOf?_array`, `Snapshot.ofJson?_toJson`, `Snapshot.text_loses_nothing`.
-/
import DriveHealth.Proofs.Information.Inserts
import DriveHealth.Proofs.Json.RoundTrip
import DriveHealth.Report.Encoding

namespace DriveHealth

/-! ### Values of a type -/

namespace Json

/-- The values of an object that has just these fields, in this order. -/
def values? (names : List String) : Json → Option (List Json)
  | object fields => if fields.map Prod.fst = names then some (fields.map Prod.snd) else none
  | _ => none

def bool? : Json → Option Bool
  | bool b => some b
  | _ => none

def int? : Json → Option Int
  | int n => some n
  | _ => none

def nat? : Json → Option Nat
  | int n => if 0 ≤ n then some n.toNat else none
  | _ => none

def text? : Json → Option String
  | text s => some s
  | _ => none

def int32? (j : Json) : Option Int32 := do
  let n ← j.int?
  if Int32.minValue.toInt ≤ n ∧ n ≤ Int32.maxValue.toInt then some (Int32.ofInt n) else none

def uint64? (j : Json) : Option UInt64 := do
  let n ← j.nat?
  if n < UInt64.size then some (UInt64.ofNat n) else none

/-- A value that may be missing. -/
def optional? {α : Type} (read : Json → Option α) : Json → Option (Option α)
  | null => some none
  | j => (read j).map some

def listOf? {α : Type} (read : Json → Option α) : Json → Option (List α)
  | array items => items.mapM read
  | _ => none

@[simp] theorem bool?_bool (b : Bool) : (bool b).bool? = some b := rfl

@[simp] theorem int?_int (n : Int) : (int n).int? = some n := rfl

@[simp] theorem nat?_nat (n : Nat) : (nat n).nat? = some n := by simp [nat, nat?]

@[simp] theorem text?_text (s : String) : (text s).text? = some s := rfl

@[simp] theorem int32?_int (t : Int32) : (int t.toInt).int32? = some t := by
  unfold int32?
  rw [int?_int, Option.bind_eq_bind, Option.bind_some, if_pos ⟨t.minValue_le_toInt, t.toInt_le⟩, Int32.ofInt_toInt]

@[simp] theorem uint64?_nat (n : UInt64) : (nat n.toNat).uint64? = some n := by
  unfold uint64?
  rw [nat?_nat, Option.bind_eq_bind, Option.bind_some, if_pos n.toNat_lt_size, UInt64.ofNat_toNat]

@[simp] theorem optional?_int32 (t : Option Int32) :
    (ofOption (fun t => int t.toInt) t).optional? int32? = some t := by
  cases t with
  | none => rfl
  | some t =>
    show (int32? (int t.toInt)).map some = some (some t)
    rw [int32?_int]
    rfl

theorem mapM_map_eq_some {α β : Type} {write : α → β} {read : β → Option α} (h : ∀ a, read (write a) = some a)
    (as : List α) : (as.map write).mapM read = some as := by
  rw [List.mapM_map]
  induction as with
  | nil => rfl
  | cons a as ih => simp [List.mapM_cons, h, ih]

/-- A list is read back when its members are. -/
theorem listOf?_array {α : Type} {write : α → Json} {read : Json → Option α} (h : ∀ a, read (write a) = some a)
    (as : List α) : (array (as.map write)).listOf? read = some as :=
  mapM_map_eq_some h as

end Json

/-! ### The parts of a snapshot -/

def Verdict.ofJson? (j : Json) : Option Verdict := j.text?.bind ofLabel?

@[simp] theorem Verdict.ofJson?_toJson (v : Verdict) : ofJson? v.toJson = some v := ofLabel?_label v

namespace Attribute

def fieldNames : List String :=
  ["id", "name", "flags", "value", "worst", "threshold", "when_failed", "raw_value", "description", "is_prefailure",
    "verdict"]

def ofJson? (j : Json) : Option Attribute :=
  match j.values? fieldNames with
  | some [id, name, flags, value, worst, threshold, whenFailed, rawValue, description, isPrefailure, verdict] => do
    pure
      { id := ← id.nat?, name := ← name.text?, flags := ← flags.text?, value := ← value.nat?, worst := ← worst.nat?
        threshold := ← threshold.nat?, whenFailed := ← whenFailed.text?, rawValue := ← rawValue.text?
        description := ← description.text?, isPrefailure := ← isPrefailure.bool?
        verdict := ← Verdict.ofJson? verdict }
  | _ => none

theorem ofJson?_toJson (a : Attribute) : ofJson? a.toJson = some a := by
  simp [ofJson?, toJson, Json.values?, fieldNames]

end Attribute

namespace SelfTest

def fieldNames : List String :=
  ["num", "description", "status", "remaining_percent", "lifetime_hours", "lba_of_first_error"]

def ofJson? (j : Json) : Option SelfTest :=
  match j.values? fieldNames with
  | some [number, kind, status, remaining, hours, firstError] => do
    pure
      { number := ← number.nat?, kind := ← kind.text?.bind Kind.ofLabel?, status := ← status.text?
        remaining := ← remaining.nat?, hours := ← hours.nat?, firstError := ← firstError.text? }
  | _ => none

theorem ofJson?_toJson (t : SelfTest) : ofJson? t.toJson = some t := by
  simp [ofJson?, toJson, Json.values?, fieldNames, Kind.ofLabel?_label]

end SelfTest

namespace PowerCounters

def fieldNames : List String := ["power_cycles", "power_on_hours"]

def ofJson? (j : Json) : Option PowerCounters :=
  match j.values? fieldNames with
  | some [cycles, hours] => do pure { cycles := ← cycles.int?, hours := ← hours.int? }
  | _ => none

@[simp] theorem ofJson?_toJson (p : PowerCounters) : ofJson? p.toJson = some p := by
  simp [ofJson?, toJson, Json.values?, fieldNames]

end PowerCounters

namespace Information

def ofField? (field : String × Json) : Option (String × String) := field.2.text?.map fun value => (field.1, value)

/-- One entry for each field, in the order of the fields. -/
def ofJson? : Json → Option Information
  | .object fields => (fields.mapM ofField?).map mk
  | _ => none

@[simp] theorem ofJson?_toJson (info : Information) : ofJson? info.toJson = some info := by
  have hfield (entry : String × String) : ofField? (entry.1, .text entry.2) = some entry := rfl
  unfold ofJson? toJson
  simp only
  rw [Json.mapM_map_eq_some hfield]
  rfl

end Information

/-! ### Snapshots -/

namespace Snapshot

def fieldNames : List String :=
  ["device", "size_bytes", "supported", "enabled", "verdict", "temperature", "power", "power_mode", "information",
    "attributes", "self_tests"]

def ofJson? (j : Json) : Option Snapshot :=
  match j.values? fieldNames with
  | some [device, size, isSupported, isEnabled, verdict, temperature, power, powerMode, information, attributes,
      selfTests] => do
    pure
      { device := ← device.text?, size := ← size.uint64?, isSupported := ← isSupported.bool?
        isEnabled := ← isEnabled.bool?, verdict := ← Verdict.ofJson? verdict
        temperature := ← temperature.optional? Json.int32?, power := ← PowerCounters.ofJson? power
        powerMode := ← powerMode.text?, information := ← Information.ofJson? information
        attributes := ← attributes.listOf? Attribute.ofJson?, selfTests := ← selfTests.listOf? SelfTest.ofJson? }
  | _ => none

/-- A snapshot is found again in its JSON. -/
theorem ofJson?_toJson (s : Snapshot) : ofJson? s.toJson = some s := by
  simp [ofJson?, toJson, Json.values?, fieldNames, Json.listOf?_array Attribute.ofJson?_toJson,
    Json.listOf?_array SelfTest.ofJson?_toJson]

/-- **The text of a snapshot loses nothing.** Whatever a snapshot holds, its text is read as an object with the declared
fields in their order, and the snapshot is found again in their values, so no other snapshot has this text. The
information is an object with the entries of the map in its order; a map that was made by inserts has no key twice. -/
theorem text_loses_nothing (s : Snapshot) :
    (∃ fields, Json.read? s.toJson.compact = some (.object fields) ∧ fields.map Prod.fst = fieldNames ∧
      ofJson? (.object fields) = some s ∧
      ∃ entries, fields.lookup "information" = some (.object entries) ∧
        entries = s.information.entries.map (fun entry => (entry.1, .text entry.2)) ∧
        ∀ pairs, s.information = .ofList pairs → (entries.map Prod.fst).Nodup) ∧
    ∀ other : Snapshot, other.toJson.compact = s.toJson.compact ↔ other = s := by
  constructor
  · refine ⟨_, Json.read?_compact _, rfl, ofJson?_toJson s, _, rfl, rfl, fun pairs hpairs => ?_⟩
    have hnodup := (Information.isMapOf_ofList pairs).nodup
    rw [hpairs, List.map_map]
    exact hnodup
  · intro other
    rw [Json.compact_inj]
    refine ⟨fun h => ?_, congrArg toJson⟩
    have hread := congrArg ofJson? h
    rwa [ofJson?_toJson, ofJson?_toJson, Option.some_inj] at hread

end Snapshot

end DriveHealth
