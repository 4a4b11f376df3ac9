/-
# Power counters from the information

A drive without a table has its power counters from the entries of the information section: the number that the
last entry starts with, with or without commas between groups of its digits, and the sign for an unknown counter
where there is no entry or its number exceeds 63 bits. The section ends where the data section starts, so that no
line from there on is a source of a counter. NVMe drives print their counters in the data section, and nowhere
else, and these counters stay unknown.

Key definitions: `Power.TellsCount`, `Power.CountedIn`, `Power.IsCut`, `Power.PrintsBehind`.
Key theorems: `Power.countedIn_counter`, `Power.counters_end_with_section`, `Power.nvme_counters_not_read`.
-/
import DriveHealth.Monitor.Queries
import DriveHealth.Proofs.Information.Lookup
import DriveHealth.Proofs.Monitor.Transition
import DriveHealth.Proofs.Numeral.Grouped

namespace DriveHealth.Power

open Information Numeral

variable {lines front after : List String} {key data : String} {n : Nat}

/-- The last entry with the key in the section starts with a numeral of the number `n`. -/
def TellsCount (lines : List String) (key : String) (n : Nat) : Prop :=
  ∃ value, Tells lines key value ∧ CountsTo value.toList n

/-- The counter is what the section has under the key. -/
structure CountedIn (lines : List String) (key : String) (counter : Int) : Prop where
  told : ∀ n, TellsCount lines key n → counter = if n ≤ maxSigned64 then (n : Int) else unknownCounter
  silent : (∀ value, ¬ Tells lines key value) → counter = unknownCounter

/-- Without rows a counter comes from the section. -/
theorem countedIn_counter (hkey : key ≠ "devicemodel") (id : Nat) :
    CountedIn lines key (counter [] id (ofLines lines) key) where
  told n htold := by
    obtain ⟨value, hvalue, hcount⟩ := htold
    have hget := (get?_ofLines_eq_some hkey).mpr hvalue
    simp only [counter, List.find?_nil, Option.bind_none, Option.none_or, hget, Option.bind_some,
      leadingInt_of_countsTo hcount]
    split <;> rfl
  silent hsilent := by
    simp only [counter, List.find?_nil, Option.bind_none, Option.none_or,
      (get?_ofLines_eq_none hkey).mpr hsilent, Option.getD_none]

theorem countedIn_counters (lines : List String) :
    CountedIn lines "powercycles" (counters [] (ofLines lines)).cycles ∧
      CountedIn lines "poweronhours" (counters [] (ofLines lines)).hours :=
  ⟨countedIn_counter (by decide) 12, countedIn_counter (by decide) 9⟩

/-! ### Outputs with a data section -/

/-- An output without rows, cut in two at a marker of the data section behind the start of the information. -/
structure IsCut (front : List String) (data : String) (after : List String) : Prop where
  noRows : Attribute.table (front ++ data :: after) = []
  start : ∃ line ∈ front, Holds startMarker line
  marker : HoldsDataMarker data

/-- One line behind the marker has the key and as its value a numeral of the number `n`, plain or in groups, and no
other line of the output has the key. -/
def PrintsBehind (front : List String) (data : String) (after : List String) (key : String) (n : Nat) : Prop :=
  ∃ before line later value, after = before ++ line :: later ∧ IsEntry line key value ∧
    IsGrouped value.toList ∧ Numeral.value (ungrouped value.toList) = n ∧
    ¬ Mentions IsEntry (front ++ data :: (before ++ later)) key

/-- A cut output has the counters of its front. -/
theorem IsCut.powerCounters (h : IsCut front data after) :
    Reading.powerCounters (front ++ data :: after) = counters [] (ofLines front) ∧
      Reading.powerCounters front = counters [] (ofLines front) := by
  have hfront : Attribute.table front = [] := by
    have hrows := h.noRows
    rw [Attribute.table, List.filterMap_append] at hrows
    exact (List.append_eq_nil_iff.mp hrows).1
  rw [Reading.powerCounters, h.noRows, ofLines_append_data h.start h.marker, Reading.powerCounters, hfront]
  exact ⟨rfl, rfl⟩

theorem PrintsBehind.silent (h : PrintsBehind front data after key n) (value : String) : ¬ Tells front key value := by
  obtain ⟨before, line, later, -, -, -, -, -, hothers⟩ := h
  exact not_tells_of_not_mentions (fun hfront => hothers (mentions_append.mpr (.inl hfront))) value

/-- **The counters end with the section.** When an output without rows starts its information section and goes on
with a marker of the data section, its power counters are those of the part before that marker. Each one is what
the section of that part has under its key, and it is unknown where the output prints it behind the marker only. -/
theorem counters_end_with_section {σ : Type} {runner : Runner σ} {m : Monitor} {s : Session σ}
    (hfetch : (m.fetch runner .default s).1 = .ok (front ++ data :: after)) (hcut : IsCut front data after) :
    ∃ counters, (m.powerCounters runner s).1 = .ok counters ∧ counters = Reading.powerCounters front ∧
      CountedIn front "powercycles" counters.cycles ∧ CountedIn front "poweronhours" counters.hours ∧
      (∀ n, PrintsBehind front data after "powercycles" n → counters.cycles = unknownCounter) ∧
      ∀ n, PrintsBehind front data after "poweronhours" n → counters.hours = unknownCounter := by
  obtain ⟨hwhole, hfront⟩ := hcut.powerCounters
  obtain ⟨hcycles, hhours⟩ := countedIn_counters front
  exact ⟨counters [] (ofLines front), Monitor.read_eq_ok.mpr ⟨_, hfetch, hwhole⟩, hfront.symm, hcycles, hhours,
    fun _ hprints => hcycles.silent hprints.silent, fun _ hprints => hhours.silent hprints.silent⟩

/-- A counter that stands in the section is read, and one behind it is not. -/
theorem counters_end_with_section_of_hours_only :
    let front := ["=== START OF INFORMATION SECTION ===", "Power On Hours: 5,678"]
    let data := "=== START OF SMART DATA SECTION ==="
    let run : Run := ⟨0, front ++ data :: ["Power Cycles: 1,234"]⟩
    let m : Monitor := ⟨⟨"/dev/nvme0", none, 1000204886016⟩, "smartctl", none⟩
    IsCut front data ["Power Cycles: 1,234"] ∧
      (m.powerCounters (.always run) ⟨.empty, (), [], []⟩).1 = .ok ⟨-1, 5678⟩ := by
  intro front data run m
  have hfetch := Monitor.fetch_always m .default (by decide : isFatal run.status = false)
  obtain ⟨hrows, hread⟩ : Attribute.table run.lines = [] ∧ Reading.powerCounters front = ⟨-1, 5678⟩ := by
    decide +kernel
  have hcut : IsCut front data ["Power Cycles: 1,234"] :=
    ⟨hrows, ⟨_, List.mem_cons_self, List.infix_rfl⟩, ⟨data, by decide, List.infix_rfl⟩⟩
  obtain ⟨counters, hanswer, hfront, -⟩ := counters_end_with_section hfetch hcut
  exact ⟨hcut, by rw [hanswer, hfront, hread]⟩

/-- An NVMe drive prints each counter once, in the data section, and both stay unknown. -/
theorem nvme_counters_not_read :
    ¬ ∀ (runner : Runner Unit) (m : Monitor) (s : Session Unit) (front after : List String) (data : String)
        (n k : Nat), (m.fetch runner .default s).1 = .ok (front ++ data :: after) → IsCut front data after →
      PrintsBehind front data after "powercycles" n → PrintsBehind front data after "poweronhours" k →
      n ≤ maxSigned64 → k ≤ maxSigned64 → (m.powerCounters runner s).1 = .ok ⟨n, k⟩ := by
  intro hreach
  let front := ["=== START OF INFORMATION SECTION ===", "Model Number:                       X1"]
  let data := "=== START OF SMART DATA SECTION ==="
  let cycles := "Power Cycles:                       1,234"
  let hours := "Power On Hours:                     5,678"
  let run : Run := ⟨0, front ++ data :: [cycles, hours]⟩
  let m : Monitor := ⟨⟨"/dev/nvme0", none, 1000204886016⟩, "smartctl", none⟩
  have hfetch := Monitor.fetch_always m .default (by decide : isFatal run.status = false)
  have hcut : IsCut front data [cycles, hours] :=
    ⟨by decide +kernel, ⟨_, List.mem_cons_self, List.infix_rfl⟩, ⟨data, by decide, List.infix_rfl⟩⟩
  have hcycles : PrintsBehind front data [cycles, hours] "powercycles" 1234 := by
    refine ⟨[], cycles, [hours], "1,234", rfl, entry?_eq_some.mp (by decide +kernel), ?_, by decide +kernel, ?_⟩
    · exact .cons (by decide : IsDigits ['1']) (.single (by decide : IsDigits ['2', '3', '4']))
    · rw [mentions_iff_mem]
      decide +kernel
  have hhours : PrintsBehind front data [cycles, hours] "poweronhours" 5678 := by
    refine ⟨[cycles], hours, [], "5,678", rfl, entry?_eq_some.mp (by decide +kernel), ?_, by decide +kernel, ?_⟩
    · exact .cons (by decide : IsDigits ['5']) (.single (by decide : IsDigits ['6', '7', '8']))
    · rw [mentions_iff_mem]
      decide +kernel
  have hreached := hreach _ m _ front [cycles, hours] data 1234 5678 hfetch hcut hcycles hhours
    (by decide) (by decide)
  -- the count that should be reached is unknown instead
  obtain ⟨lines, hlines, hread⟩ := Monitor.read_eq_ok.mp hreached
  rw [hfetch] at hlines
  cases hlines
  have hunknown := (countedIn_counters front).1.silent hcycles.silent
  rw [← hcut.powerCounters.1, hread] at hunknown
  exact absurd hunknown (by decide)

end DriveHealth.Power
