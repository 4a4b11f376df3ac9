/-
# The text of all that smartctl can tell

smartctl's two outputs are decoded, cut into lines, kept and put together again, and a job that is asked for
this text prints it. Of whole lines of valid text nothing is lost on this way: what is printed are the bytes of
the output, and after them those of the error output.

Key definitions: `IsLineText`.
Key theorems: `IsLineText.exists_lines`, `Program.bytes_of_lines`, `extended_text_is_unchanged`.
-/
import DriveHealth.Proofs.CommandLine.Calls
import DriveHealth.Proofs.Text.Lines
import DriveHealth.Proofs.Text.Utf8

namespace DriveHealth

/-- The bytes are valid text without a carriage return right before a line feed. They end in a line feed, if
there are any. -/
structure IsLineText (bytes : List UInt8) : Prop where
  valid : bytes.toByteArray.IsValidUTF8
  ends : bytes = [] ∨ bytes.getLast? = some 10
  plain : ¬ [13, 10] <:+: bytes

/-- Such bytes are those of a text that is made of its lines. -/
theorem IsLineText.exists_lines {bytes : List UInt8} (h : IsLineText bytes) :
    ∃ s, Text.IsLines s ∧ bytes = Text.encode s := by
  obtain ⟨s, rfl⟩ := Text.exists_text h.valid
  refine ⟨s, ⟨?_, fun hin => h.plain (Text.encode_infix hin)⟩, rfl⟩
  rcases h.ends with hnil | hfeed
  · exact .inl (Text.encode_eq_nil.mp hnil)
  · exact .inr (Text.getLast?_of_encode hfeed)

variable {p : Program} {run : Run}

theorem Run.toList_linesOf (s : List Char) : (Run.linesOf s).map String.toList = Text.lines s := by
  simp [Run.linesOf, Function.comp_def]

/-- The lines of a program give its outputs back. -/
theorem Program.bytes_of_lines (hout : IsLineText p.output) (herr : IsLineText p.errorOutput)
    (hne : p.output ++ p.errorOutput ≠ []) :
    (Text.joinLines p.lines ++ "\n").toUTF8.data.toList = p.output ++ p.errorOutput := by
  obtain ⟨s, hs, hout⟩ := hout.exists_lines
  obtain ⟨t, ht, herr⟩ := herr.exists_lines
  have hwhole : Text.unlines (Text.lines s ++ Text.lines t) = s ++ t := by
    rw [Text.unlines_append, hs.unlines_lines, ht.unlines_lines]
  -- a text that is not empty has a line, so that the last line feed is one that printing adds again
  have hlines : Run.linesOf s ++ Run.linesOf t ≠ [] := by
    intro hnil
    have hnone : Text.lines s ++ Text.lines t = [] := by
      rw [← Run.toList_linesOf, ← Run.toList_linesOf, ← List.map_append, hnil, List.map_nil]
    rw [hnone] at hwhole
    rw [hout, herr, ← Text.encode_append, ← hwhole] at hne
    exact hne rfl
  rw [Program.lines, hout, herr, Text.decode_encode, Text.decode_encode, Text.bytes_eq_encode, Text.toList_joinLines hlines,
    List.map_append, Run.toList_linesOf, Run.toList_linesOf, hwhole, Text.encode_append]

/-- The text of a monitor that has not kept it yet is made of the run's lines. -/
theorem Monitor.extendedText_of_accepted {σ : Type} {runner : Runner σ} {m : Monitor} {s : Session σ}
    (hs : s.cache.lookup .all = none)
    (hr : (Step.extendedText.call m).judge (runner (Step.extendedText.call m) s.memory).1 = .ok run) :
    (m.extendedText runner s).1 = .ok (Text.joinLines run.lines) := by
  have hfetch := Step.fetchLines_of_accepted (q := .extendedText) hs hr
  exact congrArg Prod.fst (Query.bind_of_ok hfetch _)

/-- **The extended text is passed on unchanged.** Take a program that ends with bits 0 and 1 of its status
clear and whose two outputs are lines of valid text, not both empty. When it is started for a monitor that has
not kept the extended text yet, the text that the monitor gives is the output followed by the error output,
without the last line feed. A job that is asked for this text, and for nothing stronger, prints just these
bytes, and ends well. -/
theorem extended_text_is_unchanged (host : Host) {p : Program} {status : UInt8}
    (hstatus : p.status = some status)
    (hbits : status.toNat.testBit 0 = false ∧ status.toNat.testBit 1 = false) (hout : IsLineText p.output)
    (herr : IsLineText p.errorOutput) (hne : p.output ++ p.errorOutput ≠ []) :
    (∀ (m : Monitor) (s : Session Unit), s.cache.lookup .all = none →
      host.find? (Step.extendedText.call m) = some p →
      ∃ text, (m.extendedText host.runner s).1 = .ok text ∧
        (text ++ "\n").toUTF8.data.toList = p.output ++ p.errorOutput) ∧
    (∀ (place : Place) (args : List String) (o : Options) (config : Config) (path : String),
      Options.parse args = .ok o → Flag.extended ∈ o.flags →
      (∀ f ∈ [Flag.json, .check, .attributes, .selfTests, .information, .temperature, .powerMode, .config],
        f ∉ o.flags) →
      o.device = some path → Job.loadConfig place o = .ok config →
      host.find? (Step.extendedText.call (Job.monitor place o config path)) = some p →
      let finish := Job.run host.runner place () args
      finish.output.toUTF8.data.toList = p.output ++ p.errorOutput ∧ finish.exitStatus = 0 ∧
        finish.failure = none) := by
  refine ⟨fun m s hs hfind => ?_,
    fun place args o config path hparse hextended hothers hdevice hload hfind => ?_⟩
  · have hjudge := Host.judge_of_accepted hfind hstatus hbits
    exact ⟨_, Monitor.extendedText_of_accepted hs hjudge, Program.bytes_of_lines hout herr hne⟩
  · have hmode : o.mode = .extended :=
      Options.mode_eq_extended.mpr ⟨hextended, fun f hf => hothers f (List.mem_append_left [Flag.config] hf)⟩
    have hconfig : Flag.config ∉ o.flags := hothers _ (by decide)
    have haccepted : (Mode.extended.step.call (Job.monitor place o config path)).judge
        (host.runner (Mode.extended.step.call (Job.monitor place o config path)) ()).1 =
          .ok ⟨status, p.lines⟩ := Host.judge_of_accepted hfind hstatus hbits
    have hinspect := Job.inspect_of_accepted place (Job.configToWrite place o) haccepted
    simp only
    rw [Job.run_eq_inspect hparse hconfig hdevice hload, hmode, hinspect]
    exact ⟨Program.bytes_of_lines hout herr hne, rfl, rfl⟩

/-- A blank line, a carriage return at the start of a line, and a letter of two bytes in the error output. -/
theorem extended_text_of_two_outputs :
    let host : Host := ⟨[("smartctl", ⟨[97, 10, 10, 13, 98, 10], [195, 188, 10], some 4⟩)], ⟨[]⟩, []⟩
    let place : Place := ⟨fun _ => .error "", none, none, fun _ => 0, "", ""⟩
    (Job.run host.runner place () ["--extended", "/dev/sda"]).output.toUTF8.data.toList =
      [97, 10, 10, 13, 98, 10, 195, 188, 10] := by
  intro host place
  have hparse : Options.parse ["--extended", "/dev/sda"] =
      .ok { device := some "/dev/sda", flags := [.extended] } := rfl
  let p : Program := ⟨[97, 10, 10, 13, 98, 10], [195, 188, 10], some 4⟩
  have hstatus : p.status = some 4 := rfl
  have hout : IsLineText p.output := ⟨⟨"a\n\n\rb\n".toList, by decide⟩, .inr rfl, by decide⟩
  have herr : IsLineText p.errorOutput := ⟨⟨"ü\n".toList, by decide⟩, .inr rfl, by decide⟩
  have hfind : host.find? ⟨"smartctl", ["-x", "/dev/sda"]⟩ = some p := by
    rw [Host.find?, if_pos (by decide +kernel)]
    rfl
  obtain ⟨-, hjob⟩ := extended_text_is_unchanged host hstatus (by decide) hout herr (by decide)
  exact (hjob place _ _ {} _ hparse (by decide) (by decide) rfl rfl hfind).1

end DriveHealth
