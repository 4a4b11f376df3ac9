/-
# Written JSON is read back

Reading what was written gives the value that was written. In a text every quote, backslash and control character is
escaped, so a text ends where its closing quote stands; a number ends at the first character that is no digit; and
what follows a value inside of another one is a comma or a closing bracket. So the reader stops behind each value where
the writer stopped (`Json.readValue_write`), and two values are never written alike.

Key theorems: `Json.readValue_write`, `Json.readItems_write`, `Json.readFields_write`, `Json.read?_compact`,
`Json.compact_inj`.
-/
import DriveHealth.Proofs.Json.Reader

namespace DriveHealth.Json

open Text

variable {fuel : Nat} {c : Char} {s rest : List Char} {j : Json}

/-! ### Where a value starts and ends -/

/-- What is written starts with neither a space nor a closing bracket. -/
theorem exists_head_write (j : Json) : ∃ c later, j.write = c :: later ∧ isSpace c = false ∧ c ≠ ']' := by
  unfold write
  cases j with
  | null => exact ⟨'n', _, rfl, by decide, by decide⟩
  | bool b =>
    cases b
    · exact ⟨'f', _, rfl, by decide, by decide⟩
    · exact ⟨'t', _, rfl, by decide, by decide⟩
  | int n =>
    obtain ⟨c, later, htext, hc⟩ := exists_head_toString n
    have hspace : ¬ (c = ' ' ∨ c = '\t' ∨ c = '\n' ∨ c = '\r') := by
      rintro (rfl | rfl | rfl | rfl) <;> exact absurd hc (by decide)
    exact ⟨c, later, htext, by simpa [isSpace] using hspace, hc.ne (by decide)⟩
  | text s => exact ⟨'"', _, rfl, by decide, by decide⟩
  | array items => exact ⟨'[', _, rfl, by decide, by decide⟩
  | object fields => exact ⟨'\x7b', _, rfl, by decide, by decide⟩

theorem skip_cons (h : isSpace c = false) (s : List Char) : skip (c :: s) = c :: s := by
  unfold skip
  rw [List.dropWhile_cons_of_neg (by simp [h])]

theorem skip_write (j : Json) (rest : List Char) : skip (j.write ++ rest) = j.write ++ rest := by
  obtain ⟨c, later, htext, hspace, -⟩ := exists_head_write j
  rw [htext]
  exact skip_cons hspace (later ++ rest)

theorem exists_head_writeItems (item : Json) (items : List Json) :
    ∃ c later, writeItems (item :: items) = c :: later ∧ isSpace c = false ∧ c ≠ ']' := by
  obtain ⟨c, later, htext, hc⟩ := exists_head_write item
  cases items with
  | nil => exact ⟨c, later ++ [']'], by rw [writeItems, htext, List.cons_append], hc⟩
  | cons next items =>
    exact ⟨c, later ++ ',' :: writeItems (next :: items), by rw [writeItems, htext, List.cons_append], hc⟩

theorem exists_head_writeFields (field : String × Json) (fields : List (String × Json)) :
    ∃ later, writeFields (field :: fields) = '"' :: later := by
  cases fields <;> exact ⟨_, rfl⟩

/-! ### The parts of a value -/

/-- What starts with no quote and no opening bracket is a number or a word. -/
theorem readValue_scalar (hskip : skip s = s) (hquote : s.head? ≠ some '"') (hbracket : s.head? ≠ some '[')
    (hbrace : s.head? ≠ some '\x7b') : readValue (fuel + 1) s = readScalar? s := by
  unfold readValue
  rw [hskip]
  split <;> simp_all

theorem readValue_word {word : List Char} (hword : (word, j) ∈ words) (rest : List Char) :
    readValue (fuel + 1) (word ++ rest) = some (j, rest) := by
  have hhead : ∀ w ∈ words, ∃ c later, w.1 = c :: later ∧ isSpace c = false ∧ c ≠ '"' ∧ c ≠ '[' ∧ c ≠ '\x7b' := by
    simp [words, isSpace]
  obtain ⟨c, later, htext, hspace, hquote, hbracket, hbrace⟩ := hhead _ hword
  have hread : readScalar? (word ++ rest) = some (j, rest) := readScalar?_word _ hword
  simp only at htext
  rw [← hread, readValue_scalar] <;> rw [htext, List.cons_append]
  · exact skip_cons hspace _
  all_goals simpa

theorem readValue_int (n : Int) (hrest : Stops Char.isDigit rest) :
    readValue (fuel + 1) ((int n).write ++ rest) = some (int n, rest) := by
  have hskip := skip_write (int n) rest
  obtain ⟨c, later, htext, hc⟩ := exists_head_toString n
  unfold write at hskip ⊢
  rw [readValue_scalar hskip, readScalar?_toString n hrest]
  all_goals
    rw [htext]
    simpa using hc.ne (by decide)

theorem readValue_text (t : String) (rest : List Char) :
    readValue (fuel + 1) ((text t).write ++ rest) = some (text t, rest) := by
  rw [readValue, skip_write, write, quote]
  simp [readText_quoted]

mutual

/-- **A value is read to its end.** Whatever follows a value that was written, the reader gives the value back and
stops behind it; after a number no digit may follow. -/
theorem readValue_write : ∀ (fuel : Nat) (j : Json) (rest : List Char), j.write.length < fuel →
    Stops Char.isDigit rest → readValue fuel (j.write ++ rest) = some (j, rest)
  | 0, _, _, hfuel, _ => absurd hfuel (Nat.not_lt_zero _)
  | fuel + 1, null, rest, _, _ => readValue_word (.head _) rest
  | fuel + 1, bool true, rest, _, _ => readValue_word (.tail _ (.head _)) rest
  | fuel + 1, bool false, rest, _, _ => readValue_word (.tail _ (.tail _ (.head _))) rest
  | fuel + 1, int n, rest, _, hrest => readValue_int n hrest
  | fuel + 1, text t, rest, _, _ => readValue_text t rest
  | fuel + 1, array [], rest, _, _ => by
    rw [readValue, skip_write]
    simp (disch := decide) [write, writeItems, skip_cons]
  | fuel + 1, array (item :: items), rest, hfuel, _ => by
    have hread := readItems_write fuel item items rest (Nat.lt_of_succ_lt_succ hfuel)
    obtain ⟨c, later, htext, hspace, hclose⟩ := exists_head_writeItems item items
    rw [readValue, skip_write, write, List.cons_append]
    simp only
    rw [htext, List.cons_append, skip_cons hspace]
    split
    · rename_i heq
      cases heq
      exact absurd rfl hclose
    · rw [← List.cons_append, ← htext, hread]
      rfl
  | fuel + 1, object [], rest, _, _ => by
    rw [readValue, skip_write]
    simp (disch := decide) [write, writeFields, skip_cons]
  | fuel + 1, object (field :: fields), rest, hfuel, _ => by
    have hread := readFields_write fuel field fields rest (Nat.lt_of_succ_lt_succ hfuel)
    obtain ⟨later, htext⟩ := exists_head_writeFields field fields
    rw [htext, List.cons_append] at hread
    rw [readValue, skip_write, write, List.cons_append, htext]
    simp only
    rw [List.cons_append, skip_cons (by decide)]
    simp [hread]

/-- Items are read to the closing bracket. -/
theorem readItems_write : ∀ (fuel : Nat) (item : Json) (items : List Json) (rest : List Char),
    (writeItems (item :: items)).length < fuel →
    readItems fuel (writeItems (item :: items) ++ rest) = some (item :: items, rest)
  | 0, _, _, _, hfuel => absurd hfuel (Nat.not_lt_zero _)
  | fuel + 1, item, [], rest, hfuel => by
    rw [writeItems, List.length_append, List.length_singleton] at hfuel
    have hitem := readValue_write fuel item (']' :: rest) (by omega) (stops_cons.mpr rfl)
    rw [readItems, writeItems, List.append_assoc, List.singleton_append, hitem]
    simp (disch := decide) [skip_cons]
  | fuel + 1, item, next :: items, rest, hfuel => by
    rw [writeItems, List.length_append, List.length_cons] at hfuel
    have hitem := readValue_write fuel item (',' :: (writeItems (next :: items) ++ rest)) (by omega)
      (stops_cons.mpr rfl)
    have hitems := readItems_write fuel next items rest (by omega)
    rw [readItems, writeItems, List.append_assoc, List.cons_append, hitem]
    simp (disch := decide) [skip_cons, hitems]

/-- Fields are read to the closing brace. -/
theorem readFields_write : ∀ (fuel : Nat) (field : String × Json) (fields : List (String × Json)) (rest : List Char),
    (writeFields (field :: fields)).length < fuel →
    readFields fuel (writeFields (field :: fields) ++ rest) = some (field :: fields, rest)
  | 0, _, _, _, hfuel => absurd hfuel (Nat.not_lt_zero _)
  | fuel + 1, (key, value), [], rest, hfuel => by
    rw [writeFields] at hfuel
    simp only [List.length_append, List.length_cons, List.length_nil] at hfuel
    have hvalue := readValue_write fuel value ('\x7d' :: rest) (by omega) (stops_cons.mpr rfl)
    rw [readFields, writeFields, quote]
    simp (disch := decide) [skip_cons, readText_quoted, hvalue]
  | fuel + 1, (key, value), next :: fields, rest, hfuel => by
    rw [writeFields] at hfuel
    simp only [List.length_append, List.length_cons] at hfuel
    have hvalue := readValue_write fuel value (',' :: (writeFields (next :: fields) ++ rest)) (by omega)
      (stops_cons.mpr rfl)
    have hfields := readFields_write fuel next fields rest (by omega)
    rw [readFields, writeFields, quote]
    simp (disch := decide) [skip_cons, readText_quoted, hvalue, hfields]

end

/-! ### Whole texts -/

/-- The value of a written text is the value that was written. -/
theorem read?_compact (j : Json) : read? j.compact = some j := by
  have hread := readValue_write (j.write.length + 1) j [] (Nat.lt_succ_self _) stops_nil
  unfold read? compact
  rw [String.toList_ofList]
  rw [List.append_nil] at hread
  rw [hread]
  rfl

/-- Two values are never written alike. -/
theorem compact_inj {a b : Json} : a.compact = b.compact ↔ a = b := by
  refine ⟨fun h => ?_, congrArg compact⟩
  have hread := congrArg read? h
  rwa [read?_compact, read?_compact, Option.some_inj] at hread

end DriveHealth.Json
