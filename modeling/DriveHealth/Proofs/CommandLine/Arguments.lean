/-
# What the arguments give

The arguments spell items: flags, settings with their values, and operands. A setting takes its value from the
rest of its argument, with or without an equals sign, or from the next argument, which then must look like an
operand. After two dashes all arguments are operands. Accepted arguments spell items of which no flag, no
setting and no operand comes twice, and the options hold just what these give.

Key definitions: `Options.Item`, `Options.Gives`, `Options.Opens`, `Options.Spells`, `Options.Holds`.
Key theorems: `Options.read_eq_ok_iff`, `Options.parse_eq_ok_iff`, `Options.Holds.give`,
`Options.exists_items_of_parse`.
-/
import DriveHealth.CommandLine.Options
import DriveHealth.Proofs.Text.Cells

namespace DriveHealth

namespace Options

/-! ### Items -/

/-- One thing that the arguments give. -/
inductive Item
  | flag (f : Flag)
  | setting (s : Setting) (value : List Char)
  | operand (value : List Char)
  deriving DecidableEq

/-- What an item is about, its value apart. -/
def Item.key : Item → Option (Flag ⊕ Setting)
  | .flag f => some (.inl f)
  | .setting s _ => some (.inr s)
  | .operand _ => none

/-- The text looks like no option: it does not begin with a dash, or is one dash alone. -/
def IsOperand (s : List Char) : Prop := s.head? ≠ some '-' ∨ s = ['-']

/-- The argument alone gives the item. -/
inductive Gives : List Char → Item → Prop
  | flag {name : List Char} {f : Flag} (h : longNames.lookup (String.ofList name) = some (.flag f)) :
    Gives ('-' :: '-' :: name) (.flag f)
  | long {name value : List Char} {s : Setting}
    (h : longNames.lookup (String.ofList name) = some (.setting s)) :
    Gives ('-' :: '-' :: (name ++ '=' :: value)) (.setting s value)
  | equals {letter : Char} {value : List Char} {s : Setting}
    (h : shortNames.lookup letter = some (.setting s)) :
    Gives ('-' :: letter :: '=' :: value) (.setting s value)
  | joined {letter c : Char} {value : List Char} {s : Setting}
    (h : shortNames.lookup letter = some (.setting s)) (hc : c ≠ '=') :
    Gives ('-' :: letter :: c :: value) (.setting s (c :: value))
  | operand {value : List Char} (h : IsOperand value) : Gives value (.operand value)

/-- The argument names a setting whose value is the next argument. -/
inductive Opens : List Char → Setting → Prop
  | long {name : List Char} {s : Setting} (h : longNames.lookup (String.ofList name) = some (.setting s)) :
    Opens ('-' :: '-' :: name) s
  | short {letter : Char} {s : Setting} (h : shortNames.lookup letter = some (.setting s)) :
    Opens ['-', letter] s

/-- The arguments spell the items, one after another. -/
inductive Spells : List String → List Item → Prop
  | nil : Spells [] []
  | item {arg : String} {args : List String} {item : Item} {items : List Item} (h : Gives arg.toList item)
    (rest : Spells args items) : Spells (arg :: args) (item :: items)
  | setting {arg value : String} {args : List String} {s : Setting} {items : List Item}
    (h : Opens arg.toList s) (hvalue : IsOperand value.toList) (rest : Spells args items) :
    Spells (arg :: value :: args) (.setting s value.toList :: items)
  | operands (values : List String) : Spells ("--" :: values) (values.map fun v => .operand v.toList)

/-! ### Names -/

variable {o o' : Options} {args : List String} {s : Setting} {name value : List Char}

theorem longNames_plain : ∀ p ∈ longNames, p.1.toList ≠ [] ∧ '=' ∉ p.1.toList := by decide

theorem shortNames_plain : ∀ p ∈ shortNames, p.1 ≠ '-' := by decide

/-- The name of a long option is not empty and has no equals sign. -/
theorem long_plain {n : Name} (h : longNames.lookup (String.ofList name) = some n) :
    name ≠ [] ∧ '=' ∉ name := by
  obtain ⟨before, after, hsplit, -⟩ := List.lookup_eq_some_iff.mp h
  have hplain := longNames_plain (String.ofList name, n) (by simp [hsplit])
  rwa [String.toList_ofList] at hplain

theorem short_plain {letter : Char} {n : Name} (h : shortNames.lookup letter = some n) : letter ≠ '-' := by
  obtain ⟨before, after, hsplit, -⟩ := List.lookup_eq_some_iff.mp h
  exact shortNames_plain (letter, n) (by simp [hsplit])

/-! ### The look of an argument -/

/-- How an argument looks, by its letters. -/
inductive Looks : List Char → Look → Prop
  | dashes : Looks ['-', '-'] .dashes
  | operand {value : List Char} (h : IsOperand value) : Looks value .operand
  | long {name : List Char} (hname : '=' ∉ name) : Looks ('-' :: '-' :: name) (.long name none)
  | longValue {name value : List Char} (hname : '=' ∉ name) :
    Looks ('-' :: '-' :: (name ++ '=' :: value)) (.long name (some value))
  | short {letter : Char} {rest : List Char} (h : letter ≠ '-') :
    Looks ('-' :: letter :: rest) (.short (letter :: rest))

theorem looks_look (arg : List Char) : Looks arg (look arg) := by
  unfold look
  split
  · exact .dashes
  · rename_i s _
    have hcut : s.takeWhile (· ≠ '=') ++ s.dropWhile (· ≠ '=') = s := List.takeWhile_append_dropWhile
    have hname : '=' ∉ s.takeWhile (· ≠ '=') := fun hmem => by simpa using List.mem_takeWhile_imp hmem
    rcases hvalue : s.dropWhile (· ≠ '=') with _ | ⟨c, value⟩
    · rw [hvalue, List.append_nil] at hcut
      rw [hcut] at hname ⊢
      exact .long hname
    · have hstops := Text.stops_dropWhile (· ≠ '=') s
      rw [hvalue, Text.stops_cons] at hstops
      obtain rfl : c = '=' := by simpa using hstops
      rw [hvalue] at hcut
      conv => arg 1; rw [← hcut]
      exact .longValue hname
  · exact .operand (.inr rfl)
  · rename_i letters hdashes hlong hdash
    cases letters with
    | nil => exact absurd rfl hdash
    | cons letter rest => exact .short fun h => hlong rest (h ▸ rfl)
  · rename_i hdashes hlong hdash hshort
    refine .operand (.inl fun hhead => ?_)
    obtain ⟨rest, rfl⟩ := List.head?_eq_some_iff.mp hhead
    exact hshort rest rfl

/-- An argument that looks like no option is an operand. -/
theorem isValue_iff {arg : String} : isValue arg = true ↔ IsOperand arg.toList := by
  have hlooks := looks_look arg.toList
  unfold isValue
  generalize arg.toList = letters, look arg.toList = l at hlooks
  cases hlooks with
  | dashes => simp [IsOperand]
  | operand h => simp [h]
  | long => simp [IsOperand]
  | longValue => simp [IsOperand]
  | short => simp [IsOperand]

/-! ### What one argument gives -/

theorem gives_operand (h : IsOperand value) {item : Item} : Gives value item ↔ item = .operand value := by
  constructor
  · rintro (hflag | hlong | hshort | ⟨hshort, -⟩ | hoperand)
    · simp [IsOperand] at h
    · simp [IsOperand] at h
    · simp [IsOperand] at h
    · simp [IsOperand] at h
    · rfl
  · rintro rfl
    exact .operand h

theorem IsOperand.not_opens (h : IsOperand value) : ¬ Opens value s := by
  rintro (hlong | hshort)
  · simp [IsOperand] at h
  · simp [IsOperand] at h

theorem gives_long (hname : '=' ∉ name) {item : Item} :
    Gives ('-' :: '-' :: name) item ↔
      ∃ f, longNames.lookup (String.ofList name) = some (.flag f) ∧ item = .flag f := by
  constructor
  · -- no letter of a short option is a dash
    rintro (h | h | h | ⟨h, -⟩ | h)
    · exact ⟨_, h, rfl⟩
    · simp at hname
    · exact absurd rfl (short_plain h)
    · exact absurd rfl (short_plain h)
    · simp [IsOperand] at h
  · rintro ⟨f, h, rfl⟩
    exact .flag h

theorem gives_longValue (hname : '=' ∉ name) {item : Item} :
    Gives ('-' :: '-' :: (name ++ '=' :: value)) item ↔
      ∃ s, longNames.lookup (String.ofList name) = some (.setting s) ∧ item = .setting s value := by
  constructor
  · generalize harg : '-' :: '-' :: (name ++ '=' :: value) = arg
    intro hgives
    cases hgives with
    | flag h =>
      obtain ⟨-, hplain⟩ := long_plain h
      simp only [List.cons.injEq, true_and] at harg
      simp [← harg] at hplain
    | @long name' value' s h =>
      -- the name ends at the first equals sign, since no name has one
      obtain ⟨-, hplain⟩ := long_plain h
      simp only [List.cons.injEq, true_and] at harg
      have hclass {n : List Char} (hn : '=' ∉ n) : ∀ c ∈ n, decide (c ≠ '=') = true :=
        fun c hc => decide_eq_true fun heq => hn (heq ▸ hc)
      obtain ⟨rfl, htail⟩ := Text.run_cancel (hclass hname) (Text.stops_cons.mpr (by simp)) (hclass hplain)
        (Text.stops_cons.mpr (by simp)) harg
      cases htail
      exact ⟨s, h, rfl⟩
    | equals h =>
      simp only [List.cons.injEq, true_and] at harg
      exact absurd harg.1.symm (short_plain h)
    | joined h =>
      simp only [List.cons.injEq, true_and] at harg
      exact absurd harg.1.symm (short_plain h)
    | operand h =>
      subst harg
      simp [IsOperand] at h
  · rintro ⟨s, h, rfl⟩
    exact .long h

theorem gives_short {letter : Char} {rest : List Char} (hletter : letter ≠ '-') {item : Item} :
    Gives ('-' :: letter :: rest) item ↔ ∃ s, shortNames.lookup letter = some (.setting s) ∧
      ((∃ value, rest = '=' :: value ∧ item = .setting s value) ∨
        ∃ c value, c ≠ '=' ∧ rest = c :: value ∧ item = .setting s rest) := by
  constructor
  · rintro (h | h | h | ⟨h, hc⟩ | h)
    · exact absurd rfl hletter
    · exact absurd rfl hletter
    · exact ⟨_, h, .inl ⟨_, rfl, rfl⟩⟩
    · exact ⟨_, h, .inr ⟨_, _, hc, rfl, rfl⟩⟩
    · simp [IsOperand] at h
  · rintro ⟨s, h, ⟨value, rfl, rfl⟩ | ⟨c, value, hc, rfl, rfl⟩⟩
    · exact .equals h
    · exact .joined h hc

theorem opens_long :
    Opens ('-' :: '-' :: name) s ↔ longNames.lookup (String.ofList name) = some (.setting s) := by
  constructor
  · rintro (h | h)
    · exact h
    · exact absurd rfl (short_plain h)
  · exact .long

theorem opens_short {letter : Char} {rest : List Char} (hletter : letter ≠ '-') :
    Opens ('-' :: letter :: rest) s ↔ rest = [] ∧ shortNames.lookup letter = some (.setting s) := by
  constructor
  · rintro (h | h)
    · exact absurd rfl hletter
    · exact ⟨rfl, h⟩
  · rintro ⟨rfl, h⟩
    exact .short h

/-! ### Reading one argument -/

/-- The options after one more item. -/
def give (o : Options) : Item → Except Stop Options
  | .flag f => giveFlag o f
  | .setting s value => giveValue o s value
  | .operand value => giveOperand o (String.ofList value)

/-- What one argument does to the options: it gives an item, or opens a setting that waits for its value. -/
def Does (o : Options) (arg : List Char) (r : Options × Option Setting) : Prop :=
  (∃ item, Gives arg item ∧ give o item = .ok r.1 ∧ r.2 = none) ∨ ∃ s, Opens arg s ∧ r = (o, some s)

variable {r : Options × Option Setting}

theorem bind_eq_ok {α β : Type} {x : Except Stop α} {f : α → Except Stop β} {b : β} :
    x >>= f = .ok b ↔ ∃ a, x = .ok a ∧ f a = .ok b := by
  cases x <;> simp [bind, Except.bind]

/-- An argument that gives its item leaves no setting open. -/
theorem given_eq_ok {x : Except Stop Options} :
    (fun o => (o, (none : Option Setting))) <$> x = .ok r ↔ x = .ok r.1 ∧ r.2 = none := by
  cases x with
  | error stop => simp
  | ok o => simp [Prod.ext_iff, eq_comm]

theorem readLong_eq_ok_iff (hname : '=' ∉ name) :
    readLong o name none = .ok r ↔ Does o ('-' :: '-' :: name) r := by
  simp only [Does, gives_long hname, opens_long, readLong]
  rcases longNames.lookup (String.ofList name) with _ | (f | s | stop)
  · simp
  · simp [given_eq_ok, give]
  · simp [eq_comm]
  · simp

theorem readLong_some_eq_ok_iff (hname : '=' ∉ name) :
    readLong o name (some value) = .ok r ↔ Does o ('-' :: '-' :: (name ++ '=' :: value)) r := by
  have hopens : ∀ s, ¬ Opens ('-' :: '-' :: (name ++ '=' :: value)) s := fun s h => by
    obtain ⟨-, hplain⟩ := long_plain (opens_long.mp h)
    simp at hplain
  simp only [Does, gives_longValue hname, hopens, readLong]
  rcases longNames.lookup (String.ofList name) with _ | (f | s | stop)
  · simp
  · simp
  · simp [given_eq_ok, give]
  · simp

theorem readLetters_eq_ok_iff {letter : Char} {rest : List Char} (hletter : letter ≠ '-') :
    readLetters o (letter :: rest) = .ok r ↔ Does o ('-' :: letter :: rest) r := by
  simp only [Does, gives_short hletter, opens_short hletter, readLetters]
  rcases shortNames.lookup letter with _ | (f | s | stop)
  · simp
  · simp
  · dsimp only
    split
    · simp [eq_comm]
    · simp [given_eq_ok, give]
    · rename_i value hne hequals
      obtain ⟨c, value', rfl⟩ := List.exists_cons_of_ne_nil hne
      have hc : c ≠ '=' := fun h => hequals value' (h ▸ rfl)
      simp [given_eq_ok, give, hc]
  · simp

/-! ### Reading the arguments -/

/-- Two dashes alone are no option. -/
theorem spells_dashes {items : List Item} :
    Spells ("--" :: args) items ↔ items = args.map fun v => .operand v.toList := by
  constructor
  · -- no name is empty
    rintro (h | ⟨h, -⟩ | ⟨h, -, -⟩ | h)
    · obtain ⟨f, hlookup, -⟩ := (gives_long List.not_mem_nil).mp h
      exact absurd rfl (long_plain hlookup).1
    · exact absurd rfl (long_plain (opens_long.mp h)).1
    · rfl
  · rintro rfl
    exact .operands args

theorem spells_cons {arg : String} {items : List Item} (harg : arg ≠ "--") :
    Spells (arg :: args) items ↔
      (∃ item rest, Gives arg.toList item ∧ Spells args rest ∧ items = item :: rest) ∨
      ∃ s value args' rest, Opens arg.toList s ∧ args = value :: args' ∧ IsOperand value.toList ∧
        Spells args' rest ∧ items = .setting s value.toList :: rest := by
  constructor
  · rintro (h | ⟨h, hrest⟩ | ⟨h, hvalue, hrest⟩ | h)
    · exact .inl ⟨_, _, h, hrest, rfl⟩
    · exact .inr ⟨_, _, _, _, h, rfl, hvalue, hrest, rfl⟩
    · exact absurd rfl harg
  · rintro (⟨item, rest, h, hrest, rfl⟩ | ⟨s, value, args', rest, h, rfl, hvalue, hrest, rfl⟩)
    · exact .item h hrest
    · exact .setting h hvalue hrest

theorem read_cons {arg : String} (harg : arg ≠ "--") :
    read o none (arg :: args) = .ok o' ↔ ∃ r, Does o arg.toList r ∧ read r.1 r.2 args = .ok o' := by
  have hdashes : arg.toList ≠ ['-', '-'] := fun h => harg (String.toList_injective h)
  have hlooks := looks_look arg.toList
  rw [read]
  generalize hletters : arg.toList = letters at hlooks hdashes ⊢
  generalize look letters = l at hlooks ⊢
  cases hlooks with
  | dashes => exact absurd rfl hdashes
  | operand h =>
    have harg : String.ofList letters = arg := by rw [← hletters, String.ofList_toList]
    simp [bind_eq_ok, Does, gives_operand h, h.not_opens, give, harg]
  | long hname => simp [bind_eq_ok, readLong_eq_ok_iff hname]
  | longValue hname => simp [bind_eq_ok, readLong_some_eq_ok_iff hname]
  | short hletter => simp [bind_eq_ok, readLetters_eq_ok_iff hletter]

/-- A setting that waits takes the next argument, which must look like an operand. -/
theorem read_waiting : read o (some s) args = .ok o' ↔
    ∃ value args', args = value :: args' ∧ IsOperand value.toList ∧
      ∃ o₁, give o (.setting s value.toList) = .ok o₁ ∧ read o₁ none args' = .ok o' := by
  cases args with
  | nil => simp [read]
  | cons value args =>
    by_cases h : isValue value = true
    · simp [read, h, isValue_iff.mp h, bind_eq_ok, give]
    · have hread : read o (some s) (value :: args) = .error .mistake := by
        rw [read, Bool.eq_false_iff.mpr h]
        rfl
      have hvalue : ¬ IsOperand value.toList := fun hoperand => h (isValue_iff.mpr hoperand)
      simp [hread, hvalue]

/-- **What is read of arguments.** They are read to the end when they spell items that can be given one after
another, and these give the options. -/
theorem read_eq_ok_iff : ∀ (args : List String) {o o' : Options},
    read o none args = .ok o' ↔ ∃ items, Spells args items ∧ items.foldlM give o = .ok o'
  | [], o, o' => by
    constructor
    · intro h
      exact ⟨[], .nil, h⟩
    · rintro ⟨items, ⟨⟩, h⟩
      exact h
  | arg :: args, o, o' => by
    -- an argument that opens a setting goes with the one after it, so the rest can be two shorter
    by_cases harg : arg = "--"
    · subst harg
      simp only [spells_dashes, exists_eq_left, List.foldlM_map]
      rw [read]
      simp [look, give]
    · rw [read_cons harg]
      simp only [spells_cons harg]
      constructor
      · rintro ⟨⟨o₁, w⟩, ⟨item, hgives, hgive, rfl⟩ | ⟨s, hopens, ⟨⟩⟩, hread⟩
        · obtain ⟨rest, hspells, hrest⟩ := (read_eq_ok_iff args).mp hread
          exact ⟨_, .inl ⟨item, rest, hgives, hspells, rfl⟩, bind_eq_ok.mpr ⟨o₁, hgive, hrest⟩⟩
        · obtain ⟨value, args', rfl, hvalue, o₁, hgive, hread⟩ := read_waiting.mp hread
          obtain ⟨rest, hspells, hrest⟩ := (read_eq_ok_iff args').mp hread
          exact ⟨_, .inr ⟨s, value, args', rest, hopens, rfl, hvalue, hspells, rfl⟩,
            bind_eq_ok.mpr ⟨o₁, hgive, hrest⟩⟩
      · rintro ⟨_, ⟨item, rest, hgives, hspells, rfl⟩ |
          ⟨s, value, args', rest, hopens, rfl, hvalue, hspells, rfl⟩, hfold⟩
        · obtain ⟨o₁, hgive, hrest⟩ := bind_eq_ok.mp hfold
          exact ⟨(o₁, none), .inl ⟨item, hgives, hgive, rfl⟩, (read_eq_ok_iff args).mpr ⟨rest, hspells, hrest⟩⟩
        · obtain ⟨o₁, hgive, hrest⟩ := bind_eq_ok.mp hfold
          exact ⟨(o, some s), .inr ⟨s, hopens, rfl⟩, read_waiting.mpr
            ⟨value, args', rfl, hvalue, o₁, hgive, (read_eq_ok_iff args').mpr ⟨rest, hspells, hrest⟩⟩⟩

/-! ### What options hold -/

/-- No flag and no setting is given twice, and no second operand. -/
def Once (items : List Item) : Prop := items.Pairwise fun a b => a.key ≠ b.key

/-- The options hold what the items give. -/
structure Holds (items : List Item) (o : Options) : Prop where
  once : Once items
  flags : ∀ f, f ∈ o.flags ↔ .flag f ∈ items
  device : ∀ path, o.device = some path ↔ .operand path.toList ∈ items
  size : ∀ value, .setting .size value ∈ items → ∃ n, size? value = some n ∧ o.size = some n
  noSize : (∀ value, .setting .size value ∉ items) → o.size = none
  deviceType : ∀ value, o.deviceType = some value ↔ .setting .deviceType value.toList ∈ items
  nocheck : ∀ value, o.nocheck = some value ↔ .setting .nocheck value.toList ∈ items
  configFile : ∀ path, o.configFile = some path ↔ .setting .configFile path.toList ∈ items

/-- What is set now was not set before. -/
theorem set_eq_ok {α : Type} {old : Option α} {new : α} {put : Option α → Options} :
    put <$> setOnce old new = .ok o' ↔ old = none ∧ o' = put (some new) := by
  cases old <;> simp [setOnce, eq_comm]

section Concat

variable {items : List Item} {item : Item} {mk : List Char → Item} {old : Option String}

/-- A text that is not held was not given. -/
theorem not_mem_of_none (h : ∀ v, old = some v ↔ mk v.toList ∈ items) (hnone : old = none) (v : List Char) :
    mk v ∉ items := by
  intro hmem
  have hsome := (h (String.ofList v)).mpr (by rwa [String.toList_ofList])
  rw [hnone] at hsome
  cases hsome

/-- A text that is given for the first time is held. -/
theorem holds_given (hmk : Function.Injective mk) (h : ∀ v, old = some v ↔ mk v.toList ∈ items)
    (hnone : old = none) (v : String) :
    some (String.ofList value) = some v ↔ mk v.toList ∈ items ++ [mk value] := by
  have hfresh := not_mem_of_none h hnone v.toList
  simp [hfresh, hmk.eq_iff, String.ext_iff, eq_comm]

theorem setting_injective (s : Setting) : Function.Injective (Item.setting s) := by
  intro v w h
  cases h
  rfl

theorem operand_injective : Function.Injective Item.operand := by
  intro v w h
  cases h
  rfl

theorem once_concat (h : Once items) (hfresh : ∀ a ∈ items, a.key ≠ item.key) : Once (items ++ [item]) :=
  List.pairwise_append.mpr ⟨h, List.pairwise_singleton .., by simpa using hfresh⟩

theorem once_setting (h : Once items) (hfresh : ∀ v, .setting s v ∉ items) :
    Once (items ++ [.setting s value]) := by
  refine once_concat h ?_
  rintro (f | ⟨s', v⟩ | path) hmem hkey
  · cases hkey
  · cases hkey
    exact hfresh v hmem
  · cases hkey

end Concat

/-- What is given once more is held as well, if it can be given. -/
theorem Holds.give {items : List Item} {item : Item} (h : Holds items o) (hgive : give o item = .ok o') :
    Holds (items ++ [item]) o' := by
  cases item with
  | flag f =>
    simp only [Options.give, giveFlag] at hgive
    split_ifs at hgive with hf
    cases hgive
    refine ⟨once_concat h.once ?_, ?_, ?_, ?_, ?_, ?_, ?_, ?_⟩
    · rintro (g | ⟨s, v⟩ | path) hmem hkey
      · cases hkey
        exact hf ((h.flags f).mpr hmem)
      · cases hkey
      · cases hkey
    · simp [h.flags]
    · simpa using h.device
    · simpa using h.size
    · simpa using h.noSize
    · simpa using h.deviceType
    · simpa using h.nocheck
    · simpa using h.configFile
  | setting s value =>
    cases s with
    | size =>
      simp only [Options.give, giveValue] at hgive
      split at hgive
      · cases hgive
      · rename_i n hn
        obtain ⟨hnone, rfl⟩ := set_eq_ok.mp hgive
        have hfresh (v : List Char) : .setting .size v ∉ items := by
          intro hmem
          obtain ⟨n, -, hsome⟩ := h.size v hmem
          rw [hnone] at hsome
          cases hsome
        refine ⟨once_setting h.once hfresh, ?_, ?_, ?_, ?_, ?_, ?_, ?_⟩
        · simpa using h.flags
        · simpa using h.device
        · simpa [hfresh] using hn
        · exact fun hnot => absurd (List.mem_append_right _ (List.mem_singleton_self _)) (hnot value)
        · simpa using h.deviceType
        · simpa using h.nocheck
        · simpa using h.configFile
    | deviceType =>
      obtain ⟨hnone, rfl⟩ := set_eq_ok.mp hgive
      refine ⟨once_setting h.once (not_mem_of_none h.deviceType hnone), ?_, ?_, ?_, ?_, ?_, ?_, ?_⟩
      · simpa using h.flags
      · simpa using h.device
      · simpa using h.size
      · simpa using h.noSize
      · exact holds_given (setting_injective _) h.deviceType hnone
      · simpa using h.nocheck
      · simpa using h.configFile
    | nocheck =>
      obtain ⟨hnone, rfl⟩ := set_eq_ok.mp hgive
      refine ⟨once_setting h.once (not_mem_of_none h.nocheck hnone), ?_, ?_, ?_, ?_, ?_, ?_, ?_⟩
      · simpa using h.flags
      · simpa using h.device
      · simpa using h.size
      · simpa using h.noSize
      · simpa using h.deviceType
      · exact holds_given (setting_injective _) h.nocheck hnone
      · simpa using h.configFile
    | configFile =>
      simp only [Options.give, giveValue] at hgive
      split_ifs at hgive with hempty
      obtain ⟨hnone, rfl⟩ := set_eq_ok.mp hgive
      refine ⟨once_setting h.once (not_mem_of_none h.configFile hnone), ?_, ?_, ?_, ?_, ?_, ?_, ?_⟩
      · simpa using h.flags
      · simpa using h.device
      · simpa using h.size
      · simpa using h.noSize
      · simpa using h.deviceType
      · simpa using h.nocheck
      · exact holds_given (setting_injective _) h.configFile hnone
  | operand value =>
    obtain ⟨hnone, rfl⟩ := set_eq_ok.mp hgive
    refine ⟨once_concat h.once ?_, ?_, ?_, ?_, ?_, ?_, ?_, ?_⟩
    · rintro (f | ⟨s, v⟩ | path) hmem hkey
      · cases hkey
      · cases hkey
      · exact not_mem_of_none h.device hnone path hmem
    · simpa using h.flags
    · exact holds_given operand_injective h.device hnone
    · simpa using h.size
    · simpa using h.noSize
    · simpa using h.deviceType
    · simpa using h.nocheck
    · simpa using h.configFile

theorem holds_of_foldlM {items given : List Item} (h : Holds given o) (hfold : items.foldlM give o = .ok o') :
    Holds (given ++ items) o' := by
  induction items generalizing given o with
  | nil =>
    cases hfold
    rwa [List.append_nil]
  | cons item items ih =>
    obtain ⟨o₁, hgive, hrest⟩ := bind_eq_ok.mp hfold
    have hall := ih (h.give hgive) hrest
    rwa [List.append_assoc] at hall

theorem holds_nil : Holds [] {} := by
  refine ⟨List.Pairwise.nil, ?_, ?_, ?_, ?_, ?_, ?_, ?_⟩ <;> simp

/-- Arguments are accepted when they spell items that can be given, a device among them unless the
configuration is asked for. -/
theorem parse_eq_ok_iff : parse args = .ok o ↔
    (∃ items, Spells args items ∧ items.foldlM give {} = .ok o) ∧
      (Flag.config ∉ o.flags → o.device ≠ none) := by
  rw [← read_eq_ok_iff, parse, bind_eq_ok]
  constructor
  · rintro ⟨o₁, hread, h⟩
    split_ifs at h with hmissing
    · cases h
    · cases h
      refine ⟨hread, fun hconfig hdevice => hmissing ?_⟩
      simp [hconfig, hdevice]
  · rintro ⟨hread, hdevice⟩
    refine ⟨o, hread, if_neg fun hmissing => ?_⟩
    simp at hmissing
    exact hdevice hmissing.2 hmissing.1

/-- **What accepted arguments give.** They spell items of which none comes twice, and the options hold just
what these give. -/
theorem exists_items_of_parse (h : parse args = .ok o) : ∃ items, Spells args items ∧ Holds items o := by
  obtain ⟨⟨items, hspells, hfold⟩, -⟩ := parse_eq_ok_iff.mp h
  exact ⟨items, hspells, holds_of_foldlM holds_nil hfold⟩

end Options

end DriveHealth
