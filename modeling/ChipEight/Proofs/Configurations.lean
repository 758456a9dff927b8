import Mathlib.Logic.Relation
import ChipEight.Proofs.Numerals
import ChipEight.Proofs.Reload
import ChipEight.Proofs.Variants

/-!
# What configurations are accepted

A value is accepted as a configuration exactly if it describes one (`Config.Describes`): every known
entry is absent and leaves its default, or says what it has to.  What is refused is refused under
one name, except that a wrong value which is nested too deeply cannot be shown in the message.
Since only known keys are looked up, nobody notices an unknown key or the order of the keys
(`Config.Alike`).  The main statement is `Config.ofValue_verdict`.
-/

namespace ChipEight.Config

/-! ## What entries say -/

/-- What an entry says, or the default if it is absent. -/
inductive Entry {α : Type} (tells : Value → α → Prop) (default : α) (name : String)
    (entries : List (Value × Value)) : α → Prop
  | absent (missing : Value.find? name entries = none) : Entry tells default name entries default
  | present {value : Value} {a : α} (found : Value.find? name entries = some value)
      (told : tells value a) : Entry tells default name entries a

/-- A truth value says itself. -/
def Chooses (value : Value) (choice : Bool) : Prop :=
  value = .bool choice

/-- Null says that there is no integer. -/
inductive MeansOptional : Value → Option ℤ → Prop
  | null : MeansOptional .null none
  | some {value : Value} {n : ℤ} (means : Means value n) : MeansOptional value (some n)

/-- A section is a map, or null if it has no entries. -/
inductive Holds (value : Value) : List (Value × Value) → Prop
  | null (content : value.content = .null) : Holds value []
  | map {entries : List (Value × Value)} (content : value.content = .map entries) :
      Holds value entries

section Entries

variable {name : String} {entries : List (Value × Value)}

theorem integerEntry_eq_ok_iff {default n : ℤ} :
    integerEntry name default entries = .ok n ↔ Entry Means default name entries n := by
  unfold integerEntry
  constructor
  · intro read
    split at read
    · next value found => exact .present found (readInteger_eq_ok_iff.mp read)
    · next missing =>
        cases read
        exact .absent missing
  · rintro (missing | ⟨found, means⟩)
    · rw [missing]
    · rw [found]
      exact readInteger_eq_ok_iff.mpr means

theorem optionalEntry_eq_ok_iff {n : Option ℤ} :
    optionalEntry name entries = .ok n ↔ Entry MeansOptional none name entries n := by
  unfold optionalEntry
  constructor
  · intro read
    split at read
    · next missing =>
        cases read
        exact .absent missing
    · next found =>
        cases read
        exact .present found .null
    · next value _ found =>
        cases given : readInteger value with
        | error complaint =>
            rw [given] at read
            contradiction
        | ok n =>
            rw [given] at read
            cases read
            exact .present found (.some (readInteger_eq_ok_iff.mp given))
  · rintro (missing | ⟨found, means⟩)
    · rw [missing]
    · rw [found]
      cases means with
      | null => rfl
      | some means =>
          have given := readInteger_eq_ok_iff.mpr means
          cases means with
          | int | text => simp [given, Except.map]

theorem choiceEntry_eq_ok_iff {default choice : Bool} :
    choiceEntry name default entries = .ok choice ↔ Entry Chooses default name entries choice := by
  unfold choiceEntry
  constructor
  · intro read
    split at read
    · next missing =>
        cases read
        exact .absent missing
    · next choice found =>
        cases read
        exact .present found rfl
    · contradiction
  · rintro (missing | ⟨found, rfl⟩)
    · rw [missing]
    · rw [found]

theorem entriesOf_eq_ok_iff {part : List (Value × Value)} :
    entriesOf name entries = .ok part ↔ Entry Holds [] name entries part := by
  unfold entriesOf
  constructor
  · intro read
    cases found : Value.find? name entries with
    | none =>
        rw [found] at read
        cases read
        exact .absent found
    | some value =>
        rw [found, Option.map_some] at read
        split at read
        · contradiction
        · next content =>
            cases read
            exact .present found (.null (Option.some.inj content))
        · next content =>
            cases read
            exact .present found (.map (Option.some.inj content))
        · contradiction
  · rintro (missing | ⟨found, content | content⟩)
    · rw [missing]
      rfl
    · rw [found, Option.map_some, content]
    · rw [found, Option.map_some, content]

end Entries

/-! ## What a value describes -/

/-- The section on speed gives two positive rates, and a seed if it has one. -/
structure GivesSpeed (entries : List (Value × Value)) (c : Config) : Prop where
  cycles : Entry Means 700 "cycles_per_second" entries c.cyclesPerSecond
  ticks : Entry Means 60 "timer_hz" entries c.timerHz
  cycles_pos : 0 < c.cyclesPerSecond
  ticks_pos : 0 < c.timerHz
  seed : Entry MeansOptional none "seed" entries c.seed

/-- The section on the dialect makes five choices. -/
structure GivesDialect (entries : List (Value × Value)) (d : Dialect) : Prop where
  shiftFromY : Entry Chooses false "shift_uses_vy" entries d.shiftFromY
  advanceIndex : Entry Chooses true "load_store_increments_i" entries d.advanceIndex
  offsetFromX : Entry Chooses false "jump_offset_uses_vx" entries d.offsetFromX
  clearFlag : Entry Chooses true "logic_resets_vf" entries d.clearFlag
  clipSprites : Entry Chooses false "clip_sprites" entries d.clipSprites

/-- The configuration that a value describes: null the one with all defaults, a map the one that
its sections give. -/
inductive Describes (value : Value) : Config → Prop
  | null (content : value.content = .null) : Describes value {}
  | map {entries speed choices : List (Value × Value)} {c : Config}
      (content : value.content = .map entries) (cpu : Entry Holds [] "cpu" entries speed)
      (givesSpeed : GivesSpeed speed c) (quirks : Entry Holds [] "quirks" entries choices)
      (givesDialect : GivesDialect choices c.dialect) : Describes value c

theorem checkPositive_eq_ok_iff {name : String} {rate : ℤ} {done : Unit} :
    checkPositive name rate = .ok done ↔ 0 < rate := by
  rw [checkPositive]
  split <;> simp_all

theorem readSpeed_eq_ok_iff {entries : List (Value × Value)} {c : Config} :
    readSpeed entries {} = .ok c ↔ GivesSpeed entries c ∧ c.dialect = {} := by
  simp only [readSpeed, SaveState.bind_eq_ok_iff, integerEntry_eq_ok_iff,
    optionalEntry_eq_ok_iff, checkPositive_eq_ok_iff]
  constructor
  · rintro ⟨cycles, givesCycles, ticks, givesTicks, -, cycles_pos, -, ticks_pos, seed, givesSeed,
      read⟩
    cases read
    exact ⟨⟨givesCycles, givesTicks, cycles_pos, ticks_pos, givesSeed⟩, rfl⟩
  · rintro ⟨gives, standard⟩
    refine ⟨_, gives.cycles, _, gives.ticks, (), gives.cycles_pos, (), gives.ticks_pos, _,
      gives.seed, ?_⟩
    rw [← standard]
    rfl

theorem readDialect_eq_ok_iff {entries : List (Value × Value)} {d : Dialect} :
    readDialect entries {} = .ok d ↔ GivesDialect entries d := by
  simp only [readDialect, SaveState.bind_eq_ok_iff, choiceEntry_eq_ok_iff]
  constructor
  · rintro ⟨_, shiftFromY, _, advanceIndex, _, offsetFromX, _, clearFlag, _, clipSprites, read⟩
    cases read
    exact ⟨shiftFromY, advanceIndex, offsetFromX, clearFlag, clipSprites⟩
  · intro gives
    exact ⟨_, gives.shiftFromY, _, gives.advanceIndex, _, gives.offsetFromX, _, gives.clearFlag, _,
      gives.clipSprites, rfl⟩

/-- A map is read section by section. -/
theorem ofValue_of_map {value : Value} {entries : List (Value × Value)}
    (content : value.content = .map entries) :
    ofValue value =
      ((entriesOf "cpu" entries >>= fun speed => readSpeed speed {}) >>= fun c =>
        (entriesOf "quirks" entries >>= fun choices => readDialect choices c.dialect) >>=
          fun dialect => .ok { c with dialect := dialect }) := by
  rw [ofValue, content]
  simp only [bind_assoc]
  rfl

theorem ofValue_eq_ok_iff {value : Value} {c : Config} :
    ofValue value = .ok c ↔ Describes value c := by
  constructor
  · intro read
    cases content : value.content with
    | null =>
        rw [ofValue, content] at read
        cases read
        exact .null content
    | map entries =>
        rw [ofValue_of_map content] at read
        obtain ⟨start, settled, read⟩ := SaveState.bind_eq_ok_iff.mp read
        obtain ⟨speed, cpu, settled⟩ := SaveState.bind_eq_ok_iff.mp settled
        obtain ⟨dialect, chosen, read⟩ := SaveState.bind_eq_ok_iff.mp read
        obtain ⟨choices, quirks, chosen⟩ := SaveState.bind_eq_ok_iff.mp chosen
        obtain ⟨gives, standard⟩ := readSpeed_eq_ok_iff.mp settled
        rw [standard, readDialect_eq_ok_iff] at chosen
        cases read
        exact .map content (entriesOf_eq_ok_iff.mp cpu)
          ⟨gives.cycles, gives.ticks, gives.cycles_pos, gives.ticks_pos, gives.seed⟩
          (entriesOf_eq_ok_iff.mp quirks) chosen
    | _ =>
        rw [ofValue, content] at read
        contradiction
  · intro describes
    cases describes with
    | null content => rw [ofValue, content]
    | @map entries speed choices _ content cpu gives quirks chosen =>
        let start : Config := { c with dialect := {} }
        have settled : readSpeed speed {} = .ok start :=
          readSpeed_eq_ok_iff.mpr
            ⟨⟨gives.cycles, gives.ticks, gives.cycles_pos, gives.ticks_pos, gives.seed⟩, rfl⟩
        rw [ofValue_of_map content]
        refine SaveState.bind_eq_ok_iff.mpr ⟨start, ?_, ?_⟩
        · exact SaveState.bind_eq_ok_iff.mpr ⟨speed, entriesOf_eq_ok_iff.mpr cpu, settled⟩
        refine SaveState.bind_eq_ok_iff.mpr ⟨c.dialect, ?_, rfl⟩
        exact SaveState.bind_eq_ok_iff.mpr
          ⟨choices, entriesOf_eq_ok_iff.mpr quirks, readDialect_eq_ok_iff.mpr chosen⟩

theorem Describes.rates_pos {value : Value} {c : Config} (describes : Describes value c) :
    0 < c.cyclesPerSecond ∧ 0 < c.timerHz := by
  cases describes with
  | null => decide
  | map _ _ gives => exact ⟨gives.cycles_pos, gives.ticks_pos⟩

/-- A runner is built from every configuration with positive rates. -/
theorem exists_runner {c : Config} (rates_pos : 0 < c.cyclesPerSecond ∧ 0 < c.timerHz)
    (m : Machine) : ∃ r, Runner.new m c.cyclesPerSecond c.timerHz = .ok r :=
  ⟨_, Runner.new_eq_ok_iff.mpr ⟨_, dif_pos rates_pos, rfl⟩⟩

/-! ## Refusals -/

namespace Complaint

/-- The value that a complaint shows. -/
def subject? : Complaint → Option Value
  | notInteger value | notTruth _ value => some value
  | root _ | part _ | notPositive _ _ => none

/-- There is too little room to show the value that a complaint shows. -/
def TooDeep (room : Value.Room) (complaint : Complaint) : Prop :=
  ∃ value, complaint.subject? = some value ∧ value.display room = .error .tooDeep

theorem map_eq_error_iff {ε α β : Type} {step : Except ε α} {f : α → β} {cause : ε} :
    step.map f = .error cause ↔ step = .error cause := by
  cases step <;> simp [Except.map]

variable {room : Value.Room}

theorem plain_eq_tooDeep_iff {value : Value} :
    value.plain room = .error .tooDeep ↔ value.display room = .error .tooDeep := by
  unfold Value.plain
  split
  · next s => simp [Value.display_text]
  · next m => simp [Value.display_moment]
  · exact map_eq_error_iff

theorem displayInteger_ne_tooDeep (n : ℤ) : Value.displayInteger n ≠ .error .tooDeep := by
  unfold Value.displayInteger
  generalize Integer.text? n = digits
  cases digits with
  | none | some => simp

/-- The name of a complaint whose message is built around something that is to be shown. -/
theorem label_cases_of_map {α : Type} {complaint : Complaint} {part : Except Unshown α}
    {frame : α → Text} (built : complaint.shown room = part.map frame) :
    complaint.label room = "ValueError" ∧ part ≠ .error .tooDeep ∨
      complaint.label room = "RecursionError" ∧ part = .error .tooDeep := by
  rw [label, built]
  rcases part with (_ | _) | _
  · exact .inl ⟨rfl, by simp⟩
  · exact .inr ⟨rfl, rfl⟩
  · exact .inl ⟨rfl, by simp⟩

/-- A complaint goes under one name, unless there is too little room to show it. -/
theorem label_cases (room : Value.Room) (complaint : Complaint) :
    complaint.label room = "ValueError" ∧ ¬ complaint.TooDeep room ∨
      complaint.label room = "RecursionError" ∧ complaint.TooDeep room := by
  cases complaint with
  | root | part => exact .inl ⟨rfl, fun ⟨_, shows, _⟩ => nomatch shows⟩
  | notPositive name rate =>
      have built : (notPositive name rate).shown room =
          (Value.displayInteger rate).map fun digits =>
            Text.ofString (name ++ " must be positive: " ++ digits) := by
        rw [shown]
        generalize Value.displayInteger rate = spelled
        cases spelled <;> rfl
      rcases label_cases_of_map built with ⟨name, -⟩ | ⟨-, tooDeep⟩
      · exact .inl ⟨name, fun ⟨_, shows, _⟩ => nomatch shows⟩
      · exact absurd tooDeep (displayInteger_ne_tooDeep rate)
  | notInteger value =>
      have built : (notInteger value).shown room =
          (value.plain room).map (Text.ofString "Invalid integer format: " ++ ·) := by
        rw [shown]
        cases value.plain room <;> rfl
      have deep : (notInteger value).TooDeep room ↔ value.plain room = .error .tooDeep := by
        simp [TooDeep, subject?, plain_eq_tooDeep_iff]
      rw [deep]
      exact label_cases_of_map built
  | notTruth name value =>
      have built : (notTruth name value).shown room =
          (value.display room).map fun spelled =>
            Text.ofString ("Quirk '" ++ name ++ "' must be true or false: " ++ spelled) := by
        rw [shown]
        cases value.display room <;> rfl
      have deep : (notTruth name value).TooDeep room ↔ value.display room = .error .tooDeep := by
        simp [TooDeep, subject?]
      rw [deep]
      exact label_cases_of_map built

end Complaint

section Subjects

variable {name : String} {entries : List (Value × Value)} {complaint : Complaint}

/-- A complaint shows one of some entries, if it shows a value at all. -/
def Concerns (complaint : Complaint) (entries : List (Value × Value)) : Prop :=
  ∀ value, complaint.subject? = some value → ∃ name, Value.find? name entries = some value

theorem readInteger_error {value : Value} (failed : readInteger value = .error complaint) :
    complaint = .notInteger value := by
  unfold readInteger at failed
  split at failed
  · contradiction
  · split at failed
    · contradiction
    · cases failed
      rfl
  · cases failed
    rfl

theorem integerEntry_error {default : ℤ}
    (failed : integerEntry name default entries = .error complaint) :
    Concerns complaint entries := by
  unfold integerEntry at failed
  split at failed
  · next value found =>
      rw [readInteger_error failed]
      rintro _ ⟨⟩
      exact ⟨name, found⟩
  · contradiction

theorem optionalEntry_error (failed : optionalEntry name entries = .error complaint) :
    Concerns complaint entries := by
  unfold optionalEntry at failed
  split at failed
  · contradiction
  · contradiction
  · next value _ found =>
      cases read : readInteger value with
      | ok n =>
          rw [read] at failed
          contradiction
      | error cause =>
          rw [read] at failed
          cases failed
          rw [readInteger_error read]
          rintro _ ⟨⟩
          exact ⟨name, found⟩

theorem choiceEntry_error {default : Bool}
    (failed : choiceEntry name default entries = .error complaint) :
    Concerns complaint entries := by
  unfold choiceEntry at failed
  split at failed
  · contradiction
  · contradiction
  · next value _ found =>
      cases failed
      rintro _ ⟨⟩
      exact ⟨name, found⟩

theorem checkPositive_error {rate : ℤ} (failed : checkPositive name rate = .error complaint) :
    Concerns complaint entries := by
  unfold checkPositive at failed
  split at failed
  · contradiction
  · cases failed
    rintro _ ⟨⟩

theorem readSpeed_error {start : Config} (failed : readSpeed entries start = .error complaint) :
    Concerns complaint entries := by
  simp only [readSpeed, SaveState.bind_eq_error_iff] at failed
  rcases failed with cycles | ⟨_, -, ticks | ⟨_, -, cyclesChecked | ⟨_, -, ticksChecked |
    ⟨_, -, seed | ⟨_, -, impossible⟩⟩⟩⟩⟩
  · exact integerEntry_error cycles
  · exact integerEntry_error ticks
  · exact checkPositive_error cyclesChecked
  · exact checkPositive_error ticksChecked
  · exact optionalEntry_error seed
  · contradiction

theorem readDialect_error {start : Dialect}
    (failed : readDialect entries start = .error complaint) : Concerns complaint entries := by
  simp only [readDialect, SaveState.bind_eq_error_iff] at failed
  rcases failed with failed | ⟨_, -, failed | ⟨_, -, failed | ⟨_, -, failed |
    ⟨_, -, failed | ⟨_, -, impossible⟩⟩⟩⟩⟩
  · exact choiceEntry_error failed
  · exact choiceEntry_error failed
  · exact choiceEntry_error failed
  · exact choiceEntry_error failed
  · exact choiceEntry_error failed
  · contradiction

theorem entriesOf_error (failed : entriesOf name entries = .error complaint) :
    complaint.subject? = none := by
  unfold entriesOf at failed
  split at failed
  · contradiction
  · contradiction
  · contradiction
  · cases failed
    rfl

/-- A complaint about a value shows an entry of one of its sections, if it shows a value at all. -/
theorem ofValue_error {value wrong : Value} (failed : ofValue value = .error complaint)
    (shows : complaint.subject? = some wrong) :
    ∃ entries part name, value.content = .map entries ∧
      (Entry Holds [] "cpu" entries part ∨ Entry Holds [] "quirks" entries part) ∧
      Value.find? name part = some wrong := by
  cases content : value.content with
  | null =>
      rw [ofValue, content] at failed
      contradiction
  | map entries =>
      rw [ofValue_of_map content, SaveState.bind_eq_error_iff] at failed
      rcases failed with speed | ⟨c, -, failed⟩
      · rcases SaveState.bind_eq_error_iff.mp speed with failed | ⟨part, cpu, failed⟩
        · rw [entriesOf_error failed] at shows
          contradiction
        · obtain ⟨name, found⟩ := readSpeed_error failed wrong shows
          exact ⟨entries, part, name, rfl, .inl (entriesOf_eq_ok_iff.mp cpu), found⟩
      rcases SaveState.bind_eq_error_iff.mp failed with choices | ⟨_, -, impossible⟩
      · rcases SaveState.bind_eq_error_iff.mp choices with failed | ⟨part, quirks, failed⟩
        · rw [entriesOf_error failed] at shows
          contradiction
        · obtain ⟨name, found⟩ := readDialect_error failed wrong shows
          exact ⟨entries, part, name, rfl, .inr (entriesOf_eq_ok_iff.mp quirks), found⟩
      · contradiction
  | _ =>
      rw [ofValue, content] at failed
      cases failed
      contradiction

end Subjects

/-! ## Changes that nobody notices -/

/-- One change of a map that leaves the known keys and their values: an unknown key is entered
somewhere, or the entries are put into another order.  No known key stands twice in a map. -/
inductive Revised (names : List String) : List (Value × Value) → List (Value × Value) → Prop
  | entered {before after : List (Value × Value)} {key value : Value}
      (unknown : ∀ name ∈ names, key.isText name = false) :
      Revised names (before ++ after) (before ++ (key, value) :: after)
  | moved {entries others : List (Value × Value)} (perm : entries.Perm others)
      (once : ∀ name ∈ names, (entries.countP fun entry => entry.1.isText name) ≤ 1) :
      Revised names entries others

/-- The sections with their known keys. -/
def parts : List (String × List String) :=
  [("cpu", speedNames), ("quirks", choiceNames)]

/-- One change of a configuration that is not noticed: to the whole map, or inside a section. -/
inductive Changed : Value → Value → Prop
  | whole {value other : Value} {entries others : List (Value × Value)}
      (content : value.content = .map entries) (otherContent : other.content = .map others)
      (revised : Revised sectionNames entries others) : Changed value other
  | inside {value other key part otherPart : Value}
      {before after entries others : List (Value × Value)} {named : String × List String}
      (content : value.content = .map (before ++ (key, part) :: after))
      (otherContent : other.content = .map (before ++ (key, otherPart) :: after))
      (isPart : named ∈ parts) (isKey : key.isText named.1 = true)
      (partContent : part.content = .map entries)
      (otherPartContent : otherPart.content = .map others)
      (revised : Revised named.2 entries others) : Changed value other

/-- Two values differ at most in unknown keys, of the map or of its sections, and in the order of
the keys: some such changes, made or taken back, lead from one to the other. -/
def Alike : Value → Value → Prop :=
  Relation.EqvGen Changed

/-- Two maps have the same values under some keys. -/
def Agree (names : List String) (entries others : List (Value × Value)) : Prop :=
  ∀ name ∈ names, Value.find? name entries = Value.find? name others

/-- In a list with one match at most the first match is the same in every order. -/
theorem find?_eq_of_perm {α : Type} {p : α → Bool} {as bs : List α} (perm : as.Perm bs)
    (once : as.countP p ≤ 1) : as.find? p = bs.find? p := by
  have filtered := perm.filter p
  rw [List.countP_eq_length_filter] at once
  rw [← List.head?_filter, ← List.head?_filter]
  match matched : as.filter p, once with
  | [], _ =>
      rw [matched] at filtered
      rw [filtered.nil_eq]
  | [a], _ =>
      rw [matched] at filtered
      rw [List.singleton_perm.mp filtered]

theorem Revised.agree {names : List String} {entries others : List (Value × Value)}
    (revised : Revised names entries others) : Agree names entries others := by
  intro name known
  cases revised with
  | entered unknown =>
      rw [Value.find?, Value.find?, List.find?_append, List.find?_append, List.find?_cons,
        unknown name known]
  | moved perm once => rw [Value.find?, Value.find?, find?_eq_of_perm perm (once name known)]

/-- Two sections that are read alike: they are the same, or have the same values under the known
keys. -/
def Similar (names : List String) (a b : Except Complaint (List (Value × Value))) : Prop :=
  a = b ∨ ∃ entries others, a = .ok entries ∧ b = .ok others ∧ Agree names entries others

theorem Similar.bind_eq {names : List String} {α : Type}
    {a b : Except Complaint (List (Value × Value))}
    {next : List (Value × Value) → Except Complaint α} (similar : Similar names a b)
    (noticed : ∀ entries others, Agree names entries others → next entries = next others) :
    (a >>= next) = (b >>= next) := by
  rcases similar with rfl | ⟨entries, others, rfl, rfl, agree⟩
  · rfl
  · exact noticed entries others agree

theorem readSpeed_congr (start : Config) (entries others : List (Value × Value))
    (agree : Agree speedNames entries others) :
    readSpeed entries start = readSpeed others start := by
  simp only [readSpeed, integerEntry, optionalEntry, agree "cycles_per_second" (by decide),
    agree "timer_hz" (by decide), agree "seed" (by decide)]

theorem readDialect_congr (start : Dialect) (entries others : List (Value × Value))
    (agree : Agree choiceNames entries others) :
    readDialect entries start = readDialect others start := by
  simp only [readDialect, choiceEntry, agree "shift_uses_vy" (by decide),
    agree "load_store_increments_i" (by decide), agree "jump_offset_uses_vx" (by decide),
    agree "logic_resets_vf" (by decide), agree "clip_sprites" (by decide)]

theorem ofValue_congr {value other : Value} {entries others : List (Value × Value)}
    (content : value.content = .map entries) (otherContent : other.content = .map others)
    (similar : ∀ named ∈ parts,
      Similar named.2 (entriesOf named.1 entries) (entriesOf named.1 others)) :
    ofValue value = ofValue other := by
  have cpu := similar ("cpu", speedNames) (by simp [parts])
  have quirks := similar ("quirks", choiceNames) (by simp [parts])
  rw [ofValue_of_map content, ofValue_of_map otherContent, cpu.bind_eq (readSpeed_congr {})]
  congr 1
  funext c
  rw [quirks.bind_eq (readDialect_congr c.dialect)]

/-- The keys of the two sections are different texts. -/
theorem eq_of_isText_of_mem_parts {named other : String × List String} {key : Value}
    (isPart : named ∈ parts) (isOther : other ∈ parts) (isKey : key.isText named.1 = true)
    (isOtherKey : key.isText other.1 = true) : named = other := by
  have distinct : ∀ a ∈ parts, ∀ b ∈ parts, a.1 = b.1 → a = b := by decide
  exact distinct named isPart other isOther (SaveState.isText_unique isKey isOtherKey)

theorem Changed.ofValue_eq {value other : Value} (changed : Changed value other) :
    ofValue value = ofValue other := by
  cases changed with
  | whole content otherContent revised =>
      refine ofValue_congr content otherContent fun named isPart => .inl ?_
      have known : named.1 ∈ sectionNames := by
        have all : ∀ a ∈ parts, a.1 ∈ sectionNames := by decide
        exact all named isPart
      rw [entriesOf, entriesOf, revised.agree named.1 known]
  | @inside key part otherPart before after entries others named content otherContent isPart
      isKey partContent otherPartContent revised =>
      refine ofValue_congr content otherContent fun asked isAsked => ?_
      unfold entriesOf Value.find?
      rw [List.find?_append, List.find?_append, List.find?_cons, List.find?_cons]
      cases before.find? fun entry => entry.1.isText asked.1 with
      | some entry => exact .inl rfl
      | none =>
          cases isAskedKey : key.isText asked.1 with
          | false => exact .inl rfl
          | true =>
              obtain rfl := eq_of_isText_of_mem_parts isPart isAsked isKey isAskedKey
              refine .inr ⟨entries, others, ?_, ?_, revised.agree⟩
              · simp [partContent]
              · simp [otherPartContent]

theorem Alike.ofValue_eq {value other : Value} (alike : Alike value other) :
    ofValue value = ofValue other := by
  induction alike with
  | rel _ _ changed => exact changed.ofValue_eq
  | refl => rfl
  | symm _ _ _ ih => exact ih.symm
  | trans _ _ _ _ _ first second => exact first.trans second

/-! ## The verdict -/

/-- What becomes of a value that is read as a configuration.

It is accepted exactly if it describes a configuration, and a runner can be built from that for any
machine.  It is refused under one name, unless there is too little room to show the value that is
complained about; that value is an entry of one of the sections.  The outcome is the same for all
values that differ only in unknown keys and in the order of the keys. -/
theorem ofValue_verdict (value : Value) :
    (∀ c, ofValue value = .ok c ↔ Describes value c) ∧
    (∀ c, ofValue value = .ok c → 1 ≤ c.cyclesPerSecond ∧ 1 ≤ c.timerHz ∧
      ∀ m : Machine, ∃ r, Runner.new m c.cyclesPerSecond c.timerHz = .ok r) ∧
    (∀ complaint, ofValue value = .error complaint → ∀ room,
      complaint.label room = "ValueError" ∧ ¬ complaint.TooDeep room ∨
        complaint.label room = "RecursionError" ∧ complaint.TooDeep room) ∧
    (∀ complaint wrong, ofValue value = .error complaint → complaint.subject? = some wrong →
      ∃ entries part name, value.content = .map entries ∧
        (Entry Holds [] "cpu" entries part ∨ Entry Holds [] "quirks" entries part) ∧
        Value.find? name part = some wrong) ∧
    ∀ other, Alike value other → ofValue value = ofValue other := by
  refine ⟨fun c => ofValue_eq_ok_iff, fun c read => ?_,
    fun complaint _ room => complaint.label_cases room, fun complaint wrong => ofValue_error,
    fun other alike => alike.ofValue_eq⟩
  have rates_pos := (ofValue_eq_ok_iff.mp read).rates_pos
  exact ⟨rates_pos.1, rates_pos.2, exists_runner rates_pos⟩

/-- An empty list inside so many others. -/
def nested : ℕ → Value
  | 0 => .list []
  | n + 1 => .list [nested n]

theorem displayIn_nested_eq_error_iff {depth n : ℕ} (knots : List (ℕ × String)) :
    (nested n).displayIn knots depth = .error .tooDeep ↔ depth ≤ n := by
  induction n generalizing depth with
  | zero =>
      cases depth with
      | zero => simp [Value.displayIn]
      | succ depth => simp [nested, Value.displayIn, Value.displayItems, Except.map]
  | succ n ih =>
      cases depth with
      | zero => simp [Value.displayIn]
      | succ depth =>
          rw [nested, Value.displayIn, Complaint.map_eq_error_iff, Value.displayItems,
            Nat.succ_le_succ_iff, ← ih]
          cases (nested n).displayIn knots depth <;> simp [Value.displayItems, bind, Except.bind,
            pure, Except.pure]

/-- A configuration that has only a seed. -/
def seeded (seed : Value) : Value :=
  .map [(.text "cpu", .map [(.text "seed", seed)])]

/-- An empty list inside others as a seed is refused under the common name only if there is room
to show it, and a note beside the section on speed is not noticed. -/
theorem ofValue_verdict_nested :
    (∀ (room : Value.Room) (n : ℕ), ∃ complaint, ofValue (seeded (nested n)) = .error complaint ∧
        complaint.label room = if room.levels ≤ n then "RecursionError" else "ValueError") ∧
      ofValue (.map [(.text "note", .null), (.text "cpu", .map [(.text "seed", .int 7)])]) =
        .ok { seed := some 7 } := by
  constructor
  · intro room n
    have refused : ofValue (seeded (nested n)) = .error (.notInteger (nested n)) := by
      cases n <;> rfl
    have deep : (Complaint.notInteger (nested n)).TooDeep room ↔ room.levels ≤ n := by
      simp [Complaint.TooDeep, Complaint.subject?, Value.display, displayIn_nested_eq_error_iff]
    refine ⟨_, refused, ?_⟩
    rcases (ofValue_verdict _).2.2.1 _ refused room with ⟨name, shown⟩ | ⟨name, tooDeep⟩
    · rw [name, if_neg (deep.not.mp shown)]
    · rw [name, if_pos (deep.mp tooDeep)]
  · have unknown : ∀ name ∈ sectionNames, (Value.text "note").isText name = false := by decide
    have alike : Alike (seeded (.int 7))
        (.map [(.text "note", .null), (.text "cpu", .map [(.text "seed", .int 7)])]) :=
      .rel _ _ (.whole rfl rfl (@Revised.entered sectionNames [] _ _ _ unknown))
    exact ((ofValue_verdict _).2.2.2.2 _ alike).symm

end ChipEight.Config
