import Handheld.Proofs.Json.Ascii
import Handheld.Proofs.Json.Documents
import Handheld.Settings.Basic

/-! Settings that are written down and read again.
Their document is read as the settings that it was written from, and so is its text, whatever
characters the name and the trace path are made of and however large the numbers are.
-/

namespace Handheld

namespace Settings

variable {settings : Settings} {members : List (Text × Json)} {limits : Json.Limits}

/-- What an object says under a name, or what is usual. -/
def said (members : List (Text × Json)) (key : Text) (usual : Json) : Json :=
  (members.lookup key).getD usual

/-- The settings are what the members of an object say, or usual where they say nothing. -/
structure ReadFrom (members : List (Text × Json)) (settings : Settings) : Prop where
  name : settings.name = said members "name" (.string ("DMG" : String))
  cpuFrequency : (said members "cpu_frequency" (.int usualFrequency)).toInt
    = .ok settings.cpuFrequency
  cyclesPerFrame : (said members "cycles_per_frame" (.int Handheld.cyclesPerFrame)).toInt
    = .ok settings.cyclesPerFrame
  accessLogLimit : (said members "access_log_limit" (.int 0)).toInt = .ok settings.accessLogLimit
  serialEcho : settings.serialEcho = (said members "serial_echo" (.bool false)).isOn
  traceEnabled : settings.traceEnabled = (said members "trace_enabled" (.bool false)).isOn
  tracePath : settings.tracePath = said members "trace_path" .null

theorem bind_misfit_eq_ok {reading : Except Misfit Int} {build : Int → Except Error Settings}
    : (reading.mapError .misfit).bind build = .ok settings
        ↔ ∃ value, reading = .ok value ∧ build value = .ok settings := by
  cases reading with
  | error misfit => simp [Except.mapError, Except.bind]
  | ok value => simp [Except.mapError, Except.bind]

/-- Of an object just those settings are read that it says, if the two limits make sense. -/
theorem ofJson_object : ofJson (.object members) = .ok settings ↔ ReadFrom members settings := by
  let number (key : Text) (usual : Int) : Except Error Int :=
    (said members key (.int usual)).toInt.mapError .misfit
  have steps : ofJson (.object members)
      = (number "cpu_frequency" usualFrequency).bind fun frequency =>
        (number "cycles_per_frame" Handheld.cyclesPerFrame).bind fun cycles =>
        (number "access_log_limit" 0).bind fun limit =>
          if cycles_pos : 0 < cycles then
            if limit_nonneg : 0 ≤ limit then
              .ok {
                name := said members "name" (.string ("DMG" : String))
                cpuFrequency := frequency
                cyclesPerFrame := cycles
                accessLogLimit := limit
                serialEcho := (said members "serial_echo" (.bool false)).isOn
                traceEnabled := (said members "trace_enabled" (.bool false)).isOn
                tracePath := said members "trace_path" .null
                cyclesPerFrame_pos := cycles_pos
                accessLogLimit_nonneg := limit_nonneg }
            else .error (.settings .accessLogLimit)
          else .error (.settings .cyclesPerFrame) := rfl
  rw [steps]
  simp only [number, bind_misfit_eq_ok]
  constructor
  · rintro ⟨frequency, frequency_eq, cycles, cycles_eq, limit, limit_eq, built⟩
    split at built
    case isFalse => cases built
    case isTrue =>
      split at built
      case isFalse => cases built
      case isTrue =>
        cases built
        exact ⟨rfl, frequency_eq, cycles_eq, limit_eq, rfl, rfl, rfl⟩
  · intro read
    refine ⟨_, read.cpuFrequency, _, read.cyclesPerFrame, _, read.accessLogLimit, ?_⟩
    rw [dif_pos settings.cyclesPerFrame_pos, dif_pos settings.accessLogLimit_nonneg]
    simp only [← read.name, ← read.serialEcho, ← read.traceEnabled, ← read.tracePath]

theorem readFrom_members (settings : Settings) : ReadFrom settings.sheet.members settings := by
  constructor <;> rfl

theorem ofJson_sheet (settings : Settings) : ofJson settings.sheet.toJson = .ok settings :=
  ofJson_object.mpr (readFrom_members settings)

/-- No name occurs twice on a sheet. -/
theorem nodup_members (sheet : Sheet) : (sheet.members.map Prod.fst).Nodup := by
  have names : sheet.members.map Prod.fst = ({} : Sheet).members.map Prod.fst := rfl
  rw [names]
  decide

/-- A reader puts up with the document of some settings and the numbers in it. -/
structure Admitted (limits : Json.Limits) (settings : Settings) : Prop where
  nested : limits.depth ≠ some 0
  cpuFrequency : limits.tooLong settings.cpuFrequency = false
  cyclesPerFrame : limits.tooLong settings.cyclesPerFrame = false
  accessLogLimit : limits.tooLong settings.accessLogLimit = false

/-- The standard sets no limits, so under it any settings are read. -/
theorem admitted_standard (settings : Settings) : Admitted .standard settings where
  nested := nofun
  cpuFrequency := rfl
  cyclesPerFrame := rfl
  accessLogLimit := rfl

/-- The members of a sheet are read as they were written, apart from its two texts. -/
theorem rereadMembers_sheet {name path : Json} (admitted : Admitted limits settings)
    (read : Json.reread limits 1 settings.name = .ok name)
    (read' : Json.reread limits 1 settings.tracePath = .ok path)
    : Json.rereadMembers limits 1 settings.sheet.members
        = .ok ({ settings with name, tracePath := path } : Settings).sheet.members := by
  simp only [sheet, Sheet.members, Json.rereadMembers_cons, read, read', Text.joined_ofString,
    Json.int, Json.reread, admitted.cpuFrequency, admitted.cyclesPerFrame, admitted.accessLogLimit]
  rfl

theorem load_of_parse {text : Text} {document : Json}
    (parsed : Json.parse text limits = .ok document)
    : load text limits = ofJson document := by
  rw [load, parsed]
  rfl

/-- The text of some settings is read as the settings, apart from its two texts. -/
theorem load_text {name path : Json} (admitted : Admitted limits settings)
    (exact : settings.sheet.toJson.isExact = true)
    (read : Json.reread limits 1 settings.name = .ok name)
    (read' : Json.reread limits 1 settings.tracePath = .ok path)
    : load settings.sheet.text limits = .ok { settings with name, tracePath := path } := by
  let loaded : Settings := { settings with name, tracePath := path }
  have parsed : Json.parse settings.sheet.text limits = .ok loaded.sheet.toJson := by
    rw [Sheet.text, Json.parse_indented limits exact, Sheet.toJson, Json.reread,
      if_neg admitted.nested, rereadMembers_sheet admitted read read', Except.map,
      Json.dedupe_eq_self (nodup_members loaded.sheet), Sheet.toJson]
  rw [load_of_parse parsed, ofJson_sheet]

-----------------------------------------------------------------------------------------
-- Sheets whose fields are what they are declared to be
-----------------------------------------------------------------------------------------

/-- The fields of a sheet hold what they are declared to hold: a text, whole numbers, switches, and a
text or nothing. -/
structure Sheet.Declared (sheet : Sheet) (name : Text) (path : Option Text) : Prop where
  name : sheet.name = .string name
  cpuFrequency : ∃ value, sheet.cpuFrequency = .int value
  cyclesPerFrame : ∃ value, sheet.cyclesPerFrame = .int value
  accessLogLimit : ∃ value, sheet.accessLogLimit = .int value
  serialEcho : ∃ value, sheet.serialEcho = .bool value
  traceEnabled : ∃ value, sheet.traceEnabled = .bool value
  tracePath : sheet.tracePath = (path.map .string).getD .null

/-- Of whole numbers a sheet refuses a frame without cycles and a log of negative length. -/
theorem Sheet.check_iff {sheet : Sheet} {cycles limit : Int}
    (cycles_eq : sheet.cyclesPerFrame = .int cycles)
    (limit_eq : sheet.accessLogLimit = .int limit)
    : sheet.check = .ok () ↔ 0 < cycles ∧ 0 ≤ limit := by
  have judged : sheet.check
      = if decide (cycles < 0) || !decide (cycles ≠ 0) then .error (.settings .cyclesPerFrame)
        else if decide (limit < 0) then .error (.settings .accessLogLimit)
        else .ok () := by
    rw [check, cycles_eq, limit_eq]
    rfl
  rw [judged]
  simp only [Bool.or_eq_true, Bool.not_eq_true', decide_eq_true_eq, decide_eq_false_iff_not, not_not]
  split
  case isTrue empty => exact iff_of_false (fun same => by cases same) (by omega)
  case isFalse filled =>
    split
    case isTrue negative => exact iff_of_false (fun same => by cases same) (by omega)
    case isFalse natural => exact iff_of_true rfl (by omega)

/-- Sheets that are accepted are those of settings. -/
theorem Sheet.Declared.exists_settings {sheet : Sheet} {name : Text} {path : Option Text}
    (declared : sheet.Declared name path) (accepted : sheet.check = .ok ())
    : ∃ settings : Settings, settings.sheet = sheet := by
  obtain ⟨frequency, frequency_eq⟩ := declared.cpuFrequency
  obtain ⟨cycles, cycles_eq⟩ := declared.cyclesPerFrame
  obtain ⟨limit, limit_eq⟩ := declared.accessLogLimit
  obtain ⟨echo, echo_eq⟩ := declared.serialEcho
  obtain ⟨enabled, enabled_eq⟩ := declared.traceEnabled
  obtain ⟨cycles_pos, limit_nonneg⟩ := (check_iff cycles_eq limit_eq).mp accepted
  refine ⟨
    { name := sheet.name
      cpuFrequency := frequency
      cyclesPerFrame := cycles
      accessLogLimit := limit
      serialEcho := echo
      traceEnabled := enabled
      tracePath := sheet.tracePath
      cyclesPerFrame_pos := cycles_pos
      accessLogLimit_nonneg := limit_nonneg }, ?_⟩
  simp only [Settings.sheet, ← frequency_eq, ← cycles_eq, ← limit_eq, ← echo_eq, ← enabled_eq]

variable {name : Text} {path : Option Text}

theorem Sheet.Declared.isExact (declared : settings.sheet.Declared name path)
    : settings.sheet.toJson.isExact = true := by
  have name_eq : settings.name = .string name := declared.name
  have path_eq : settings.tracePath = (path.map .string).getD .null := declared.tracePath
  have exact : settings.tracePath.isExact = true := by
    rw [path_eq]
    cases path <;> rfl
  simp [sheet, Sheet.toJson, Sheet.members, Json.isExact, Json.haveExact, Json.int, name_eq, exact]

/-- The settings with other texts, in which the halves of characters have been joined. -/
def retold (settings : Settings) (name : Text) (path : Option Text) : Settings :=
  { settings with
    name := .string name.joined
    tracePath := ((path.map Text.joined).map .string).getD .null }

/-- The text of a sheet is read as the settings on it, with their texts joined. -/
theorem load_declared (declared : settings.sheet.Declared name path)
    (admitted : Admitted limits settings)
    : load settings.sheet.text limits = .ok (settings.retold name path) := by
  have name_eq : settings.name = .string name := declared.name
  have path_eq : settings.tracePath = (path.map .string).getD .null := declared.tracePath
  refine load_text admitted declared.isExact ?_ ?_
  · rw [name_eq, Json.reread]
  · rw [path_eq]
    cases path <;> rfl

/-- Nothing is lost just if no text holds the two halves of a character next to each other. -/
theorem sheet_retold_iff (declared : settings.sheet.Declared name path)
    : (settings.retold name path).sheet = settings.sheet
        ↔ name.Whole ∧ ∀ text ∈ path, text.Whole := by
  have texts : (settings.retold name path).sheet = settings.sheet
      ↔ Json.string name.joined = .string name
        ∧ ((path.map Text.joined).map .string).getD .null = (path.map Json.string).getD .null := by
    rw [← declared.name, ← declared.tracePath]
    constructor
    · intro same
      exact ⟨congrArg Sheet.name same, congrArg Sheet.tracePath same⟩
    · rintro ⟨same, same'⟩
      rw [retold, same, same']
      rfl
  rw [texts, Json.string.injEq, Text.joined_eq_iff]
  cases path with
  | none => simp
  | some text => simp [Text.joined_eq_iff]

/-- Settings that are written down are read again as they were. -/
theorem load_sheet_text
    -- Texts of characters and numbers of any size come back under the standard, and under the usual
    -- limits as far as these admit the numbers.
    : (∀ (sheet : Sheet) (name : String) (path : Option String),
        sheet.Declared name (path.map .ofString) → sheet.check = .ok () →
          ∃ settings : Settings, settings.sheet = sheet
            ∧ load sheet.text .standard = .ok settings
            ∧ (Admitted {} settings → load sheet.text = .ok settings))
      -- In texts of any code points only neighbouring halves of characters are changed.
      ∧ (∀ (sheet : Sheet) (name : Text) (path : Option Text),
          sheet.Declared name path → sheet.check = .ok () →
            ∃ settings : Settings, load sheet.text .standard = .ok settings
              ∧ (settings.sheet = sheet ↔ name.Whole ∧ ∀ text ∈ path, text.Whole)
              ∧ ∀ c ∈ sheet.text.toList, c = '\n' ∨ 0x20 ≤ c.toNat ∧ c.toNat < 0x7F)
      -- Whatever is read from an object makes sense and is read again from its own document.
      ∧ ∀ members : List (Text × Json),
          (∃ error, ofJson (.object members) = .error error)
          ∨ ∃ settings, ofJson (.object members) = .ok settings
            ∧ ReadFrom members settings
            ∧ 0 < settings.cyclesPerFrame
            ∧ 0 ≤ settings.accessLogLimit
            ∧ ofJson settings.sheet.toJson = .ok settings := by
  refine ⟨?_, ?_, ?_⟩
  · intro sheet name path declared accepted
    obtain ⟨settings, rfl⟩ := declared.exists_settings accepted
    have whole : (name : Text).Whole ∧ ∀ text ∈ path.map Text.ofString, text.Whole := by
      refine ⟨Text.whole_ofString name, ?_⟩
      simp [Text.whole_ofString]
    refine ⟨_, (sheet_retold_iff declared).mpr whole,
      load_declared declared (admitted_standard settings), fun admitted => ?_⟩
    obtain ⟨nested, frequency, cycles, limit⟩ := admitted
    exact load_declared declared ⟨nested, frequency, cycles, limit⟩
  · intro sheet name path declared accepted
    obtain ⟨settings, rfl⟩ := declared.exists_settings accepted
    refine ⟨_, load_declared declared (admitted_standard settings), sheet_retold_iff declared, ?_⟩
    intro c inside
    have plain := List.all_eq_true.mp (Json.plain_indented _ declared.isExact 0) c inside
    simpa [Json.isPlain] using plain
  · intro members
    cases read : ofJson (.object members) with
    | error error => exact .inl ⟨error, rfl⟩
    | ok settings =>
        exact .inr ⟨settings, rfl, ofJson_object.mp read, settings.cyclesPerFrame_pos,
          settings.accessLogLimit_nonneg, ofJson_sheet settings⟩

/-- Accents, an emoji, a line break, a quote and a control character come back, and so do numbers of
more than sixty-four bits.
-/
theorem load_sheet_text_exotic
    : let sheet : Sheet :=
        { name := .string ("Zoë 😀\n\x22\x01" : String)
          cpuFrequency := .int (-100000000000000000000)
          cyclesPerFrame := .int 10000000000000000000000000
          tracePath := .string ("traces\\größe.log" : String) }
      ∃ settings : Settings, settings.sheet = sheet
        ∧ load sheet.text .standard = .ok settings
        ∧ load sheet.text = .ok settings := by
  intro sheet
  have declared : sheet.Declared ("Zoë 😀\n\x22\x01" : String)
      (some ("traces\\größe.log" : String)) :=
    ⟨rfl, ⟨_, rfl⟩, ⟨_, rfl⟩, ⟨_, rfl⟩, ⟨_, rfl⟩, ⟨_, rfl⟩, rfl⟩
  have accepted : sheet.check = .ok () := (Sheet.check_iff rfl rfl).mpr (by decide)
  obtain ⟨settings, same, standard, usual⟩ := load_sheet_text.1 sheet "Zoë 😀\n\x22\x01"
    (some "traces\\größe.log") declared accepted
  have frequency : settings.cpuFrequency = -100000000000000000000 :=
    Number.int.inj (Json.number.inj (congrArg Sheet.cpuFrequency same))
  have cycles : settings.cyclesPerFrame = 10000000000000000000000000 :=
    Number.int.inj (Json.number.inj (congrArg Sheet.cyclesPerFrame same))
  have limit : settings.accessLogLimit = 0 :=
    Number.int.inj (Json.number.inj (congrArg Sheet.accessLogLimit same))
  refine ⟨settings, same, standard, usual ⟨by decide, ?_, ?_, ?_⟩⟩
  · rw [frequency]
    decide
  · rw [cycles]
    decide
  · rw [limit]
    decide

end Settings

end Handheld
