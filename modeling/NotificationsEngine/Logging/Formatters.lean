import NotificationsEngine.Library.JsonRecord
import NotificationsEngine.Python.Text

/-!
# Log lines

`app/core/logging.py`: records with their reserved fields, the filter that puts
the request id on them, both formatters, and what the handler writes.  A line
in production is one JSON object, whatever the texts in it are, and gives all
its fields back.
-/

namespace NotificationsEngine

open JsonRecord (Line Object)

/-! ## Records -/

inductive LogLevel where
  | debug
  | info
  | warning
  | error
  | critical
  deriving DecidableEq, Repr

namespace LogLevel

/-- `record.levelname`. -/
def name : LogLevel → String
  | debug => "DEBUG"
  | info => "INFO"
  | warning => "WARNING"
  | error => "ERROR"
  | critical => "CRITICAL"

/-- `record.levelno`. -/
def number : LogLevel → Nat
  | debug => 10
  | info => 20
  | warning => 30
  | error => 40
  | critical => 50

end LogLevel

/-- A value of the dictionary `extra`. -/
inductive LogValue where
  | text (text : Str)
  | number (number : Int)
  deriving DecidableEq

/-- One call such as `logger.info(message, extra=extra)`. -/
structure LogCall where
  level : LogLevel
  logger : String
  message : String
  extra : List (String × LogValue)

/-- A record behind `RequestIdFilter`. -/
structure LogRecord where
  created : Instant
  requestId : Str
  call : LogCall

/-- The default of `request_id_ctx`. -/
def noRequestId : Str := .ofString "-"

/-- `_RESERVED_EXTRA_FIELDS`. -/
def reservedExtraFields : List String :=
  ["notification_id", "client_id", "channel", "status", "retry_count"]

/-- The reserved fields that the record has, in their fixed order. -/
def LogCall.extraFields (call : LogCall) : List (String × LogValue) :=
  reservedExtraFields.filterMap fun key => (call.extra.lookup key).map fun value => (key, value)

/-! ## Formatters -/

/-- The texts of a time: `isoformat()` in UTC, and `formatTime`. -/
structure LogClock where
  isoformat : Instant → Str
  formatTime : Instant → Str

/-- `payload` of `JsonFormatter.format`. -/
def LogRecord.payload (clock : LogClock) (record : LogRecord) : List (String × LogValue) :=
  [("timestamp", .text (clock.isoformat record.created)),
    ("level", .text (.ofString record.call.level.name)),
    ("logger", .text (.ofString record.call.logger)),
    ("message", .text (.ofString record.call.message)),
    ("request_id", .text record.requestId)] ++ record.call.extraFields

def LogValue.toJson : LogValue → JsonRecord.Value
  | text value => .string value
  | number value => .integer value

/-- The object that `json.dumps(payload, ensure_ascii=True, default=str)` writes. -/
def LogRecord.object (clock : LogClock) (record : LogRecord) : Object :=
  (record.payload clock).map fun field => (Str.ofString field.1, field.2.toJson)

/-- `f"{value}"`. -/
def LogValue.format : LogValue → Str
  | text value => value
  | number value => .ofString (toString value)

def formatExtraKv (call : LogCall) : Str :=
  (Str.ofString " ").intercalate
    (call.extraFields.map fun field =>
      Str.ofString field.1 ++ Str.ofString "=" ++ field.2.format)

/-- `TextFormatter.format`. -/
def LogRecord.textFormat (clock : LogClock) (record : LogRecord) : Str :=
  let base := clock.formatTime record.created ++ .ofString " " ++
    .ofString record.call.level.name ++ .ofString " " ++ .ofString record.call.logger ++
    .ofString " request_id=" ++ record.requestId ++ .ofString " " ++ .ofString record.call.message
  let extras := formatExtraKv record.call
  if extras ≠ [] then base ++ .ofString " " ++ extras else base

/-! ## The handler -/

inductive Environment where
  | «local»
  | test
  | production
  deriving DecidableEq, Repr

structure LogSettings where
  environment : Environment
  logLevel : LogLevel

namespace LogSettings

def passes (settings : LogSettings) (record : LogRecord) : Bool :=
  settings.logLevel.number ≤ record.call.level.number

/-- The formatter that `configure_logging` has set. -/
def format (settings : LogSettings) (clock : LogClock) (record : LogRecord) : Line :=
  match settings.environment with
  | .production => JsonRecord.writeObject (record.object clock)
  | .test => (record.textFormat clock).map (·.val)
  | .local => (record.textFormat clock).map (·.val)

/-- What `StreamHandler` writes for these records. -/
def stdout (settings : LogSettings) (clock : LogClock) (records : List LogRecord) : Line :=
  (records.filter settings.passes).flatMap fun record => settings.format clock record ++ [10]

end LogSettings

/-! ## Reading the lines -/

theorem toNat_lt_of_char (c : Char) :
    c.toNat < 0xD800 ∨ 0xDFFF < c.toNat ∧ c.toNat < 0x110000 := c.valid

theorem val_letter (c : Char) : (Fin.ofNat 0x110000 c.toNat).val = c.toNat := by
  have range := toNat_lt_of_char c
  exact Nat.mod_eq_of_lt (by omega)

theorem ofString_injective : Function.Injective Str.ofString := by
  intro first second same
  refine String.toList_inj.mp (List.map_injective_iff.mpr (fun c d alike => ?_) same)
  have value := congrArg Fin.val alike
  rw [val_letter, val_letter] at value
  exact Char.toNat_inj.mp value

/-- A literal has no surrogates to be joined. -/
theorem joined_ofString (text : String) :
    JsonRecord.joined (Str.ofString text) = Str.ofString text := by
  refine JsonRecord.joined_eq_self fun c member => ?_
  obtain ⟨character, -, rfl⟩ := List.mem_map.mp member
  have range := toNat_lt_of_char character
  rw [val_letter]
  simp only [JsonRecord.isHigh, Bool.and_eq_false_iff, decide_eq_false_iff_not]
  omega

def LogValue.read (value : LogValue) : JsonRecord.Value := value.toJson.joined

def LogRecord.readBack (clock : LogClock) (record : LogRecord) : Object :=
  (record.object clock).map JsonRecord.joinedMember

theorem stdout_eq {settings : LogSettings} (clock : LogClock) (records : List LogRecord)
    (production : settings.environment = .production) :
    settings.stdout clock records =
      JsonRecord.writeLines ((records.filter settings.passes).map (·.object clock)) := by
  rw [LogSettings.stdout, JsonRecord.writeLines, List.flatMap_map]
  simp only [LogSettings.format, production]

/-- The lines of a process in production are read back, one object for each record that passes. -/
theorem readLines_stdout {settings : LogSettings} (clock : LogClock) (records : List LogRecord)
    (production : settings.environment = .production) :
    JsonRecord.readLines (settings.stdout clock records) =
      some ((records.filter settings.passes).map fun record => record.readBack clock) := by
  rw [stdout_eq clock records production, JsonRecord.readLines_write, List.map_map]
  rfl

/-- What is written for these records, whatever texts they hold. -/
structure OneLineEach (settings : LogSettings) (clock : LogClock) (records : List LogRecord)
    (text : Line) : Prop where
  ascii : ∀ c ∈ text, c = 10 ∨ JsonRecord.isPrintable c = true
  lines : text.count 10 = (records.filter settings.passes).length
  payloads : JsonRecord.readLines text =
    some ((records.filter settings.passes).map fun record =>
      (record.payload clock).map fun field => (Str.ofString field.1, field.2.read))

/--
In production a record is one line of printable ASCII, and no text in it, be it
the request id that a client has sent, adds a line or a field or changes one.
-/
theorem production_log_lines (settings : LogSettings) (clock : LogClock)
    (records : List LogRecord) (production : settings.environment = .production) :
    OneLineEach settings clock records (settings.stdout clock records) := by
  constructor
  case ascii =>
    rw [stdout_eq clock records production]
    intro c member
    obtain ⟨object, -, written⟩ := List.mem_flatMap.mp member
    rcases List.mem_append.mp written with inside | last
    · exact .inr (JsonRecord.isPrintable_writeObject inside)
    · exact .inl (List.mem_singleton.mp last)
  case lines =>
    rw [stdout_eq clock records production, JsonRecord.count_newline, List.length_map]
  case payloads =>
    rw [readLines_stdout clock records production]
    refine congrArg some (List.map_congr_left fun record _ => ?_)
    rw [LogRecord.readBack, LogRecord.object, List.map_map]
    exact List.map_congr_left fun field _ =>
      congrArg (fun name => (name, field.2.read)) (joined_ofString field.1)

def productionLog : LogSettings := ⟨.production, .info⟩

def epochClock : LogClock where
  isoformat _ := .ofString "1970-01-01T00:00:00+00:00"
  formatTime _ := .ofString "1970-01-01 00:00:00,000"

def recordWithId (requestId : String) (message : String) : LogRecord :=
  ⟨0, .ofString requestId, ⟨.info, "app.auth", message, []⟩⟩

theorem production_log_lines_quotedId :
    (productionLog.stdout epochClock
      [recordWithId "r\"\x7d\n\x7b\"message\": \"client_authenticated"
        "api_key_rejected"]).count 10 = 1 :=
  (production_log_lines productionLog epochClock _ rfl).lines

/-- Other environments write the id as it is, so that it may pass for part of the message. -/
example : (recordWithId "r api_key_rejected" "m").textFormat epochClock =
    (recordWithId "r" "api_key_rejected m").textFormat epochClock := by
  decide

end NotificationsEngine
