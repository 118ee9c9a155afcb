import NotificationsEngine.Python.Text
import NotificationsEngine.Store.Table

/-!
# The columns of a notification

`app/models/notification.py` and the first migration, for what an INSERT puts
into each column, with the conditions that PostgreSQL makes on a value.  A
payload is written by `json.dumps` and read again as `jsonb`.
-/

namespace NotificationsEngine

def nul : CodePoint := ⟨0, by decide⟩

/-! ## Texts of a document -/

def isHighSurrogate (c : CodePoint) : Bool := 0xD800 ≤ c.val && c.val ≤ 0xDBFF

def isLowSurrogate (c : CodePoint) : Bool := 0xDC00 ≤ c.val && c.val ≤ 0xDFFF

/--
A string of a `jsonb` document, as `json.dumps` escapes it: a surrogate is
escaped alone, and two escapes in a row are read as one character.  The flag
says that the code point before was a high surrogate.
-/
def jsonbString : Bool → Str → Bool
  | afterHigh, [] => !afterHigh
  | afterHigh, c :: rest =>
      if isHighSurrogate c then !afterHigh && jsonbString true rest
      else if isLowSurrogate c then afterHigh && jsonbString false rest
      else !afterHigh && c ≠ nul && jsonbString false rest

/-- Every surrogate stands in a pair of a high one and a low one. -/
inductive Paired : Str → Prop where
  | nil : Paired []
  | scalar {rest : Str} (c : CodePoint) (scalar : isSurrogate c = false) (paired : Paired rest) :
      Paired (c :: rest)
  | pair {rest : Str} (high low : CodePoint) (first : isHighSurrogate high = true)
      (second : isLowSurrogate low = true) (paired : Paired rest) :
      Paired (high :: low :: rest)

theorem isSurrogate_eq_or (c : CodePoint) :
    isSurrogate c = (isHighSurrogate c || isLowSurrogate c) := by
  unfold isSurrogate isHighSurrogate isLowSurrogate
  grind

theorem isSurrogate_of_high {c : CodePoint} (high : isHighSurrogate c = true) :
    isSurrogate c = true := by
  rw [isSurrogate_eq_or, high, Bool.true_or]

theorem isSurrogate_of_low {c : CodePoint} (low : isLowSurrogate c = true) :
    isSurrogate c = true := by
  rw [isSurrogate_eq_or, low, Bool.or_true]

theorem isLowSurrogate_of_high {c : CodePoint} (high : isHighSurrogate c = true) :
    isLowSurrogate c = false := by
  unfold isHighSurrogate at high
  unfold isLowSurrogate
  grind

theorem ne_nul_of_isSurrogate {c : CodePoint} (surrogate : isSurrogate c = true) : c ≠ nul := by
  rintro rfl
  cases surrogate

theorem paired_scalar_iff {c : CodePoint} {rest : Str} (scalar : isSurrogate c = false) :
    Paired (c :: rest) ↔ Paired rest := by
  constructor
  · intro paired
    cases paired with
    | scalar _ _ paired => exact paired
    | pair _ low first second paired => simp [isSurrogate_of_high first] at scalar
  · exact .scalar c scalar

theorem paired_high_iff {c : CodePoint} {rest : Str} (high : isHighSurrogate c = true) :
    Paired (c :: rest) ↔
      ∃ low more, rest = low :: more ∧ isLowSurrogate low = true ∧ Paired more := by
  constructor
  · intro paired
    cases paired with
    | scalar _ scalar paired => simp [isSurrogate_of_high high] at scalar
    | pair _ low _ second paired => exact ⟨low, _, rfl, second, paired⟩
  · rintro ⟨low, more, rfl, second, paired⟩
    exact .pair c low high second paired

theorem not_paired_low {c : CodePoint} {rest : Str} (low : isLowSurrogate c = true) :
    ¬ Paired (c :: rest) := by
  intro paired
  cases paired with
  | scalar _ scalar paired => simp [isSurrogate_of_low low] at scalar
  | pair _ _ first _ _ => simp [isLowSurrogate_of_high first] at low

/-- What the scan accepts, with either flag. -/
def Scanned : Bool → Str → Prop
  | false, text => nul ∉ text ∧ Paired text
  | true, text =>
      ∃ low rest, text = low :: rest ∧ isLowSurrogate low = true ∧ nul ∉ rest ∧ Paired rest

theorem jsonbString_iff_scanned (afterHigh : Bool) (text : Str) :
    jsonbString afterHigh text = true ↔ Scanned afterHigh text := by
  induction text generalizing afterHigh with
  | nil =>
      cases afterHigh with
      | false => simp [jsonbString, Scanned, Paired.nil]
      | true => simp [jsonbString, Scanned]
  | cons c rest ih =>
      by_cases high : isHighSurrogate c = true
      · have apart := isLowSurrogate_of_high high
        have character := ne_nul_of_isSurrogate (isSurrogate_of_high high)
        cases afterHigh with
        | false =>
            simp only [jsonbString, high, if_true, Bool.not_false, Bool.true_and, ih, Scanned,
              paired_high_iff high, List.mem_cons, character.symm, false_or]
            constructor
            · rintro ⟨low, more, rfl, second, clean, paired⟩
              have different := ne_nul_of_isSurrogate (isSurrogate_of_low second)
              exact ⟨by simp [different.symm, clean], low, more, rfl, second, paired⟩
            · rintro ⟨clean, low, more, rfl, second, paired⟩
              exact ⟨low, more, rfl, second, fun member => clean (.tail low member), paired⟩
        | true => simp [jsonbString, high, Scanned, apart]
      · by_cases low : isLowSurrogate c = true
        · cases afterHigh with
          | false => simp [jsonbString, high, low, Scanned, not_paired_low low]
          | true => simp [jsonbString, high, low, Scanned, ih]
        · have scalar : isSurrogate c = false := by simp [isSurrogate_eq_or, high, low]
          cases afterHigh with
          | false =>
              simp [jsonbString, high, low, Scanned, ih, paired_scalar_iff scalar, and_assoc,
                eq_comm (a := nul)]
          | true => simp [jsonbString, high, low, Scanned]

theorem jsonbString_iff (text : Str) :
    jsonbString false text = true ↔ nul ∉ text ∧ Paired text :=
  jsonbString_iff_scanned false text

/-! ## Documents -/

/-- `json.dumps` writes `NaN` and the infinities by names that are no JSON. -/
def JsonFloat.isFinite : JsonFloat → Bool
  | .finite _ _ => true
  | _ => false

mutual

/-- Whether `jsonb` takes what `json.dumps` writes of a value. -/
def Json.isJsonb : Json → Bool
  | .null => true
  | .bool _ => true
  | .int _ => true
  | .float value => value.isFinite
  | .str value => jsonbString false value
  | .arr items => isJsonbItems items
  | .obj fields => isJsonbFields fields

def isJsonbItems : List Json → Bool
  | [] => true
  | item :: rest => item.isJsonb && isJsonbItems rest

def isJsonbFields : List (Str × Json) → Bool
  | [] => true
  | (key, value) :: rest => jsonbString false key && value.isJsonb && isJsonbFields rest

end

/-- A part of a document that `jsonb` can refuse: a string, a key or a `float`. -/
inductive JsonLeaf where
  | text (value : Str)
  | float (value : JsonFloat)

mutual

def Json.leaves : Json → List JsonLeaf
  | .null => []
  | .bool _ => []
  | .int _ => []
  | .float value => [.float value]
  | .str value => [.text value]
  | .arr items => itemLeaves items
  | .obj fields => fieldLeaves fields

def itemLeaves : List Json → List JsonLeaf
  | [] => []
  | item :: rest => item.leaves ++ itemLeaves rest

def fieldLeaves : List (Str × Json) → List JsonLeaf
  | [] => []
  | (key, value) :: rest => .text key :: value.leaves ++ fieldLeaves rest

end

def JsonLeaf.Standard : JsonLeaf → Prop
  | .text value => nul ∉ value ∧ Paired value
  | .float value => ∃ significand exponent, value = .finite significand exponent

theorem isFinite_iff (value : JsonFloat) :
    value.isFinite = true ↔ ∃ significand exponent, value = .finite significand exponent := by
  cases value <;> simp [JsonFloat.isFinite]

mutual

/-- A value is taken if and only if each of its leaves is standard. -/
theorem Json.isJsonb_iff : ∀ json : Json,
    json.isJsonb = true ↔ ∀ leaf ∈ json.leaves, leaf.Standard
  | .null => by simp [Json.isJsonb, Json.leaves]
  | .bool _ => by simp [Json.isJsonb, Json.leaves]
  | .int _ => by simp [Json.isJsonb, Json.leaves]
  | .float value => by simp [Json.isJsonb, Json.leaves, JsonLeaf.Standard, isFinite_iff]
  | .str value => by simp [Json.isJsonb, Json.leaves, JsonLeaf.Standard, jsonbString_iff]
  | .arr items => by
      rw [Json.isJsonb, Json.leaves]
      exact isJsonbItems_iff items
  | .obj fields => by
      rw [Json.isJsonb, Json.leaves]
      exact isJsonbFields_iff fields

theorem isJsonbItems_iff : ∀ items : List Json,
    isJsonbItems items = true ↔ ∀ leaf ∈ itemLeaves items, leaf.Standard
  | [] => by simp [isJsonbItems, itemLeaves]
  | item :: rest => by
      have first := item.isJsonb_iff
      have later := isJsonbItems_iff rest
      simp only [isJsonbItems, Bool.and_eq_true, first, later, itemLeaves, List.forall_mem_append]

theorem isJsonbFields_iff : ∀ fields : List (Str × Json),
    isJsonbFields fields = true ↔ ∀ leaf ∈ fieldLeaves fields, leaf.Standard
  | [] => by simp [isJsonbFields, fieldLeaves]
  | (key, value) :: rest => by
      have first := value.isJsonb_iff
      have later := isJsonbFields_iff rest
      simp only [isJsonbFields, Bool.and_eq_true, jsonbString_iff, first, later, fieldLeaves,
        List.cons_append, List.forall_mem_cons, List.forall_mem_append, JsonLeaf.Standard,
        and_assoc]

end

/-! ## Columns -/

inductive ColumnType where
  | uuid
  | varchar (length : Nat)
  | text
  | jsonb
  | integer
  | timestamp
  deriving DecidableEq

inductive ColumnValue where
  | null
  | uuid (value : UUID)
  | text (value : Str)
  | json (value : Json)
  | integer (value : Int)
  | timestamp (value : Instant)

/-- A text as a parameter of a statement: UTF-8 without U+0000. -/
def isTextParameter (value : Str) : Bool := value.all fun c => c ≠ nul && !isSurrogate c

/-- The values of a type; a timestamp holds every `datetime`. -/
def ColumnType.holds : ColumnType → ColumnValue → Bool
  | .uuid, .uuid _ => true
  | .varchar length, .text value => value.length ≤ length && isTextParameter value
  | .text, .text value => isTextParameter value
  | .jsonb, .json value => value.isJsonb
  | .integer, .integer value => -2 ^ 31 ≤ value && value < 2 ^ 31
  | .timestamp, .timestamp _ => true
  | _, _ => false

inductive NotificationColumn where
  | id
  | clientId
  | channel
  | recipient
  | template
  | payload
  | status
  | retryCount
  | idempotencyKey
  | errorMessage
  | sentAt
  deriving DecidableEq

namespace NotificationColumn

def all : List NotificationColumn :=
  [id, clientId, channel, recipient, template, payload, status, retryCount, idempotencyKey,
    errorMessage, sentAt]

def type : NotificationColumn → ColumnType
  | id => .uuid
  | clientId => .uuid
  | channel => .varchar 16
  | recipient => .varchar 320
  | template => .varchar 128
  | payload => .jsonb
  | status => .varchar 16
  | retryCount => .integer
  | idempotencyKey => .varchar 128
  | errorMessage => .text
  | sentAt => .timestamp

def nullable : NotificationColumn → Bool
  | idempotencyKey => true
  | errorMessage => true
  | sentAt => true
  | _ => false

def holds (column : NotificationColumn) : ColumnValue → Bool
  | .null => column.nullable
  | value => column.type.holds value

theorem mem_all (column : NotificationColumn) : column ∈ all := by
  cases column <;> decide

end NotificationColumn

def Notification.columnValue (row : Notification) : NotificationColumn → ColumnValue
  | .id => .uuid row.id
  | .clientId => .uuid row.clientId
  | .channel => .text (.ofString row.channel.value)
  | .recipient => .text row.recipient
  | .template => .text row.template
  | .payload => .json (.obj row.payload)
  | .status => .text (.ofString row.status.value)
  | .retryCount => .integer row.retryCount
  | .idempotencyKey => row.idempotencyKey.elim .null .text
  | .errorMessage => row.errorMessage.elim .null .text
  | .sentAt => row.sentAt.elim .null .timestamp

def Notification.fits (row : Notification) : Bool :=
  NotificationColumn.all.all fun column => column.holds (row.columnValue column)

theorem fits_iff {row : Notification} :
    row.fits = true ↔ ∀ column : NotificationColumn,
      column.holds (row.columnValue column) = true := by
  rw [Notification.fits, List.all_eq_true]
  exact ⟨fun each column => each column column.mem_all, fun each column _ => each column⟩

theorem isTextParameter_iff {value : Str} :
    isTextParameter value = true ↔ nul ∉ value ∧ ∀ c ∈ value, isSurrogate c = false := by
  simp only [isTextParameter, List.all_eq_true, Bool.and_eq_true, decide_eq_true_eq,
    Bool.not_eq_true']
  constructor
  · intro each
    exact ⟨fun member => (each nul member).1 rfl, fun c member => (each c member).2⟩
  · rintro ⟨clean, scalar⟩ c member
    exact ⟨fun same => clean (same ▸ member), scalar c member⟩

/-! ## Updating -/

/-- The columns that an UPDATE writes: those in which the row differs from its snapshot. -/
def DeliveryColumns.written (base assigned : DeliveryColumns) : List NotificationColumn :=
  (if assigned.status = base.status then [] else [.status]) ++
    (if assigned.retryCount = base.retryCount then [] else [.retryCount]) ++
    (if assigned.errorMessage = base.errorMessage then [] else [.errorMessage]) ++
    if assigned.sentAt = base.sentAt then [] else [.sentAt]

def Notification.fitsUpdate (base : Notification) (assigned : DeliveryColumns) : Bool :=
  (base.toDeliveryColumns.written assigned).all fun column =>
    column.holds ((base.withColumns assigned).columnValue column)

theorem holds_status (status : NotificationStatus) :
    NotificationColumn.status.holds (.text (.ofString status.value)) = true := by
  cases status <;> decide

theorem holds_retryCount (retryCount : Nat) :
    NotificationColumn.retryCount.holds (.integer retryCount) = true ↔ retryCount < 2 ^ 31 := by
  change ColumnType.integer.holds (.integer retryCount) = true ↔ _
  rw [ColumnType.holds, Bool.and_eq_true, decide_eq_true_eq, decide_eq_true_eq]
  omega

theorem holds_errorMessage (errorMessage : Option Str) :
    NotificationColumn.errorMessage.holds (errorMessage.elim .null .text) =
      errorMessage.all isTextParameter := by
  cases errorMessage <;> rfl

theorem holds_sentAt (sentAt : Option Instant) :
    NotificationColumn.sentAt.holds (sentAt.elim .null .timestamp) = true := by
  cases sentAt <;> rfl

/-- Only a new count and a new message can be refused. -/
theorem fitsUpdate_iff {base : Notification} {assigned : DeliveryColumns} :
    base.fitsUpdate assigned = true ↔
      (assigned.retryCount = base.retryCount ∨ assigned.retryCount < 2 ^ 31) ∧
        (assigned.errorMessage = base.errorMessage ∨
          assigned.errorMessage.all isTextParameter = true) := by
  have status := holds_status assigned.status
  have sentAt := holds_sentAt assigned.sentAt
  unfold Notification.fitsUpdate DeliveryColumns.written
  simp only [List.all_append, Bool.and_eq_true]
  constructor
  · rintro ⟨⟨⟨-, count⟩, message⟩, -⟩
    constructor
    · by_cases same : assigned.retryCount = base.retryCount
      · exact .inl same
      · rw [if_neg same] at count
        exact .inr ((holds_retryCount _).mp (List.all_eq_true.mp count _ (by simp)))
    · by_cases same : assigned.errorMessage = base.errorMessage
      · exact .inl same
      · rw [if_neg same] at message
        exact .inr ((holds_errorMessage _).symm.trans (List.all_eq_true.mp message _ (by simp)))
  · rintro ⟨count, message⟩
    refine ⟨⟨⟨?_, ?_⟩, ?_⟩, ?_⟩
    · split
      · rfl
      · exact List.all_eq_true.mpr (List.forall_mem_singleton.mpr status)
    · split
      · rfl
      · next changed =>
          have below := (holds_retryCount _).mpr (count.resolve_left changed)
          exact List.all_eq_true.mpr (List.forall_mem_singleton.mpr below)
    · split
      · rfl
      · next changed =>
          have clean := (holds_errorMessage _).trans (message.resolve_left changed)
          exact List.all_eq_true.mpr (List.forall_mem_singleton.mpr clean)
    · split
      · rfl
      · exact List.all_eq_true.mpr (List.forall_mem_singleton.mpr sentAt)

/-! ## Inserting -/

inductive InsertError where
  /-- a `DataError` or, for a lone surrogate in a text, the `UnicodeEncodeError` of the driver -/
  | data
  | integrity (error : IntegrityError)
  deriving DecidableEq

/-- The INSERT of a row: its values are read before the indexes are looked at. -/
def Table.insertValues (table : Table) (row : Notification) : Except InsertError Table :=
  if row.fits then (table.insert row).mapError .integrity else .error .data

theorem insertValues_ok {table table' : Table} {row : Notification} :
    table.insertValues row = .ok table' ↔ row.fits = true ∧ table.insert row = .ok table' := by
  cases fits : row.fits with
  | false => simp [Table.insertValues, fits]
  | true =>
      cases stored : table.insert row <;> simp [Table.insertValues, fits, stored, Except.mapError]

theorem insertValues_integrity {table : Table} {row : Notification} {error : IntegrityError} :
    table.insertValues row = .error (.integrity error) ↔
      row.fits = true ∧ table.insert row = .error error := by
  cases fits : row.fits with
  | false => simp [Table.insertValues, fits]
  | true =>
      cases stored : table.insert row <;> simp [Table.insertValues, fits, stored, Except.mapError]

theorem insertValues_data {table : Table} {row : Notification} :
    table.insertValues row = .error .data ↔ row.fits = false := by
  cases fits : row.fits with
  | false => simp [Table.insertValues, fits]
  | true =>
      cases stored : table.insert row <;> simp [Table.insertValues, fits, stored, Except.mapError]

end NotificationsEngine
