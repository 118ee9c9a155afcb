import NotificationsEngine.Python.Text

/-!
# The body of a send request

`app/schemas/notification.py`: `SendNotificationRequest` as Pydantic validates
it against a parsed body.  What it accepts is well formed, and every well-formed
request is accepted from some body.
-/

namespace NotificationsEngine

structure ConstrainedStr (minLength maxLength : Nat) (value : Str) : Prop where
  minLength : minLength ≤ value.length
  maxLength : value.length ≤ maxLength
  scalar : value.all (fun c => !isSurrogate c) = true

instance (minLength maxLength : Nat) (value : Str) :
    Decidable (ConstrainedStr minLength maxLength value) :=
  decidable_of_iff (_ ∧ _ ∧ _) ⟨fun ⟨a, b, c⟩ => ⟨a, b, c⟩, fun ⟨a, b, c⟩ => ⟨a, b, c⟩⟩

/-- A field of type `str` with `min_length` and `max_length`. -/
def constrainedStr (minLength maxLength : Nat) : Json → Option Str
  | .str value => if ConstrainedStr minLength maxLength value then some value else none
  | _ => none

/-- A field of type `Channel`. -/
def channelOf : Json → Option Channel
  | .str value =>
      [Channel.email, .sms, .push, .webhook].find? fun channel => .ofString channel.value = value
  | _ => none

/-- A field of type `dict[str, Any]` with the default `{}`. -/
def payloadOf : Option Json → Option Payload
  | none => some []
  | some (.obj fields) => some fields
  | some _ => none

/-- A field of type `str | None` with the default `None`. -/
def idempotencyKeyOf : Option Json → Option (Option Str)
  | none => some none
  | some .null => some none
  | some value => (constrainedStr 1 128 value).map some

def getField (fields : List (Str × Json)) (name : String) : Option Json :=
  (fields.find? fun field => field.1 = .ofString name).map (·.2)

namespace SendNotificationRequest

def fieldNames : List Str :=
  ["channel", "recipient", "template", "payload", "idempotency_key"].map .ofString

/-- `SendNotificationRequest.model_validate`; `none` where it raises `ValidationError`. -/
def modelValidate : Json → Option SendNotificationRequest
  | .obj fields => do
      let channel ← (getField fields "channel").bind channelOf
      let recipient ← (getField fields "recipient").bind (constrainedStr 1 320)
      let template ← (getField fields "template").bind (constrainedStr 1 128)
      let payload ← payloadOf (getField fields "payload")
      let idempotencyKey ← idempotencyKeyOf (getField fields "idempotency_key")
      -- `extra="forbid"`
      if fields.all fun field => fieldNames.contains field.1 then
        some { channel, recipient, template, payload, idempotencyKey }
      else none
  | _ => none

structure WellFormed (request : SendNotificationRequest) : Prop where
  recipient : ConstrainedStr 1 320 request.recipient
  template : ConstrainedStr 1 128 request.template
  idempotencyKey : ∀ key, request.idempotencyKey = some key → ConstrainedStr 1 128 key

def body (request : SendNotificationRequest) : Json :=
  .obj
    [(.ofString "channel", .str (.ofString request.channel.value)),
      (.ofString "recipient", .str request.recipient),
      (.ofString "template", .str request.template),
      (.ofString "payload", .obj request.payload),
      (.ofString "idempotency_key", request.idempotencyKey.elim .null .str)]

end SendNotificationRequest

/-! ## What is accepted -/

theorem constrainedStr_eq_some {minLength maxLength : Nat} {json : Json} {value : Str}
    (accepted : constrainedStr minLength maxLength json = some value) :
    ConstrainedStr minLength maxLength value := by
  cases json with
  | str text =>
      simp only [constrainedStr, Option.ite_none_right_eq_some, Option.some.injEq] at accepted
      exact accepted.2 ▸ accepted.1
  | _ => cases accepted

theorem constrainedStr_str {minLength maxLength : Nat} {value : Str}
    (constrained : ConstrainedStr minLength maxLength value) :
    constrainedStr minLength maxLength (.str value) = some value := if_pos constrained

theorem idempotencyKeyOf_eq_some {json : Option Json} {key : Str}
    (accepted : idempotencyKeyOf json = some (some key)) : ConstrainedStr 1 128 key := by
  cases json with
  | none => cases accepted
  | some json =>
      cases json with
      | null => cases accepted
      | _ =>
          simp only [idempotencyKeyOf, Option.map_eq_some_iff, Option.some.injEq] at accepted
          obtain ⟨value, text, rfl⟩ := accepted
          exact constrainedStr_eq_some text

theorem channelOf_value (channel : Channel) :
    channelOf (.str (.ofString channel.value)) = some channel := by
  cases channel <;> decide

namespace SendNotificationRequest

theorem wellFormed_of_modelValidate {json : Json} {request : SendNotificationRequest}
    (accepted : modelValidate json = some request) : request.WellFormed := by
  cases json with
  | obj fields =>
      simp only [modelValidate, Option.bind_eq_bind, Option.bind_eq_some_iff,
        Option.ite_none_right_eq_some, Option.some.injEq] at accepted
      obtain ⟨channel, -, recipient, ⟨_, -, hrecipient⟩, template, ⟨_, -, htemplate⟩, payload, -,
        key, hkey, -, rfl⟩ := accepted
      refine ⟨constrainedStr_eq_some hrecipient, constrainedStr_eq_some htemplate, ?_⟩
      rintro text rfl
      exact idempotencyKeyOf_eq_some hkey
  | _ => cases accepted

theorem modelValidate_body {request : SendNotificationRequest} (wellFormed : request.WellFormed) :
    modelValidate request.body = some request := by
  have channel := channelOf_value request.channel
  have recipient := constrainedStr_str wellFormed.recipient
  have template := constrainedStr_str wellFormed.template
  have idempotencyKey : idempotencyKeyOf (some (request.idempotencyKey.elim .null .str)) =
      some request.idempotencyKey := by
    cases hkey : request.idempotencyKey with
    | none => rfl
    | some key =>
        have text := constrainedStr_str (wellFormed.idempotencyKey key hkey)
        simp only [Option.elim_some, idempotencyKeyOf, text, Option.map_some]
  have read : modelValidate request.body =
      (channelOf (.str (.ofString request.channel.value))).bind fun channel =>
        (constrainedStr 1 320 (.str request.recipient)).bind fun recipient =>
          (constrainedStr 1 128 (.str request.template)).bind fun template =>
            (idempotencyKeyOf (some (request.idempotencyKey.elim .null .str))).bind
              fun idempotencyKey =>
                some { channel, recipient, template, payload := request.payload,
                       idempotencyKey } := rfl
  rw [read, channel, recipient, template, idempotencyKey]
  rfl

/-- The requests that validation lets through. -/
theorem exists_modelValidate_iff (request : SendNotificationRequest) :
    (∃ json, modelValidate json = some request) ↔ request.WellFormed :=
  ⟨fun ⟨_, accepted⟩ => wellFormed_of_modelValidate accepted,
    fun wellFormed => ⟨request.body, modelValidate_body wellFormed⟩⟩

end SendNotificationRequest

end NotificationsEngine
