import NotificationsEngine.Store.Notification
import Mathlib.Data.List.Nodup
import Mathlib.Data.List.Pairwise

/-!
# The notifications table

A committed table never holds two rows with one primary key, nor two rows
that the partial unique index excludes: both are fields of the structure, so
an INSERT that would break one has no result but `IntegrityError`.  The
lookups are those of `app/repositories/notification_repository.py`.
-/

namespace NotificationsEngine

inductive IntegrityError where
  | primaryKey
  | clientIdempotency
  deriving DecidableEq, Repr

structure Table where
  rows : List Notification
  primaryKey : (rows.map (·.id)).Nodup
  clientIdempotency : rows.Pairwise fun first second => ¬ first.SameKey second

namespace Table

def empty : Table := ⟨[], List.nodup_nil, List.Pairwise.nil⟩

def single (row : Notification) : Table :=
  ⟨[row], List.nodup_singleton _, List.pairwise_singleton _ _⟩

/-- `Session.get(Notification, notification_id)` in a session that has not loaded the row. -/
def getById (table : Table) (notificationId : UUID) : Option Notification :=
  table.rows.find? fun row => row.id = notificationId

def getByIdempotencyKey (table : Table) (clientId : UUID) (idempotencyKey : Str) :
    Option Notification :=
  table.rows.find? fun row =>
    row.clientId = clientId ∧ row.idempotencyKey = some idempotencyKey

/-- The INSERT of one row, with the two unique indexes of the table. -/
def insert (table : Table) (row : Notification) : Except IntegrityError Table :=
  if taken : row.id ∈ table.rows.map (·.id) then .error .primaryKey
  else if conflict : ∃ other ∈ table.rows, row.SameKey other then .error .clientIdempotency
  else .ok
    { rows := row :: table.rows
      primaryKey := List.nodup_cons.mpr ⟨taken, table.primaryKey⟩
      clientIdempotency := List.pairwise_cons.mpr
        ⟨fun other member same => conflict ⟨other, member, same⟩, table.clientIdempotency⟩ }

/-- One row after an UPDATE that selects by primary key alone. -/
def updateRow (id : UUID) (base assigned : DeliveryColumns) (row : Notification) : Notification :=
  if row.id = id then row.withColumns (.write base assigned row.toDeliveryColumns) else row

theorem updateRow_eq_withColumns (id : UUID) (base assigned : DeliveryColumns)
    (row : Notification) :
    ∃ columns, updateRow id base assigned row = row.withColumns columns := by
  unfold updateRow
  split
  · exact ⟨_, rfl⟩
  · exact ⟨row.toDeliveryColumns, rfl⟩

@[simp] theorem updateRow_id (id : UUID) (base assigned : DeliveryColumns) (row : Notification) :
    (updateRow id base assigned row).id = row.id := by
  obtain ⟨columns, same⟩ := updateRow_eq_withColumns id base assigned row
  rw [same, Notification.withColumns_id]

@[simp] theorem updateRow_sameKey (id : UUID) (base assigned : DeliveryColumns)
    (first second : Notification) :
    (updateRow id base assigned first).SameKey (updateRow id base assigned second) ↔
      first.SameKey second := by
  obtain ⟨left, hleft⟩ := updateRow_eq_withColumns id base assigned first
  obtain ⟨right, hright⟩ := updateRow_eq_withColumns id base assigned second
  rw [hleft, hright, Notification.sameKey_withColumns]

/-- The UPDATE of a commit: the changed columns of the row with this primary key. -/
def update (table : Table) (id : UUID) (base assigned : DeliveryColumns) : Table where
  rows := table.rows.map (updateRow id base assigned)
  primaryKey := by
    have same : (fun row => (updateRow id base assigned row).id) = (·.id) :=
      funext (updateRow_id id base assigned)
    rw [List.map_map, Function.comp_def, same]
    exact table.primaryKey
  clientIdempotency := List.pairwise_map.mpr (by simpa using table.clientIdempotency)

/-! ## Lookups -/

theorem getById_mem {table : Table} {id : UUID} {row : Notification}
    (found : table.getById id = some row) : row ∈ table.rows :=
  List.mem_of_find?_eq_some found

theorem getById_id {table : Table} {id : UUID} {row : Notification}
    (found : table.getById id = some row) : row.id = id := by
  simpa using List.find?_some found

theorem getById_eq_none_iff {table : Table} {id : UUID} :
    table.getById id = none ↔ id ∉ table.rows.map (·.id) := by
  simp [getById]

/-- Two rows of the table with one primary key are the same row. -/
theorem eq_of_id_eq {table : Table} {first second : Notification}
    (hfirst : first ∈ table.rows) (hsecond : second ∈ table.rows)
    (same : first.id = second.id) : first = second :=
  List.inj_on_of_nodup_map table.primaryKey hfirst hsecond same

theorem getById_eq_some_iff {table : Table} {id : UUID} {row : Notification} :
    table.getById id = some row ↔ row ∈ table.rows ∧ row.id = id := by
  constructor
  · exact fun found => ⟨getById_mem found, getById_id found⟩
  · rintro ⟨member, rfl⟩
    cases found : table.getById row.id with
    | none => exact absurd (List.mem_map_of_mem member) (getById_eq_none_iff.mp found)
    | some other => rw [eq_of_id_eq (getById_mem found) member (getById_id found)]

/-- Two rows of the table with one client and one key are the same row. -/
theorem eq_of_sameKey {table : Table} {first second : Notification}
    (hfirst : first ∈ table.rows) (hsecond : second ∈ table.rows)
    (same : first.SameKey second) : first = second := by
  by_contra different
  have symmetric : Std.Symm fun first second : Notification => ¬ first.SameKey second :=
    ⟨fun _ _ apart back => apart back.symm⟩
  exact table.clientIdempotency.forall hfirst hsecond different same

theorem getByIdempotencyKey_some {table : Table} {clientId : UUID} {key : Str}
    {row : Notification} (found : table.getByIdempotencyKey clientId key = some row) :
    row ∈ table.rows ∧ row.clientId = clientId ∧ row.idempotencyKey = some key := by
  have matched := List.find?_some found
  simp only [decide_eq_true_eq] at matched
  exact ⟨List.mem_of_find?_eq_some found, matched⟩

theorem getByIdempotencyKey_isSome {table : Table} {row : Notification} {key : Str}
    (member : row ∈ table.rows) (hkey : row.idempotencyKey = some key) :
    ∃ found, table.getByIdempotencyKey row.clientId key = some found := by
  cases found : table.getByIdempotencyKey row.clientId key with
  | some other => exact ⟨other, rfl⟩
  | none =>
      have missing := List.find?_eq_none.mp found row member
      simp [hkey] at missing

/-! ## What an INSERT and an UPDATE do -/

theorem insert_rows {table table' : Table} {row : Notification}
    (inserted : table.insert row = .ok table') : table'.rows = row :: table.rows := by
  unfold insert at inserted
  split at inserted
  · cases inserted
  · split at inserted
    · cases inserted
    · cases inserted
      rfl

theorem insert_fresh {table table' : Table} {row : Notification}
    (inserted : table.insert row = .ok table') : table.getById row.id = none := by
  unfold insert at inserted
  split at inserted
  · cases inserted
  · next taken => exact getById_eq_none_iff.mpr taken

/-- With a fresh id the INSERT fails only on a row of the same client and key. -/
theorem insert_conflict {table : Table} {row : Notification} {error : IntegrityError}
    (fresh : table.getById row.id = none) (failed : table.insert row = .error error) :
    error = .clientIdempotency ∧ ∃ other ∈ table.rows, row.SameKey other := by
  unfold insert at failed
  rw [dif_neg (getById_eq_none_iff.mp fresh)] at failed
  split at failed
  · next conflict => exact ⟨(Except.error.inj failed).symm, conflict⟩
  · cases failed

theorem getById_insert {table table' : Table} {row : Notification}
    (inserted : table.insert row = .ok table') (id : UUID) :
    table'.getById id = if row.id = id then some row else table.getById id := by
  unfold getById
  rw [insert_rows inserted, List.find?_cons]
  by_cases same : row.id = id <;> simp [same]

/-- An INSERT leaves every row that was stored. -/
theorem getById_insert_of_some {table table' : Table} {row stored : Notification} {id : UUID}
    (inserted : table.insert row = .ok table') (found : table.getById id = some stored) :
    table'.getById id = some stored := by
  rw [getById_insert inserted, if_neg, found]
  rintro rfl
  rw [insert_fresh inserted] at found
  cases found

theorem getById_update (table : Table) (target : UUID) (base assigned : DeliveryColumns)
    (id : UUID) :
    (table.update target base assigned).getById id =
      (table.getById id).map (updateRow target base assigned) := by
  unfold getById update
  rw [List.find?_map]
  congr 2
  funext row
  simp

theorem getById_update_of_ne (table : Table) {target id : UUID}
    (base assigned : DeliveryColumns) (other : id ≠ target) :
    (table.update target base assigned).getById id = table.getById id := by
  rw [getById_update]
  cases found : table.getById id with
  | none => rfl
  | some row =>
      have different : row.id ≠ target := by rwa [getById_id found]
      simp [updateRow, different]

theorem getById_update_self {table : Table} {id : UUID} {row : Notification}
    (base assigned : DeliveryColumns) (found : table.getById id = some row) :
    (table.update id base assigned).getById id =
      some (row.withColumns (.write base assigned row.toDeliveryColumns)) := by
  rw [getById_update, found, Option.map_some, updateRow, if_pos (getById_id found)]

end Table

end NotificationsEngine
