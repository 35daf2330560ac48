import ObjectOutline.Json.Record

/-! Reading back what was written. A value is read back when its reader undoes its writer; lists are
read back item by item, and a field that may be left out is read back whether it is there or not. -/
namespace ObjectOutline.Json

/-- The reader gives back every value that the writer writes. -/
def ReadsBack {α : Type} (read : Reader α) (write : α → Json) : Prop :=
  ∀ value, read (write value) = .ok value

@[simp] theorem ok_bind {α β : Type} (value : α) (next : α → Except ReadError β) :
    (Except.ok value >>= next) = next value := rfl

theorem readsBack_string : ReadsBack readString .string := by
  intro text
  rfl

theorem readsBack_word32 : ReadsBack readWord32 (fun word : UInt32 => .integer word.toNat) := by
  intro word
  have hSize : word.toNat < UInt32.size := word.toNat_lt_size
  rw [readWord32, if_pos (by omega), Int.toNat_natCast, UInt32.ofNat_toNat]

section

variable {α : Type} {read : Reader α} {write : α → Json}

theorem ReadsBack.items (h : ReadsBack read write) (values : List α) :
    readItems read (values.map write) = .ok values := by
  induction values with
  | nil => rfl
  | cons value rest ih =>
      rw [List.map_cons, readItems, h value, ih]
      rfl

theorem ReadsBack.list (h : ReadsBack read write) :
    ReadsBack (readList read) (fun values => .array (values.map write)) :=
  h.items

/-- Only a value that is not written as null can be told from one that is absent. -/
theorem ReadsBack.option (h : ReadsBack read write) (hNull : ∀ value, write value ≠ .null)
    (value : α) : readOption read (write value) = .ok (some value) := by
  rw [readOption]
  · rw [h value]
    rfl
  · exact hNull value

end

@[simp] theorem Record.find?_named (shape : Shape) (members : List (String × Json))
    (field : String) : (Record.named shape members).find? field = members.lookup field := rfl

/-- A record is read back when its fields are. -/
theorem readRecord_object {α : Type} {shape : Shape} {readFields : Record → Except ReadError α}
    {members : List (String × Json)} {value : α}
    (h : readFields (.named shape members) = .ok value) :
    readRecord shape readFields (.object members) = .ok value := by
  rw [readRecord, toRecord, ok_bind, h]
  rfl

end ObjectOutline.Json
