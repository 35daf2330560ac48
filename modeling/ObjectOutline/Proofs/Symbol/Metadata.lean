import ObjectOutline.Proofs.Json.Record
import ObjectOutline.Symbol.Decode
import ObjectOutline.Symbol.Metadata

/-! Metadata read back. Every symbol is what its own metadata decodes to: the names of the members that
are written are those that the reader asks for, and what is left out is what the reader takes to be
absent. -/
namespace ObjectOutline

open Json

theorem Property.readsBack : ReadsBack Property.read Property.toJson := by
  intro property
  rfl

theorem Property.readsBack_list : ReadsBack (readList Property.read) Property.listToJson :=
  Property.readsBack.list

-- The fields of a record are looked up one after the other among members with fixed names.
attribute [local simp] Record.require Record.getD List.lookup_cons Property.readAll readString
  readBool optionalMember

namespace ObjectHeader

/-- The header is read out of every record that has its members, whatever else the record has. -/
theorem readFields_of_find? {record : Record} (header : ObjectHeader)
    (h : ∀ name ∈ shape.fields, record.find? name = header.members.lookup name) :
    readFields record = .ok header := by
  have hId := readsBack_word32 header.id
  have hProperties := Property.readsBack_list header.properties
  cases header with
  | mk id name objectType target properties =>
      cases target <;> simp_all [readFields, members, shape, readOption, Except.map]

/-- The header has no members besides its own fields. -/
theorem lookup_members_of_not_mem (header : ObjectHeader) {name : String}
    (h : name ∉ shape.fields) : header.members.lookup name = none := by
  simp only [shape, List.mem_cons, List.not_mem_nil, or_false, not_or] at h
  cases hTarget : header.target <;> simp [members, hTarget, beq_false_of_ne, h]

end ObjectHeader

theorem TableField.readsBack : ReadsBack TableField.read TableField.toJson := by
  intro field
  have hProperties := Property.readsBack_list field.properties
  apply readRecord_object
  cases field with
  | mk controlType id name caption dataType source properties =>
      cases dataType <;> simp_all [readOption, Except.map]

theorem TableKey.readsBack : ReadsBack TableKey.read TableKey.toJson := by
  intro key
  have hFieldNames : readList readString (Json.strings key.fieldNames) = .ok key.fieldNames :=
    readsBack_string.list key.fieldNames
  have hProperties := Property.readsBack_list key.properties
  apply readRecord_object
  simp_all

theorem FieldGroup.readsBack : ReadsBack FieldGroup.read FieldGroup.toJson := by
  intro group
  have hProperties := Property.readsBack_list group.properties
  apply readRecord_object
  simp_all

theorem EnclosingControl.readsBack : ReadsBack EnclosingControl.read EnclosingControl.toJson := by
  intro control
  rfl

namespace PageControl

/-- A statement holds of every list of controls when it holds of none and passes from the controls in a
control, and from those behind it, to the list that starts with it. -/
theorem inductionAll {motive : List PageControl → Prop} (nil : motive [])
    (cons : ∀ control rest, motive control.controls → motive rest → motive (control :: rest)) :
    ∀ controls, motive controls
  | [] => nil
  | ⟨controlType, name, caption, sourceExpression, source, properties, separator, parent,
      controls⟩ :: rest =>
      cons ⟨controlType, name, caption, sourceExpression, source, properties, separator, parent,
        controls⟩ rest (inductionAll nil cons controls) (inductionAll nil cons rest)

/-- A control is read back when the controls in it are. -/
theorem read_toJson {control : PageControl}
    (h : readEach (listToJson control.controls) = .ok control.controls) :
    read control.toJson = .ok control := by
  have hProperties := Property.readsBack_list control.properties
  have hParent := EnclosingControl.readsBack.option (fun _ => Json.noConfusion)
  cases control with
  | mk controlType name caption sourceExpression source properties separator parent controls =>
      rw [toJson, read]
      apply readRecord_object
      cases parent <;> simp_all [readFields, readMember, readAll]

theorem readEach_listToJson (controls : List PageControl) :
    readEach (listToJson controls) = .ok controls := by
  induction controls using inductionAll with
  | nil => rfl
  | cons control rest ihInner ihRest =>
      rw [listToJson, readEach, read_toJson ihInner, ihRest]
      rfl

theorem readsBack_list : ReadsBack readAll (fun controls => .array (listToJson controls)) := by
  intro controls
  rw [readAll, readEach_listToJson]

end PageControl

namespace ObjectSymbol

/-- The record of a symbol: its kind, the members of its header, and what its kind adds. -/
def writtenRecord (kind : String) (header : ObjectHeader) (extra : List (String × Json)) : Record :=
  .named ObjectHeader.shape (("kind", .string kind) :: (header.members ++ extra))

variable {kind : String} {header : ObjectHeader} {extra : List (String × Json)}

theorem readFields_writtenRecord
    (hExtra : ∀ name ∈ ObjectHeader.shape.fields, extra.lookup name = none) :
    ObjectHeader.readFields (writtenRecord kind header extra) = .ok header := by
  apply ObjectHeader.readFields_of_find?
  intro name hName
  have hKind : name ≠ "kind" := by
    rintro rfl
    simp [ObjectHeader.shape] at hName
  rw [writtenRecord, Record.find?_named, List.lookup_cons, beq_false_of_ne hKind,
    List.lookup_append, hExtra name hName, Option.or_none]

/-- What a kind adds is found behind the header. -/
theorem getD_writtenRecord {α : Type} {default value : α} {read : Reader α} {name : String}
    {written : Json} (hKind : name ≠ "kind") (hHeader : name ∉ ObjectHeader.shape.fields)
    (hExtra : extra.lookup name = some written) (hRead : read written = .ok value) :
    (writtenRecord kind header extra).getD name default read = .ok value := by
  have hFind : (writtenRecord kind header extra).find? name = some written := by
    rw [writtenRecord, Record.find?_named, List.lookup_cons, beq_false_of_ne hKind,
      List.lookup_append, header.lookup_members_of_not_mem hHeader, hExtra, Option.none_or]
  rw [Record.getD, hFind]
  exact hRead

end ObjectSymbol

theorem Table.readFields_writtenRecord (table : Table) :
    readFields (ObjectSymbol.writtenRecord "table" table.header
      [("fields", .array (table.fields.map TableField.toJson)),
        ("keys", .array (table.keys.map TableKey.toJson)),
        ("fieldGroups", .array (table.fieldGroups.map FieldGroup.toJson))]) = .ok table := by
  have hFields := TableField.readsBack.list table.fields
  have hKeys := TableKey.readsBack.list table.keys
  have hFieldGroups := FieldGroup.readsBack.list table.fieldGroups
  rw [readFields, ObjectSymbol.readFields_writtenRecord (by simp [ObjectHeader.shape]), ok_bind,
    ObjectSymbol.getD_writtenRecord (by simp) (by simp [ObjectHeader.shape]) (by simp) hFields,
    ok_bind,
    ObjectSymbol.getD_writtenRecord (by simp) (by simp [ObjectHeader.shape]) (by simp) hKeys,
    ok_bind,
    ObjectSymbol.getD_writtenRecord (by simp) (by simp [ObjectHeader.shape]) (by simp) hFieldGroups,
    ok_bind]

theorem Page.readFields_writtenRecord (page : Page) :
    readFields (ObjectSymbol.writtenRecord "page" page.header
      [("controls", .array (PageControl.listToJson page.controls)),
        ("actions", .array (PageControl.listToJson page.actions))]) = .ok page := by
  have hControls := PageControl.readsBack_list page.controls
  have hActions := PageControl.readsBack_list page.actions
  rw [readFields, ObjectSymbol.readFields_writtenRecord (by simp [ObjectHeader.shape]), ok_bind,
    ObjectSymbol.getD_writtenRecord (by simp) (by simp [ObjectHeader.shape]) (by simp) hControls,
    ok_bind,
    ObjectSymbol.getD_writtenRecord (by simp) (by simp [ObjectHeader.shape]) (by simp) hActions,
    ok_bind]

namespace ObjectSymbol

/-- The kind comes first, so it decides what the rest is read as. -/
theorem read_object (kind : String) (header : ObjectHeader) (extra : List (String × Json)) :
    read (.object (("kind", .string kind) :: (header.members ++ extra))) =
      readMembers kind (("kind", .string kind) :: (header.members ++ extra)) := by
  rw [read, List.lookup_cons_self]
  rfl

theorem readsBack : ReadsBack read toJson := by
  intro symbol
  cases symbol with
  | table table =>
      rw [toJson, List.cons_append, read_object, readMembers]
      exact congrArg (Except.map ObjectSymbol.table) table.readFields_writtenRecord
  | page page =>
      rw [toJson, List.cons_append, read_object, readMembers]
      exact congrArg (Except.map ObjectSymbol.page) page.readFields_writtenRecord
  | unsupported header =>
      have hHeader : ObjectHeader.readFields (writtenRecord "unsupported" header []) = .ok header :=
        readFields_writtenRecord (fun _ _ => rfl)
      rw [toJson, ← List.append_nil header.members, read_object, readMembers]
      exact congrArg (Except.map ObjectSymbol.unsupported) hHeader

end ObjectSymbol
end ObjectOutline
