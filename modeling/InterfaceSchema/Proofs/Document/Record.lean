import InterfaceSchema.Document.Encode
import InterfaceSchema.Json.Shape

/-!
Records as objects of JSON: what a field is read as where the object holds it and where it does
not, and what holds of everything that a reader gives.
-/

namespace InterfaceSchema

set_option autoImplicit false

variable {α β : Type}

theorem bind_ok {Error : Type} {first : Except Error α} {next : α → Except Error β} {result : β}
    (done : first >>= next = .ok result) :
    ∃ value, first = .ok value ∧ next value = .ok result := by
  cases first with
  | error error => cases done
  | ok value => exact ⟨value, rfl, done⟩

@[simp]
theorem ok_bind {Error : Type} (value : α) (next : α → Except Error β) :
    ((.ok value : Except Error α) >>= next) = next value :=
  rfl

@[simp]
theorem pure_ok {Error : Type} (value : α) : (pure value : Except Error α) = .ok value := rfl

@[simp]
theorem map_ok {Error : Type} (value : α) (view : α → β) :
    (.ok value : Except Error α).map view = .ok (view value) :=
  rfl

namespace Json

@[simp]
theorem read_text_written (value : String) : readText (.string value) = .ok value := rfl

@[simp]
theorem read_bool_written (value : Bool) : readBool (.bool value) = .ok value := rfl

/-- Only null stands for an absent value. -/
@[simp]
theorem read_option_present {read : Json → Except ShapeError α} {json : Json}
    (present : json ≠ .null) : readOption read json = (read json).map some := by
  cases json with
  | null => exact absurd rfl present
  | bool | integer | decimal | string | array | object => rfl

theorem read_present {read : Json → Except ShapeError α} {json : Json} {value : α}
    (present : json ≠ .null) (done : read json = .ok value) :
    readOption read json = .ok (some value) := by
  rw [read_option_present present, done, map_ok]

@[simp]
theorem read_int64_written (value : Int64) : readInt64 (.integer value.toInt) = .ok value := by
  rw [readInt64, if_pos ⟨value.minValue_le_toInt, value.toInt_le⟩, Int64.ofInt_toInt]

theorem read_list_written {read : Json → Except ShapeError α} {encode : α → Json}
    {values : List α} (each : ∀ value ∈ values, read (encode value) = .ok value) :
    readList read (ofList encode values) = .ok values := by
  rw [ofList, readList]
  induction values with
  | nil => rfl
  | cons value rest ih =>
      have later := ih fun other member => each other (List.mem_cons_of_mem _ member)
      rw [List.map_cons, List.mapM_cons, each value List.mem_cons_self, later]
      rfl

@[simp]
theorem read_texts (values : List String) : readList readText (ofTexts values) = .ok values :=
  read_list_written fun (value : String) (_ : value ∈ values) => read_text_written value

@[simp]
theorem read_present_texts (values : List String) :
    readOption (readList readText) (ofTexts values) = .ok (some values) :=
  read_present Json.noConfusion (read_texts values)

/-- Whatever a reader gives has the property. -/
def Yields (read : Json → Except ShapeError α) (holds : α → Prop) : Prop :=
  ∀ {json : Json} {value : α}, read json = .ok value → holds value

section Readers

variable {read : Json → Except ShapeError α} {holds : α → Prop}

theorem Yields.given (yields : Yields read holds) {json : Json} {found : Option α}
    (done : (read json).map some = .ok found) : ∀ value ∈ found, holds value := by
  intro value present
  cases result : read json with
  | error error =>
      rw [result] at done
      cases done
  | ok given =>
      rw [result] at done
      cases done
      cases present
      exact yields result

theorem Yields.option (yields : Yields read holds) :
    Yields (readOption read) fun found => ∀ value ∈ found, holds value := by
  intro json found done
  unfold readOption at done
  split at done
  · cases done
    intro value absent
    cases absent
  · exact yields.given done

theorem Yields.elements (yields : Yields read holds) {elements : List Json} {values : List α}
    (done : elements.mapM read = .ok values) : ∀ value ∈ values, holds value := by
  induction elements generalizing values with
  | nil =>
      cases done
      exact List.forall_mem_nil _
  | cons element rest ih =>
      rw [List.mapM_cons] at done
      obtain ⟨value, first, remaining⟩ := bind_ok done
      obtain ⟨others, later, ended⟩ := bind_ok remaining
      cases ended
      exact List.forall_mem_cons.mpr ⟨yields first, ih later⟩

theorem Yields.list (yields : Yields read holds) :
    Yields (readList read) fun values => ∀ value ∈ values, holds value := by
  intro json values done
  unfold readList at done
  split at done
  · exact yields.elements done
  · cases done

/-- A list that may be left out is empty then. -/
theorem listed_holds {found : Option (List α)}
    (given : ∀ values ∈ found, ∀ value ∈ values, holds value) :
    ∀ value ∈ found.getD [], holds value := by
  cases found with
  | none => exact List.forall_mem_nil _
  | some values => exact given values rfl

end Readers

end Json

namespace WrittenRecord

/-- The record that an object is taken apart as. -/
def ofMembers (record : String) (fields : List String) (members : List (String × Json)) :
    WrittenRecord :=
  ⟨record, fields, none, members⟩

section Objects

variable {record : String} {fields : List String} {members : List (String × Json)}

@[simp]
theorem of_object :
    ofJson record fields (.object members) = .ok (ofMembers record fields members) :=
  rfl

@[simp]
theorem field_of_members (name : String) (read : Json → Except ShapeError α) :
    (ofMembers record fields members).field name read =
      match members.lookup name with
      | some value => (read value).map some
      | none => .ok none :=
  rfl

/-- An object whose fields are all in order passes the check. -/
@[simp]
theorem check_of_members {problems : List (String × Option ShapeError)}
    (quiet : ∀ entry ∈ problems, entry.2 = none) :
    (ofMembers record fields members).check problems = .ok () := by
  unfold check
  rw [List.filterMap_eq_nil_iff.mpr]
  · rfl
  · rintro ⟨name, problem⟩ member
    exact congrArg (Option.map fun error => (name, error)) (quiet (name, problem) member)

@[simp]
theorem require_ok (written : WrittenRecord) (name : String) (value : α) :
    written.require name (.ok (some value)) = .ok value :=
  rfl

@[simp]
theorem problem_ok (value : α) : problem (.ok value : Except ShapeError α) = none := rfl

end Objects

section Fields

variable {written : WrittenRecord} {name : String} {read : Json → Except ShapeError α}
  {holds : α → Prop}

theorem field_holds (yields : Json.Yields read holds) {found : Option α}
    (done : written.field name read = .ok found) : ∀ value ∈ found, holds value := by
  unfold field at done
  split at done
  · exact yields.given done
  · cases done
    intro value absent
    cases absent

theorem require_holds (yields : Json.Yields read holds) {value : α}
    (done : written.require name (written.field name read) = .ok value) : holds value := by
  obtain ⟨found, given, ended⟩ := bind_ok done
  cases found with
  | none => cases ended
  | some value =>
      cases ended
      exact field_holds yields given value rfl

end Fields

end WrittenRecord

end InterfaceSchema
