import InterfaceSchema.Proofs.Json.Text

/-!
What both printers write is a text of the value, so that it is read back as the value. A value is
plain if it holds no decimal and no object of it repeats a key; two plain values with the same text
are equal.
-/

namespace InterfaceSchema

set_option autoImplicit false

namespace Json

/-- Values without decimals and repeated keys, whose integers are all allowed. -/
inductive Plain (allowed : Int → Prop) : Json → Prop
  | null : Plain allowed .null
  | bool (value : Bool) : Plain allowed (.bool value)
  | integer {value : Int} (fits : allowed value) : Plain allowed (.integer value)
  | string (value : String) : Plain allowed (.string value)
  | array {elements : List Json} (each : ∀ element ∈ elements, Plain allowed element) :
      Plain allowed (.array elements)
  | object {members : List (String × Json)} (distinct : (members.map Prod.fst).Nodup)
      (each : ∀ member ∈ members, Plain allowed member.2) : Plain allowed (.object members)

/-- The integer fits a 64-bit word, signed or unsigned. -/
def FitsWord (value : Int) : Prop := Int64.minValue.toInt ≤ value ∧ value < UInt64.size

theorem Plain.weaken {allowed wider : Int → Prop} {json : Json} (plain : Plain allowed json)
    (weaker : ∀ value : Int, allowed value → wider value) : Plain wider json := by
  induction plain with
  | null => exact .null
  | bool value => exact .bool value
  | integer fits => exact .integer (weaker _ fits)
  | string value => exact .string value
  | array _ each => exact .array each
  | object distinct _ each => exact .object distinct each

section Parts

variable {allowed : Int → Prop}

@[simp]
theorem plain_null : Plain allowed .null := .null

@[simp]
theorem plain_bool (value : Bool) : Plain allowed (.bool value) := .bool value

@[simp]
theorem plain_string (value : String) : Plain allowed (.string value) := .string value

@[simp]
theorem plain_integer_iff {value : Int} : Plain allowed (.integer value) ↔ allowed value := by
  constructor
  · intro plain
    cases plain with
    | integer fits => exact fits
  · exact .integer

@[simp]
theorem plain_array_iff {elements : List Json} :
    Plain allowed (.array elements) ↔ ∀ element ∈ elements, Plain allowed element := by
  constructor
  · intro plain
    cases plain with
    | array each => exact each
  · exact .array

@[simp]
theorem plain_object_iff {members : List (String × Json)} :
    Plain allowed (.object members) ↔
      (members.map Prod.fst).Nodup ∧ ∀ member ∈ members, Plain allowed member.2 := by
  constructor
  · intro plain
    cases plain with
    | object distinct each => exact ⟨distinct, each⟩
  · rintro ⟨distinct, each⟩
    exact .object distinct each

end Parts

section Printing

theorem Writes.blanks {part : Part} {text : List Char} (written : Writes part text)
    {blanks : List Char} (all : ∀ character ∈ blanks, isBlank character = true) :
    Writes part (blanks ++ text) := by
  induction blanks with
  | nil => exact written
  | cons character rest ih =>
      have blank := all character List.mem_cons_self
      exact .blank blank (ih fun later member => all later (List.mem_cons_of_mem _ member))

theorem Writes.on_new_line {part : Part} {text : List Char} (written : Writes part text)
    (level : Nat) : Writes part (newline level ++ text) := by
  apply written.blanks
  intro character member
  rcases List.mem_cons.mp member with rfl | indentation
  · rfl
  · rw [(List.mem_replicate.mp indentation).2]
    rfl

variable {allowed : Int → Prop}

theorem compact_elements_written {elements : List Json}
    (each : ∀ element ∈ elements, Writes (.value element) (compactChars element)) :
    Writes (.elements elements) (compactElements elements) := by
  induction elements with
  | nil => exact .lastElement
  | cons element rest ih =>
      rw [compactElements]
      have next := each element List.mem_cons_self
      exact .nextElement next (ih fun later member => each later (List.mem_cons_of_mem _ member))

theorem compact_members_written {members : List (String × Json)}
    (each : ∀ member ∈ members, Writes (.value member.2) (compactChars member.2)) :
    Writes (.members members) (compactMembers members) := by
  induction members with
  | nil => exact .lastMember
  | cons member rest ih =>
      rcases member with ⟨key, value⟩
      have next : Writes (.member key value) (quote key ++ ':' :: compactChars value) :=
        .member (each (key, value) List.mem_cons_self)
      have later := ih fun other member => each other (List.mem_cons_of_mem _ member)
      rw [compactMembers, List.cons_append]
      exact .nextMember next later

theorem compact_written {json : Json} (plain : Plain allowed json) :
    Writes (.value json) (compactChars json) := by
  induction plain with
  | null => exact .null
  | bool value => exact .bool value
  | integer _ => exact .integer _
  | string value => exact .string value
  | @array elements _ each =>
      cases elements with
      | nil => exact .emptyArray
      | cons element rest =>
          rw [compactChars]
          have first := each element List.mem_cons_self
          exact .array first (compact_elements_written fun later member =>
            each later (List.mem_cons_of_mem _ member))
  | @object members distinct _ each =>
      cases members with
      | nil => exact .emptyObject
      | cons member rest =>
          rcases member with ⟨key, value⟩
          have first : Writes (.member key value) (quote key ++ ':' :: compactChars value) :=
            .member (each (key, value) List.mem_cons_self)
          have later := compact_members_written fun other member =>
            each other (List.mem_cons_of_mem _ member)
          rw [compactChars, List.cons_append]
          exact .object distinct first later

theorem pretty_elements_written (level : Nat) {elements : List Json}
    (each : ∀ element ∈ elements,
      Writes (.value element) (prettyChars (level + 1) element)) :
    Writes (.elements elements) (prettyElements level elements) := by
  induction elements with
  | nil => exact Writes.lastElement.on_new_line level
  | cons element rest ih =>
      have next := (each element List.mem_cons_self).on_new_line (level + 1)
      rw [prettyElements, List.cons_append]
      exact .nextElement next (ih fun later member => each later (List.mem_cons_of_mem _ member))

/-- A member on a line of its own, with a blank behind the colon. -/
theorem pretty_member_written (level : Nat) (key : String) {value : Json} {text : List Char}
    (written : Writes (.value value) text) :
    Writes (.member key value) (newline level ++ quote key ++ ':' :: ' ' :: text) := by
  rw [List.append_assoc]
  exact Writes.on_new_line (.member (.blank rfl written)) level

theorem pretty_members_written (level : Nat) {members : List (String × Json)}
    (each : ∀ member ∈ members,
      Writes (.value member.2) (prettyChars (level + 1) member.2)) :
    Writes (.members members) (prettyMembers level members) := by
  induction members with
  | nil => exact Writes.lastMember.on_new_line level
  | cons member rest ih =>
      rcases member with ⟨key, value⟩
      have next := pretty_member_written (level + 1) key (each (key, value) List.mem_cons_self)
      have later := ih fun other member => each other (List.mem_cons_of_mem _ member)
      rw [prettyMembers, List.cons_append, List.cons_append]
      exact .nextMember next later

theorem pretty_written {json : Json} (plain : Plain allowed json) (level : Nat) :
    Writes (.value json) (prettyChars level json) := by
  induction plain generalizing level with
  | null => exact .null
  | bool value => exact .bool value
  | integer _ => exact .integer _
  | string value => exact .string value
  | @array elements _ each =>
      cases elements with
      | nil => exact .emptyArray
      | cons element rest =>
          have first := (each element List.mem_cons_self (level + 1)).on_new_line (level + 1)
          have later := pretty_elements_written level fun other member =>
            each other (List.mem_cons_of_mem _ member) (level + 1)
          rw [prettyChars, List.cons_append]
          exact .array first later
  | @object members distinct _ each =>
      cases members with
      | nil => exact .emptyObject
      | cons member rest =>
          rcases member with ⟨key, value⟩
          have first := pretty_member_written (level + 1) key
            (each (key, value) List.mem_cons_self (level + 1))
          have later := pretty_members_written level fun other member =>
            each other (List.mem_cons_of_mem _ member) (level + 1)
          rw [prettyChars, List.cons_append, List.cons_append]
          exact .object distinct first later

theorem parse_compact {json : Json} (plain : Plain allowed json) :
    parse? json.compact = some (asRead json) := by
  apply parse_written
  rw [compact, String.toList_ofList]
  exact compact_written plain

theorem parse_pretty {json : Json} (plain : Plain allowed json) :
    parse? json.pretty = some (asRead json) := by
  apply parse_written
  rw [pretty, String.toList_ofList]
  exact pretty_written plain 0

end Printing

section Reading

theorem as_read_elements_eq (elements : List Json) :
    asReadElements elements = elements.map asRead := by
  induction elements with
  | nil => rfl
  | cons element rest ih => rw [asReadElements, ih, List.map_cons]

theorem as_read_members_eq (members : List (String × Json)) :
    asReadMembers members = members.map fun member => (member.1, asRead member.2) := by
  induction members with
  | nil => rfl
  | cons member rest ih => rw [asReadMembers, ih, List.map_cons]

/-- A value whose integers fit a word is read back as it is. -/
theorem as_read_of_fits {json : Json} (plain : Plain FitsWord json) : asRead json = json := by
  induction plain with
  | null | bool | string => rfl
  | integer fits => exact if_pos fits
  | array _ each =>
      rw [asRead, as_read_elements_eq, List.map_congr_left each, List.map_id']
  | @object members _ _ each =>
      have same : members.map (fun member => (member.1, asRead member.2)) = members.map id :=
        List.map_congr_left fun member among => congrArg (Prod.mk member.1) (each member among)
      rw [asRead, as_read_members_eq, same, List.map_id]

theorem of_integer_injective {left right : Int} (same : ofInteger left = ofInteger right) :
    left = right := by
  simp only [ofInteger] at same
  split at same
  · split at same
    · exact Json.integer.inj same
    · cases same
  · split at same
    · cases same
    · obtain ⟨signs, digits, _⟩ := Decimal.mk.inj (Json.decimal.inj same)
      have negative : left < 0 ↔ right < 0 := decide_eq_decide.mp signs
      omega

theorem list_eq_of_map {Item Image : Type} {view : Item → Image} {left right : List Item}
    (each : ∀ item ∈ left, ∀ other ∈ right, view item = view other → item = other)
    (same : left.map view = right.map view) : left = right := by
  induction left generalizing right with
  | nil => exact (List.map_eq_nil_iff.mp same.symm).symm
  | cons item rest ih =>
      cases right with
      | nil => cases same
      | cons other others =>
          obtain ⟨first, later⟩ := List.cons.inj same
          have heads := each item List.mem_cons_self other List.mem_cons_self first
          have tails := ih (fun found member next among =>
            each found (List.mem_cons_of_mem _ member) next (List.mem_cons_of_mem _ among)) later
          rw [heads, tails]

variable {allowed : Int → Prop}

/-- Nothing but an integer is read like one, and no other integer is. -/
theorem integer_of_read {json : Json} (plain : Plain allowed json) {value : Int}
    (same : asRead json = ofInteger value) : json = integer value := by
  cases plain with
  | integer => exact congrArg Json.integer (of_integer_injective same)
  | null | bool | string | array | object =>
      simp only [asRead, ofInteger] at same
      split at same <;> cases same

theorem as_read_injective {left right : Json} (plainLeft : Plain allowed left)
    (plainRight : Plain allowed right) (same : asRead left = asRead right) : left = right := by
  induction plainLeft generalizing right with
  | null =>
      cases plainRight with
      | null => rfl
      | integer => exact integer_of_read (Plain.null : Plain allowed .null) same
      | bool | string | array | object => cases same
  | bool value =>
      cases plainRight with
      | bool => exact same
      | integer => exact integer_of_read (Plain.bool value : Plain allowed _) same
      | null | string | array | object => cases same
  | integer => exact (integer_of_read plainRight same.symm).symm
  | string value =>
      cases plainRight with
      | string => exact same
      | integer => exact integer_of_read (Plain.string value : Plain allowed _) same
      | null | bool | array | object => cases same
  | array plain each =>
      cases plainRight with
      | array eachRight =>
          rw [asRead, asRead, as_read_elements_eq, as_read_elements_eq] at same
          have elements := list_eq_of_map (fun element member other among alike =>
            each element member (eachRight other among) alike) (Json.array.inj same)
          rw [elements]
      | integer => exact integer_of_read (.array plain) same
      | null | bool | string | object => cases same
  | object distinct plain each =>
      cases plainRight with
      | object _ eachRight =>
          rw [asRead, asRead, as_read_members_eq, as_read_members_eq] at same
          have members := list_eq_of_map (fun member among other amongRight alike => by
            obtain ⟨keys, values⟩ := Prod.mk.inj alike
            exact Prod.ext keys (each member among (eachRight other amongRight) values))
            (Json.object.inj same)
          rw [members]
      | integer => exact integer_of_read (.object distinct plain) same
      | null | bool | string | array => cases same

theorem pretty_injective {left right : Json} (plainLeft : Plain allowed left)
    (plainRight : Plain allowed right) (same : left.pretty = right.pretty) : left = right := by
  have readLeft := parse_pretty plainLeft
  rw [same, parse_pretty plainRight] at readLeft
  exact as_read_injective plainLeft plainRight (Option.some.inj readLeft).symm

end Reading

end Json

end InterfaceSchema
