import InterfaceSchema.Proofs.Json.Token
import Mathlib.Data.List.DropRight

/-!
The texts of a JSON value, with blanks wherever they may stand between its tokens. Every such text
is read back as the value, up to integers that fit no 64-bit word.
-/

namespace InterfaceSchema

set_option autoImplicit false

namespace Json

mutual

/-- The value as it is read back: an integer that fits no word becomes a decimal. -/
def asRead : Json → Json
  | integer value => ofInteger value
  | array elements => array (asReadElements elements)
  | object members => object (asReadMembers members)
  | value => value

def asReadElements : List Json → List Json
  | [] => []
  | element :: rest => asRead element :: asReadElements rest

def asReadMembers : List (String × Json) → List (String × Json)
  | [] => []
  | (key, value) :: rest => (key, asRead value) :: asReadMembers rest

end

/-- The parts of a text. What comes behind an element or a member of a list goes up to the bracket
that closes the list. -/
inductive Part where
  | value (json : Json)
  | elements (later : List Json)
  | member (key : String) (value : Json)
  | members (later : List (String × Json))

/-- The texts of a part. The keys of an object differ; decimals have no text here. -/
inductive Writes : Part → List Char → Prop
  | blank {part : Part} {text : List Char} {character : Char} (blank : isBlank character = true)
      (written : Writes part text) : Writes part (character :: text)
  | null : Writes (.value .null) (atom .null)
  | bool (value : Bool) : Writes (.value (.bool value)) (atom (.bool value))
  | integer (value : Int) : Writes (.value (.integer value)) (atom (.integer value))
  | string (value : String) : Writes (.value (.string value)) (atom (.string value))
  | emptyArray : Writes (.value (.array [])) ['[', ']']
  | array {element : Json} {later : List Json} {text tail : List Char}
      (first : Writes (.value element) text) (rest : Writes (.elements later) tail) :
      Writes (.value (.array (element :: later))) ('[' :: text ++ tail)
  | emptyObject : Writes (.value (.object [])) ['{', '}']
  | object {key : String} {value : Json} {later : List (String × Json)} {text tail : List Char}
      (distinct : (key :: later.map Prod.fst).Nodup)
      (first : Writes (.member key value) text) (rest : Writes (.members later) tail) :
      Writes (.value (.object ((key, value) :: later))) ('{' :: text ++ tail)
  | lastElement : Writes (.elements []) [']']
  | nextElement {element : Json} {later : List Json} {text tail : List Char}
      (next : Writes (.value element) text) (rest : Writes (.elements later) tail) :
      Writes (.elements (element :: later)) (',' :: text ++ tail)
  | member {key : String} {value : Json} {text : List Char} (written : Writes (.value value) text) :
      Writes (.member key value) (quote key ++ ':' :: text)
  | lastMember : Writes (.members []) ['}']
  | nextMember {key : String} {value : Json} {later : List (String × Json)} {text tail : List Char}
      (next : Writes (.member key value) text) (rest : Writes (.members later) tail) :
      Writes (.members ((key, value) :: later)) (',' :: text ++ tail)

section Blanks

theorem skip_blank {character : Char} (blank : isBlank character = true) (input : List Char) :
    skipBlanks (character :: input) = skipBlanks input :=
  List.dropWhile_cons_of_pos blank

theorem skip_nothing {character : Char} (printed : isBlank character = false)
    (input : List Char) : skipBlanks (character :: input) = character :: input :=
  List.dropWhile_cons_of_neg (by simp [printed])

theorem skip_again (input : List Char) : skipBlanks (skipBlanks input) = skipBlanks input :=
  List.dropWhile_idempotent isBlank input

theorem blank_ends_number {character : Char} (blank : isBlank character = true)
    (rest : List Char) : EndsNumber (character :: rest) := by
  intro first same
  cases same
  simp only [isBlank, Bool.or_eq_true, beq_iff_eq] at blank
  rcases blank with ((rfl | rfl) | rfl) | rfl <;> decide

end Blanks

section Steps

def afterElement (fuel : Nat) (elements : List Json) (input : List Char) :
    Option (Json × List Char) :=
  match skipBlanks input with
  | ',' :: rest => readElements fuel elements rest
  | ']' :: rest => some (array elements.reverse, rest)
  | _ => none

def afterMember (fuel : Nat) (members : List (String × Json)) (input : List Char) :
    Option (Json × List Char) :=
  match skipBlanks input with
  | ',' :: rest => readMembers fuel members rest
  | '}' :: rest => some (object members.reverse, rest)
  | _ => none

theorem read_value_skipped (fuel : Nat) (input : List Char) :
    readValue fuel (skipBlanks input) = readValue fuel input := by
  cases fuel with
  | zero => rfl
  | succ fuel => rw [readValue, readValue, skip_again]

theorem read_members_skipped (fuel : Nat) (members : List (String × Json)) (input : List Char) :
    readMembers fuel members (skipBlanks input) = readMembers fuel members input := by
  cases fuel with
  | zero => rfl
  | succ fuel => rw [readMembers, readMembers, skip_again]

theorem read_elements_step {fuel : Nat} {input rest : List Char} {element : Json}
    (read : readValue fuel input = some (element, rest)) (elements : List Json) :
    readElements (fuel + 1) elements input = afterElement fuel (element :: elements) rest := by
  rw [readElements, read]
  rfl

theorem read_members_step {fuel : Nat} {key : String} {value : Json} {input rest : List Char}
    (read : readValue fuel input = some (value, rest)) (members : List (String × Json)) :
    readMembers (fuel + 1) members (quote key ++ ':' :: input) =
      afterMember fuel (putMember members key value) rest := by
  have shape : quote key ++ ':' :: input =
      '"' :: (key.toList.flatMap escape ++ '"' :: ':' :: input) := by
    simp only [quote, List.cons_append, List.append_assoc, List.nil_append]
  rw [shape, readMembers, skip_nothing rfl]
  simp only [read_quote, skip_nothing (show isBlank ':' = false from rfl), read]
  rfl

end Steps

section Starts

/-- Whether what a text starts with is a value or a key. -/
def Part.Opens : Part → Prop
  | value _ => True
  | elements _ => False
  | member _ _ => True
  | members _ => False

/-- The character is no blank and closes no list. -/
def Opening (character : Char) : Prop :=
  isBlank character = false ∧ character ≠ ']' ∧ character ≠ '}'

theorem number_start_ne {character found : Char}
    (starts : character = '-' ∨ character.isDigit = true)
    (stranger : found ≠ '-' ∧ found.isDigit = false) : character ≠ found := by
  rintro rfl
  rcases starts with rfl | digit
  · exact stranger.1 rfl
  · exact Bool.false_ne_true (stranger.2.symm.trans digit)

theorem opening_of_number {character : Char}
    (starts : character = '-' ∨ character.isDigit = true) : Opening character := by
  have other {found : Char} (stranger : found ≠ '-' ∧ found.isDigit = false) :
      character ≠ found := number_start_ne starts stranger
  refine ⟨?_, other (by decide), other (by decide)⟩
  simp only [isBlank, Bool.or_eq_false_iff, beq_eq_false_iff_ne]
  exact ⟨⟨⟨other (by decide), other (by decide)⟩, other (by decide)⟩, other (by decide)⟩

theorem opens_with_no_bracket {part : Part} {text : List Char} (written : Writes part text)
    (opens : part.Opens) (rest : List Char) :
    ∃ first later, skipBlanks (text ++ rest) = first :: later ∧ Opening first := by
  have starts {first : Char} (later : List Char) (opening : Opening first) :
      ∃ found left, skipBlanks (first :: later) = found :: left ∧ Opening found :=
    ⟨first, later, skip_nothing opening.1 later, opening⟩
  induction written with
  | blank blank _ ih =>
      rw [List.cons_append, skip_blank blank]
      exact ih opens
  | null => exact starts _ (by unfold Opening; decide)
  | bool value =>
      cases value with
      | true | false => exact starts _ (by unfold Opening; decide)
  | integer value =>
      obtain ⟨first, later, same, number⟩ := int_text_start value
      rw [atom, same]
      exact starts _ (opening_of_number number)
  | string value => exact starts _ (by unfold Opening; decide)
  | emptyArray | array | emptyObject | object | member =>
      exact starts _ (by unfold Opening; decide)
  | lastElement | nextElement | lastMember | nextMember => exact opens.elim

/-- What comes behind an element or a member is no part of a number. -/
theorem later_ends_number {part : Part} {text : List Char} (written : Writes part text)
    (later : ¬ part.Opens) (rest : List Char) : EndsNumber (text ++ rest) := by
  cases written with
  | blank blank _ => exact blank_ends_number blank _
  | null | bool | integer | string | emptyArray | array | emptyObject | object | member =>
      exact absurd trivial later
  | lastElement | nextElement | lastMember | nextMember =>
      intro character same
      cases same
      decide

end Starts

section Reading

theorem read_value_number {first : Char} (starts : first = '-' ∨ first.isDigit = true)
    (fuel : Nat) (later : List Char) :
    readValue (fuel + 1) (first :: later) = readNumber (first :: later) := by
  have other {found : Char} {rest : List Char} (same : first :: later = found :: rest)
      (stranger : found ≠ '-' ∧ found.isDigit = false) : False :=
    number_start_ne starts stranger (List.cons.inj same).1
  rw [readValue, skip_nothing (opening_of_number starts).1]
  split
  -- The letters of a word, a quote and the opening brackets start no number.
  iterate 6
    · rename_i same
      exact (other same (by decide)).elim
  · rfl

theorem read_array_start {first : Char} {input later : List Char}
    (start : skipBlanks input = first :: later) (opening : Opening first) (fuel : Nat) :
    readValue (fuel + 1) ('[' :: input) = readElements fuel [] (skipBlanks input) := by
  rw [readValue, skip_nothing rfl]
  simp only [start]
  split
  · rename_i same
    exact absurd (List.cons.inj same).1 opening.2.1
  · rfl

theorem read_object_start {first : Char} {input later : List Char}
    (start : skipBlanks input = first :: later) (opening : Opening first) (fuel : Nat) :
    readValue (fuel + 1) ('{' :: input) = readMembers fuel [] (skipBlanks input) := by
  rw [readValue, skip_nothing rfl]
  simp only [start]
  split
  · rename_i same
    exact absurd (List.cons.inj same).1 opening.2.2
  · rfl

/-- A key that is not set yet comes behind the others. -/
theorem put_fresh {members : List (String × Json)} {key : String}
    (fresh : key ∉ members.map Prod.fst) (value : Json) :
    putMember members key value = (key, value) :: members := by
  have unset : members.any (fun member => member.1 == key) = false := by
    rw [List.any_eq_false]
    intro member among same
    exact fresh (List.mem_map.mpr ⟨member, among, eq_of_beq same⟩)
  rw [putMember, unset]
  rfl

/-- With fuel for its length the text of a part is read as the part, and what follows it is left
over. -/
def Part.ReadFrom : Part → List Char → Prop
  | value json, text => ∀ (fuel : Nat) (rest : List Char), 2 * text.length < fuel →
      EndsNumber rest → readValue fuel (text ++ rest) = some (asRead json, rest)
  | elements later, text => ∀ (fuel : Nat) (before : List Json) (rest : List Char),
      2 * text.length ≤ fuel →
      afterElement fuel before (text ++ rest) =
        some (array (before.reverse ++ asReadElements later), rest)
  | member key json, text => ∀ (fuel : Nat) (before : List (String × Json)) (rest : List Char),
      2 * text.length ≤ fuel → EndsNumber rest →
      readMembers (fuel + 1) before (text ++ rest) =
        afterMember fuel (putMember before key (asRead json)) rest
  | members later, text => ∀ (fuel : Nat) (before : List (String × Json)) (rest : List Char),
      2 * text.length ≤ fuel → ((before.map Prod.fst).reverse ++ later.map Prod.fst).Nodup →
      afterMember fuel before (text ++ rest) =
        some (object (before.reverse ++ asReadMembers later), rest)

theorem Part.read_from_blank {part : Part} {text : List Char} {character : Char}
    (blank : isBlank character = true) (read : part.ReadFrom text) :
    part.ReadFrom (character :: text) := by
  cases part with
  | value json =>
      intro fuel rest enough ends
      rw [List.length_cons] at enough
      rw [← read_value_skipped, List.cons_append, skip_blank blank, read_value_skipped]
      exact read fuel rest (by omega) ends
  | elements later =>
      intro fuel before rest enough
      rw [List.length_cons] at enough
      rw [afterElement, List.cons_append, skip_blank blank]
      exact read fuel before rest (by omega)
  | member key json =>
      intro fuel before rest enough ends
      rw [List.length_cons] at enough
      rw [← read_members_skipped, List.cons_append, skip_blank blank, read_members_skipped]
      exact read fuel before rest (by omega) ends
  | members later =>
      intro fuel before rest enough distinct
      rw [List.length_cons] at enough
      rw [afterMember, List.cons_append, skip_blank blank]
      exact read fuel before rest (by omega) distinct

theorem read_atom_integer (value : Int) : (Part.value (integer value)).ReadFrom
    (atom (integer value)) := by
  intro fuel rest enough ends
  obtain ⟨first, later, same, number⟩ := int_text_start value
  have read := read_integer value ends
  cases fuel with
  | zero => cases enough
  | succ fuel =>
      rw [atom, same, List.cons_append, read_value_number number, ← List.cons_append, ← same,
        read, asRead]

theorem read_atom_string (value : String) :
    (Part.value (string value)).ReadFrom (atom (string value)) := by
  intro fuel rest enough _
  have shape : atom (string value) ++ rest =
      '"' :: (value.toList.flatMap escape ++ '"' :: rest) := by
    simp only [atom, quote, List.cons_append, List.append_assoc, List.nil_append]
  cases fuel with
  | zero => cases enough
  | succ fuel =>
      rw [shape, readValue, skip_nothing rfl]
      simp only [read_quote]
      rfl

theorem read_array {element : Json} {later : List Json} {text tail : List Char}
    (first : Writes (.value element) text) (rest : Writes (.elements later) tail)
    (readFirst : (Part.value element).ReadFrom text)
    (readRest : (Part.elements later).ReadFrom tail) :
    (Part.value (array (element :: later))).ReadFrom ('[' :: text ++ tail) := by
  intro fuel after enough _
  rw [List.length_append, List.length_cons] at enough
  obtain ⟨fuel, rfl⟩ : ∃ left, fuel = left + 2 := ⟨fuel - 2, by omega⟩
  obtain ⟨character, others, start, opening⟩ :=
    opens_with_no_bracket first trivial (tail ++ after)
  have ends := later_ends_number rest id after
  have read := readFirst fuel (tail ++ after) (by omega) ends
  rw [← read_value_skipped] at read
  rw [List.cons_append, List.cons_append, List.append_assoc, read_array_start start opening,
    read_elements_step read, readRest fuel [asRead element] after (by omega)]
  rfl

theorem read_next_element {element : Json} {later : List Json} {text tail : List Char}
    (rest : Writes (.elements later) tail) (readNext : (Part.value element).ReadFrom text)
    (readRest : (Part.elements later).ReadFrom tail) :
    (Part.elements (element :: later)).ReadFrom (',' :: text ++ tail) := by
  intro fuel before after enough
  rw [List.length_append, List.length_cons] at enough
  obtain ⟨fuel, rfl⟩ : ∃ left, fuel = left + 1 := ⟨fuel - 1, by omega⟩
  have ends := later_ends_number rest id after
  have read := readNext fuel (tail ++ after) (by omega) ends
  rw [afterElement, List.cons_append, List.cons_append, List.append_assoc, skip_nothing rfl]
  simp only [read_elements_step read, readRest fuel _ after (show 2 * tail.length ≤ fuel by omega),
    List.reverse_cons, List.append_assoc]
  rfl

theorem read_object {key : String} {value : Json} {later : List (String × Json)}
    {text tail : List Char} (distinct : (key :: later.map Prod.fst).Nodup)
    (first : Writes (.member key value) text) (rest : Writes (.members later) tail)
    (readFirst : (Part.member key value).ReadFrom text)
    (readRest : (Part.members later).ReadFrom tail) :
    (Part.value (object ((key, value) :: later))).ReadFrom ('{' :: text ++ tail) := by
  intro fuel after enough _
  rw [List.length_append, List.length_cons] at enough
  obtain ⟨fuel, rfl⟩ : ∃ left, fuel = left + 2 := ⟨fuel - 2, by omega⟩
  obtain ⟨character, others, start, opening⟩ :=
    opens_with_no_bracket first trivial (tail ++ after)
  have ends := later_ends_number rest id after
  have read := readFirst fuel [] (tail ++ after) (by omega) ends
  rw [← read_members_skipped] at read
  rw [List.cons_append, List.cons_append, List.append_assoc, read_object_start start opening,
    read, put_fresh List.not_mem_nil, readRest fuel [(key, asRead value)] after (by omega) distinct]
  rfl

theorem read_next_member {key : String} {value : Json} {later : List (String × Json)}
    {text tail : List Char} (rest : Writes (.members later) tail)
    (readNext : (Part.member key value).ReadFrom text)
    (readRest : (Part.members later).ReadFrom tail) :
    (Part.members ((key, value) :: later)).ReadFrom (',' :: text ++ tail) := by
  intro fuel before after enough distinct
  rw [List.length_append, List.length_cons] at enough
  obtain ⟨fuel, rfl⟩ : ∃ left, fuel = left + 1 := ⟨fuel - 1, by omega⟩
  have ends := later_ends_number rest id after
  have read := readNext fuel before (tail ++ after) (by omega) ends
  have fresh : key ∉ before.map Prod.fst := by
    intro set
    have apart := List.nodup_append.mp distinct
    exact apart.2.2 key (List.mem_reverse.mpr set) key List.mem_cons_self rfl
  have moved : ((((key, asRead value) :: before).map Prod.fst).reverse ++
      later.map Prod.fst).Nodup := by
    rw [List.map_cons, List.reverse_cons, List.append_assoc]
    exact distinct
  rw [afterMember, List.cons_append, List.cons_append, List.append_assoc, skip_nothing rfl]
  simp only [read, put_fresh fresh, readRest fuel _ after (show 2 * tail.length ≤ fuel by omega)
    moved, List.reverse_cons, List.append_assoc]
  rfl

theorem Writes.read {part : Part} {text : List Char} (written : Writes part text) :
    part.ReadFrom text := by
  induction written with
  | blank blank _ ih => exact Part.read_from_blank blank ih
  | null | emptyArray | emptyObject =>
      intro fuel rest enough _
      cases fuel with
      | zero => cases enough
      | succ fuel =>
          rw [readValue]
          rfl
  | bool value =>
      intro fuel rest enough _
      cases fuel with
      | zero => cases enough
      | succ fuel =>
          rw [readValue]
          cases value with
          | true | false => rfl
  | integer value => exact read_atom_integer value
  | string value => exact read_atom_string value
  | array first rest readFirst readRest => exact read_array first rest readFirst readRest
  | object distinct first rest readFirst readRest =>
      exact read_object distinct first rest readFirst readRest
  | lastElement =>
      intro fuel before rest _
      rw [asReadElements, List.append_nil]
      rfl
  | nextElement _ rest readNext readRest => exact read_next_element rest readNext readRest
  | @member key json text _ read =>
      intro fuel before rest enough ends
      rw [List.length_append, List.length_cons] at enough
      rw [List.append_assoc, List.cons_append]
      exact read_members_step (read fuel rest (by omega) ends) before
  | lastMember =>
      intro fuel before rest _ _
      rw [asReadMembers, List.append_nil]
      rfl
  | nextMember _ rest readNext readRest => exact read_next_member rest readNext readRest

/-- Every text of a value is read as the value. -/
theorem parse_written {json : Json} {text : String} (written : Writes (.value json) text.toList) :
    parse? text = some (asRead json) := by
  have ends : EndsNumber [] := fun _ absent => by cases absent
  have read := written.read (2 * text.toList.length + 2) [] (by omega) ends
  rw [List.append_nil] at read
  rw [parse?, read]
  rfl

end Reading

end Json

end InterfaceSchema
