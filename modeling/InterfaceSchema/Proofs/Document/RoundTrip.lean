import InterfaceSchema.Document.Decode
import InterfaceSchema.Proofs.Document.Record

/-!
Every record of a document is read back from its own JSON form. A literal has to be held as it
would be read: as a signed word only if it is negative. A literal that was read is held so.
-/

namespace InterfaceSchema

set_option autoImplicit false

section Variants

@[simp]
theorem CallbackStyle.of_json_text (style : CallbackStyle) :
    ofJson (.string style.text) = .ok style := by
  cases style <;> rfl

@[simp]
theorem Ownership.of_json_text (ownership : Ownership) :
    ofJson (.string ownership.text) = .ok ownership := by
  cases ownership <;> rfl

@[simp]
theorem Pointer.of_json_text (pointer : Pointer) : ofJson (.string pointer.text) = .ok pointer := by
  cases pointer <;> rfl

@[simp]
theorem StructRole.of_json_text (role : StructRole) : ofJson (.string role.text) = .ok role := by
  rcases role with direction | direction | _
  · cases direction <;> rfl
  · cases direction <;> rfl
  · rfl

@[simp]
theorem MaxSymbol.of_json_text (name : MaxSymbol) : ofJson (.string name.text) = .ok name := by
  cases name <;> rfl

end Variants

namespace Literal

/-- The literal is held as it would be read: a word that is not negative is unsigned. -/
def Canonical : Literal → Prop
  | signed value => value < 0
  | _ => True

instance : DecidablePred Canonical
  | unsigned _ => isTrue trivial
  | signed value => inferInstanceAs (Decidable (value < 0))
  | symbol _ => isTrue trivial

theorem of_json_to_json {literal : Literal} (canonical : literal.Canonical) :
    ofJson literal.toJson = .ok literal := by
  cases literal with
  | unsigned value =>
      have fits : (0 : Int) ≤ (value.toNat : Int) ∧ (value.toNat : Int) < UInt64.size :=
        ⟨Int.natCast_nonneg _, Int.ofNat_lt.mpr value.toNat_lt_size⟩
      rw [toJson, ofJson, if_pos fits, Int.toNat_natCast, UInt64.ofNat_toNat]
  | signed value =>
      have negative : value.toInt < 0 := Int64.lt_iff_toInt_lt.mp canonical
      have unfit : ¬ (0 ≤ value.toInt ∧ value.toInt < UInt64.size) := by omega
      rw [toJson, ofJson, if_neg unfit, if_pos ⟨Int64.minValue_le_toInt value, negative⟩,
        Int64.ofInt_toInt]
  | symbol name => simp [toJson, ofJson]

theorem of_json_present {literal : Literal} (canonical : literal.Canonical) :
    Json.readOption ofJson literal.toJson = .ok (some literal) := by
  have present : literal.toJson ≠ .null := by
    cases literal <;> exact Json.noConfusion
  exact Json.read_present present (of_json_to_json canonical)

theorem of_json_canonical : Json.Yields ofJson Canonical := by
  intro json literal done
  unfold ofJson at done
  split at done
  · rename_i value
    split at done
    · cases done
      trivial
    · split at done
      · rename_i range
        cases done
        have same : (Int64.ofInt value).toInt = value :=
          Int64.toInt_ofInt_of_le range.1 (by omega)
        apply Int64.lt_iff_toInt_lt.mpr
        rw [same]
        exact range.2
      · cases done
  · split at done
    · cases done
      trivial
    · cases done

end Literal

namespace BitflagEntry

/-- The value of the entry, if it has one, is held as it would be read. -/
def Canonical (entry : BitflagEntry) : Prop := ∀ value ∈ entry.value, value.Canonical

end BitflagEntry

section Records

theorem ConstantDecl.of_json_to_json {decl : ConstantDecl} (canonical : decl.value.Canonical) :
    ofJson decl.toJson = .ok decl := by
  have value := Literal.of_json_to_json canonical
  simp [ofJson, toJson, List.lookup_cons, value]

@[simp]
theorem TypedefDecl.of_json_to_json (decl : TypedefDecl) : ofJson decl.toJson = .ok decl := by
  simp [ofJson, toJson, List.lookup_cons]

theorem EnumEntry.of_json_to_json (entry : EnumEntry) : ofJson entry.toJson = .ok entry := by
  rcases entry with ⟨name, doc, value⟩
  cases value <;> simp [ofJson, toJson, Json.optionalMember, List.lookup_cons]

/-- A gap is read back as a gap, and an entry is never taken for one. -/
theorem EnumEntry.of_json_slot (slot : Option EnumEntry) :
    Json.readOption ofJson (slotToJson slot) = .ok slot := by
  cases slot with
  | none => rfl
  | some entry =>
      exact Json.read_present Json.noConfusion entry.of_json_to_json

@[simp]
theorem EnumDecl.of_json_to_json (decl : EnumDecl) : ofJson decl.toJson = .ok decl := by
  have slots := Json.read_list_written fun slot (_ : slot ∈ decl.slots) =>
    EnumEntry.of_json_slot slot
  simp [ofJson, toJson, List.lookup_cons, slots]

theorem BitflagEntry.of_json_to_json {entry : BitflagEntry} (canonical : entry.Canonical) :
    ofJson entry.toJson = .ok entry := by
  rcases entry with ⟨name, doc, value, combination⟩
  cases value with
  | none => cases combination <;> simp [ofJson, toJson, Json.optionalMember, List.lookup_cons]
  | some value =>
      have literal := Literal.of_json_present (canonical value rfl)
      cases combination <;> simp [ofJson, toJson, Json.optionalMember, List.lookup_cons, literal]

theorem BitflagDecl.of_json_to_json {decl : BitflagDecl}
    (canonical : ∀ entry ∈ decl.entries, entry.Canonical) : ofJson decl.toJson = .ok decl := by
  have entries := Json.read_list_written fun entry member =>
    BitflagEntry.of_json_to_json (canonical entry member)
  simp [ofJson, toJson, List.lookup_cons, entries]

@[simp]
theorem Parameter.of_json_to_json (parameter : Parameter) :
    ofJson parameter.toJson = .ok parameter := by
  rcases parameter with ⟨name, doc, type, ownership, pointer, optional, space⟩
  cases ownership <;> cases pointer <;> cases space <;>
    simp [ofJson, toJson, Json.optionalMember, List.lookup_cons]

theorem Parameter.of_json_list (parameters : List Parameter) :
    Json.readList ofJson (Json.ofList toJson parameters) = .ok parameters :=
  Json.read_list_written fun parameter _ => parameter.of_json_to_json

@[simp]
theorem CallbackDecl.of_json_to_json (decl : CallbackDecl) : ofJson decl.toJson = .ok decl := by
  simp [ofJson, toJson, List.lookup_cons, Parameter.of_json_list]

@[simp]
theorem StructDecl.of_json_to_json (decl : StructDecl) : ofJson decl.toJson = .ok decl := by
  simp [ofJson, toJson, List.lookup_cons, Parameter.of_json_list]

@[simp]
theorem ReturnValue.of_json_to_json (value : ReturnValue) : ofJson value.toJson = .ok value := by
  rcases value with ⟨doc, type, passesOwnership, pointer⟩
  cases passesOwnership <;> cases pointer <;>
    simp [ofJson, toJson, Json.optionalMember, List.lookup_cons]

@[simp]
theorem ReturnValue.of_json_present (value : ReturnValue) :
    Json.readOption ofJson value.toJson = .ok (some value) :=
  Json.read_present Json.noConfusion value.of_json_to_json

@[simp]
theorem FunctionDecl.of_json_to_json (decl : FunctionDecl) : ofJson decl.toJson = .ok decl := by
  rcases decl with ⟨name, doc, returns, completion, arguments⟩
  cases returns <;> cases completion <;>
    simp [ofJson, toJson, Json.optionalMember, List.lookup_cons, Parameter.of_json_list]

@[simp]
theorem ObjectDecl.of_json_to_json (decl : ObjectDecl) : ofJson decl.toJson = .ok decl := by
  rcases decl with ⟨name, doc, extended, space, methods⟩
  have read := Json.read_list_written fun method (_ : method ∈ methods) =>
    method.of_json_to_json
  cases space <;> simp [ofJson, toJson, Json.optionalMember, List.lookup_cons, read]

end Records

section Reading

theorem ConstantDecl.of_json_canonical :
    Json.Yields ofJson fun decl => decl.value.Canonical := by
  intro json decl done
  obtain ⟨written, _, judged⟩ := bind_ok done
  obtain ⟨_, _, named⟩ := bind_ok judged
  obtain ⟨name, _, valued⟩ := bind_ok named
  obtain ⟨value, given, documented⟩ := bind_ok valued
  obtain ⟨doc, _, ended⟩ := bind_ok documented
  cases ended
  exact WrittenRecord.require_holds Literal.of_json_canonical given

theorem BitflagEntry.of_json_canonical : Json.Yields ofJson Canonical := by
  intro json entry done
  obtain ⟨written, _, judged⟩ := bind_ok done
  obtain ⟨_, _, named⟩ := bind_ok judged
  obtain ⟨name, _, documented⟩ := bind_ok named
  obtain ⟨doc, _, valued⟩ := bind_ok documented
  obtain ⟨value, given, combined⟩ := bind_ok valued
  obtain ⟨combination, _, ended⟩ := bind_ok combined
  cases ended
  intro literal present
  have held := WrittenRecord.field_holds Literal.of_json_canonical.option given
  exact held (some literal) (Option.join_eq_some_iff.mp present) literal rfl

theorem BitflagDecl.of_json_canonical :
    Json.Yields ofJson fun decl => ∀ entry ∈ decl.entries, entry.Canonical := by
  intro json decl done
  obtain ⟨written, _, judged⟩ := bind_ok done
  obtain ⟨_, _, named⟩ := bind_ok judged
  obtain ⟨name, _, documented⟩ := bind_ok named
  obtain ⟨doc, _, extending⟩ := bind_ok documented
  obtain ⟨extended, _, listed⟩ := bind_ok extending
  obtain ⟨entries, given, ended⟩ := bind_ok listed
  cases ended
  exact Json.listed_holds (WrittenRecord.field_holds BitflagEntry.of_json_canonical.list given)

end Reading

namespace Document

/-- The literals of a document, wherever they stand. -/
def literals (document : Document) : List Literal :=
  document.constants.map ConstantDecl.value ++
    document.bitflags.flatMap fun bitflag => bitflag.entries.filterMap BitflagEntry.value

def Canonical (document : Document) : Prop := ∀ literal ∈ document.literals, literal.Canonical

instance : DecidablePred Canonical := fun document =>
  inferInstanceAs (Decidable (∀ literal ∈ document.literals, literal.Canonical))

theorem canonical_iff {document : Document} :
    document.Canonical ↔ (∀ constant ∈ document.constants, constant.value.Canonical) ∧
      ∀ bitflag ∈ document.bitflags, ∀ entry ∈ bitflag.entries, entry.Canonical := by
  rw [Canonical, literals, List.forall_mem_append, List.forall_mem_map]
  apply and_congr_right
  intro _
  constructor
  · intro canonical bitflag held entry member value present
    have among := List.mem_filterMap.mpr ⟨entry, member, present⟩
    exact canonical value (List.mem_flatMap.mpr ⟨bitflag, held, among⟩)
  · intro canonical value among
    obtain ⟨bitflag, held, listed⟩ := List.mem_flatMap.mp among
    obtain ⟨entry, member, present⟩ := List.mem_filterMap.mp listed
    exact canonical bitflag held entry member value present

theorem of_json_to_json {document : Document} (canonical : document.Canonical) :
    ofJson document.toJson = .ok document := by
  obtain ⟨ofConstants, ofBitflags⟩ := canonical_iff.mp canonical
  have constants := Json.read_list_written fun constant member =>
    ConstantDecl.of_json_to_json (ofConstants constant member)
  have typedefs := Json.read_list_written fun typedef (_ : typedef ∈ document.typedefs) =>
    typedef.of_json_to_json
  have enums := Json.read_list_written fun enum (_ : enum ∈ document.enums) =>
    enum.of_json_to_json
  have bitflags := Json.read_list_written fun bitflag member =>
    BitflagDecl.of_json_to_json (ofBitflags bitflag member)
  have callbacks := Json.read_list_written fun callback (_ : callback ∈ document.callbacks) =>
    callback.of_json_to_json
  have structs := Json.read_list_written fun struct (_ : struct ∈ document.structs) =>
    struct.of_json_to_json
  have functions := Json.read_list_written fun function (_ : function ∈ document.functions) =>
    function.of_json_to_json
  have objects := Json.read_list_written fun object (_ : object ∈ document.objects) =>
    object.of_json_to_json
  simp [ofJson, toJson, List.lookup_cons, constants, typedefs, enums, bitflags, callbacks, structs,
    functions, objects]

/-- Whatever is read, its literals are held as they are read. -/
theorem of_json_canonical : Json.Yields ofJson Canonical := by
  intro json document done
  obtain ⟨written, _, judged⟩ := bind_ok done
  obtain ⟨_, _, owned⟩ := bind_ok judged
  obtain ⟨copyright, _, named⟩ := bind_ok owned
  obtain ⟨name, _, placed⟩ := bind_ok named
  obtain ⟨block, _, valued⟩ := bind_ok placed
  obtain ⟨constants, givenConstants, aliased⟩ := bind_ok valued
  obtain ⟨typedefs, _, numbered⟩ := bind_ok aliased
  obtain ⟨enums, _, masked⟩ := bind_ok numbered
  obtain ⟨bitflags, givenBitflags, called⟩ := bind_ok masked
  obtain ⟨callbacks, _, structured⟩ := bind_ok called
  obtain ⟨structs, _, exported⟩ := bind_ok structured
  obtain ⟨functions, _, grouped⟩ := bind_ok exported
  obtain ⟨objects, _, ended⟩ := bind_ok grouped
  cases ended
  apply canonical_iff.mpr
  constructor
  · exact Json.listed_holds
      (WrittenRecord.field_holds ConstantDecl.of_json_canonical.list givenConstants)
  · exact Json.listed_holds
      (WrittenRecord.field_holds BitflagDecl.of_json_canonical.list givenBitflags)

end Document

end InterfaceSchema
