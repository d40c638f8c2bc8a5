import InterfaceSchema.Proofs.Recorder
import InterfaceSchema.Resolver

/-!
The stages up to the attachments as computations that record. Each of them visits its declarations
one after the other, carries along what it has seen, and records a problem at the place where it
comes upon it. What a stage records in this way is what is told of it apart, and what it hands on
is the same.
-/

namespace InterfaceSchema

set_option autoImplicit false

namespace Recorder

def blocks (documents : List Document) : Recorder (List (Option UInt16)) :=
  documents.mapM fun document =>
    match EnumBlock.parse? document.block with
    | some block => return some block
    | none => do
        error (.invalidEnumBlock document.name document.block)
        return none

theorem records_blocks (documents : List Document) :
    Records (blocks documents) (documents.map fun document => EnumBlock.parse? document.block)
      ((Resolver.blockProblems documents).map .error) := by
  have told : (Resolver.blockProblems documents).map Diagnostic.error =
      documents.flatMap fun document =>
        if (EnumBlock.parse? document.block).isNone then
          [.error (.invalidEnumBlock document.name document.block)]
        else [] := by
    rw [Resolver.blockProblems, List.map_map]
    induction documents with
    | nil => rfl
    | cons document rest ih =>
        rw [List.filter_cons, List.flatMap_cons, ← ih]
        split
        · rfl
        · rfl
  rw [told]
  apply records_map
  intro document _
  split
  · rename_i block parsed
    rw [parsed]
    exact records_pure _
  · rename_i parsed
    rw [parsed]
    exact records_error_then _ (records_pure _)

section Merging

variable {α : Type} [Mergeable α]

/-- Goes through the declarations of a group; whether a base was seen and whether an extension
without one was told decides about the next. -/
def order (name : String) (seenBase toldEarly : Bool) : List (Located α) → Recorder Unit
  | [] => return
  | part :: rest =>
      if Mergeable.extended part.decl then
        if seenBase || toldEarly then order name seenBase toldEarly rest
        else do
          let fault := if rest.any fun later => !Mergeable.extended later.decl then
            MergeFault.extendedBeforeBase else .missingBase
          error (.mergeOrder (Mergeable.kind α) name fault)
          order name seenBase true rest
      else if seenBase then do
        error (.mergeOrder (Mergeable.kind α) name .duplicateBase)
        order name true toldEarly rest
      else order name true toldEarly rest

theorem records_order (name : String) (seenBase toldEarly : Bool) (parts : List (Located α)) :
    Records (order name seenBase toldEarly parts) ()
      ((Group.faults seenBase toldEarly parts).map fun fault =>
        .error (.mergeOrder (Mergeable.kind α) name fault)) := by
  induction parts generalizing seenBase toldEarly with
  | nil => exact records_pure ()
  | cons part rest ih =>
      unfold order Group.faults
      split
      · split
        · exact ih seenBase toldEarly
        · split
          · exact records_error_then _ (ih seenBase true)
          · exact records_error_then _ (ih seenBase true)
      · split
        · exact records_error_then _ (ih true toldEarly)
        · exact ih true toldEarly

/-- Groups the declarations of a kind and goes through every group. -/
def merge (declarations : List (Located α)) : Recorder (List (Group α)) := do
  let groups := Group.gather declarations
  groups.forM fun group => order group.name false false group.parts
  return groups

theorem records_merge (declarations : List (Located α)) :
    Records (merge declarations) (Group.gather declarations)
      (((Group.gather declarations).flatMap Group.problems).map .error) := by
  have each : ∀ group ∈ Group.gather declarations,
      Records (order group.name false false group.parts) ()
        ((Group.problems group).map .error) := by
    intro group _
    rw [Group.problems, List.map_map]
    exact records_order group.name false false group.parts
  rw [List.map_flatMap]
  exact (records_for_each each).giving _

end Merging

def register (declared : Universe) : List (String × DeclRef) → Recorder Universe
  | [] => return declared
  | (name, decl) :: rest =>
      match declared.add name decl with
      | .ok larger => register larger rest
      | .error problem => do
          error problem
          register declared rest

theorem records_register (declared : Universe) (names : List (String × DeclRef)) :
    Records (register declared names) (declared.register names).1
      ((declared.register names).2.map .error) := by
  induction names generalizing declared with
  | nil => exact records_pure declared
  | cons entry rest ih =>
      rcases entry with ⟨name, decl⟩
      unfold register Universe.register
      cases declared.add name decl with
      | ok larger => exact ih larger
      | error problem => exact records_error_then _ (ih declared)

def unique (kind : NameKind) (scope : Option String) (seen : List String) :
    List String → Recorder Unit
  | [] => return
  | name :: rest =>
      if name ∈ seen then do
        error (.duplicateName kind (match scope with
          | some scope => scope ++ "." ++ name
          | none => name))
        unique kind scope seen rest
      else unique kind scope (name :: seen) rest

theorem records_unique_from (kind : NameKind) (scope : Option String) (seen names : List String) :
    Records (unique kind scope seen names) ()
      ((Uniqueness.repeated seen names).map fun name =>
        .error (.duplicateName kind (match scope with
          | some scope => scope ++ "." ++ name
          | none => name))) := by
  induction names generalizing seen with
  | nil => exact records_pure ()
  | cons name rest ih =>
      unfold unique Uniqueness.repeated
      split
      · cases scope with
        | none | some qualifier => exact records_error_then _ (ih seen)
      · exact ih (name :: seen)

theorem records_unique (kind : NameKind) (scope : Option String) (names : List String) :
    Records (unique kind scope [] names) ()
      ((Uniqueness.problems kind scope names).map .error) := by
  rw [Uniqueness.problems, List.map_map]
  exact records_unique_from kind scope [] names

def arguments (owner : String) (parameters : List Parameter) : Recorder Unit :=
  unique .argument (some owner) [] (parameters.map Parameter.name)

/-- The local names of all declarations but those of bases and entries. -/
def names (declared : Declared) : Recorder Unit := do
  unique .constant none [] (declared.constants.map ConstantDecl.name)
  unique .function none [] (declared.functions.map FunctionDecl.name)
  declared.callbacks.forM fun callback => arguments callback.name callback.arguments
  declared.structs.forM fun struct =>
    unique .member (some struct.name) [] (struct.members.map Parameter.name)
  declared.functions.forM fun function => arguments function.name function.arguments
  declared.objects.forM fun object => do
    unique .method (some object.name) [] (object.methods.map FunctionDecl.name)
    object.methods.forM fun method =>
      arguments (object.name ++ "." ++ method.name) method.arguments

theorem records_arguments (owner : String) (parameters : List Parameter) :
    Records (arguments owner parameters) ()
      ((Resolver.argumentProblems owner parameters).map .error) :=
  records_unique .argument (some owner) _

theorem records_object_names (object : ObjectDecl) :
    Records (do
        unique .method (some object.name) [] (object.methods.map FunctionDecl.name)
        object.methods.forM fun method =>
          arguments (object.name ++ "." ++ method.name) method.arguments) ()
      ((Resolver.objectNameProblems object).map .error) := by
  rw [Resolver.objectNameProblems, List.map_append, List.map_flatMap]
  exact (records_unique .method _ _).after
    (records_for_each fun method _ => records_arguments _ method.arguments)

theorem records_names (declared : Declared) :
    Records (names declared) () ((Resolver.nameProblems declared).map .error) := by
  simp only [Resolver.nameProblems, List.map_append, List.map_flatMap, List.append_assoc]
  exact (records_unique .constant none _).after <|
    (records_unique .function none _).after <|
    (records_for_each fun callback _ => records_arguments _ callback.arguments).after <|
    (records_for_each fun struct _ => records_unique .member _ _).after <|
    (records_for_each fun function _ => records_arguments _ function.arguments).after <|
    records_for_each fun object _ => records_object_names object

/-- Resolves the type string of a field and then judges what it leads to. -/
def reference (scope : TypeScope) (field : TypeField) : Recorder (Option Reference) :=
  match (field.classify scope).target? with
  | some target => do
      errors (field.misuse? scope target).toList
      return some ⟨field.site, field.type, target⟩
  | none => do
      errors (field.failure? scope).toList
      return none

def references (scope : TypeScope) (fields : List TypeField) : Recorder (List Reference) := do
  return (← fields.mapM (reference scope)).filterMap id

theorem records_reference (scope : TypeScope) (field : TypeField) :
    Records (reference scope field) (field.reference? scope)
      ((field.problems scope).map .error) := by
  unfold reference TypeField.reference? TypeField.problems
  cases (field.classify scope).target? with
  | some target => exact (records_errors _).giving _
  | none => exact (records_errors _).giving _

theorem records_references (scope : TypeScope) (fields : List TypeField) :
    Records (references scope fields) (fields.filterMap (TypeField.reference? scope))
      ((fields.flatMap (TypeField.problems scope)).map .error) := by
  have visited := records_map fun field (_ : field ∈ fields) => records_reference scope field
  have ended := visited.map_value fun found => found.filterMap id
  rwa [List.filterMap_map, ← List.map_flatMap] at ended

section Attaching

variable (structs : List StructDecl) (types : Universe)

def bases (extension : StructDecl) (direction : Direction) (place : Nat)
    (attachments : Attachments) : List String → Recorder Attachments
  | [] => return attachments
  | name :: rest =>
      match Attachments.link structs types extension direction name with
      | .attached base => bases extension direction place (attachments.attach place base) rest
      | .refused problem => do
          error problem
          bases extension direction place attachments rest
      | .lost => bases extension direction place attachments rest

/-- Judges whether a struct may name bases; of an extension each of them is linked. -/
def link (place : Nat) (struct : StructDecl) (attachments : Attachments) :
    Recorder Attachments :=
  match struct.role with
  | .extension direction =>
      if struct.bases.isEmpty then do
        error (.missingExtends struct.name struct.role)
        return attachments
      else bases structs types struct direction place attachments struct.bases
  | .base _ | .standalone =>
      if struct.bases.isEmpty then return attachments
      else do
        error (.unexpectedExtends struct.name struct.role)
        return attachments

def attach (place : Nat) (attachments : Attachments) : List StructDecl → Recorder Attachments
  | [] => return attachments
  | struct :: rest => do
      unique .base (some struct.name) [] struct.bases
      let larger ← link structs types place struct attachments
      attach (place + 1) larger rest

theorem records_bases (extension : StructDecl) (direction : Direction) (place : Nat)
    (attachments : Attachments) (names : List String) :
    Records (bases structs types extension direction place attachments names)
      (attachments.attachEach place
        ((names.map (Attachments.link structs types extension direction)).filterMap
          Attachments.Link.base?))
      (((names.map (Attachments.link structs types extension direction)).filterMap
        Attachments.Link.problem?).map .error) := by
  induction names generalizing attachments with
  | nil => exact records_pure attachments
  | cons name rest ih =>
      unfold bases
      rw [List.map_cons]
      cases Attachments.link structs types extension direction name with
      | attached base => exact ih (attachments.attach place base)
      | refused problem => exact records_error_then problem (ih attachments)
      | lost => exact ih attachments

theorem records_link (place : Nat) (struct : StructDecl) (attachments : Attachments) :
    Records (link structs types place struct attachments)
      (attachments.attachEach place
        ((Attachments.links structs types struct).filterMap Attachments.Link.base?))
      ((Attachments.placement struct ++
        (Attachments.links structs types struct).filterMap Attachments.Link.problem?).map
          .error) := by
  rcases struct with ⟨name, doc, role, written, freeMembers, members⟩
  cases role with
  | extension direction =>
      cases written with
      | nil => exact records_error_then _ (records_pure attachments)
      | cons base rest => exact records_bases structs types _ direction place attachments _
  | base direction | standalone =>
      cases written with
      | nil => exact records_pure attachments
      | cons base rest => exact records_error_then _ (records_pure attachments)

theorem records_attach (place : Nat) (attachments : Attachments) (later : List StructDecl) :
    Records (attach structs types place attachments later)
      (Attachments.attachFrom structs types attachments place later)
      ((later.flatMap (Attachments.problemsOfStruct structs types)).map .error) := by
  induction later generalizing place attachments with
  | nil => exact records_pure attachments
  | cons struct rest ih =>
      rw [List.flatMap_cons, List.map_append, Attachments.problemsOfStruct, List.append_assoc,
        List.map_append, List.append_assoc]
      exact (records_unique .base (some struct.name) struct.bases).after
        ((records_link structs types place struct attachments).bind (ih (place + 1) _))

end Attaching

end Recorder

end InterfaceSchema
