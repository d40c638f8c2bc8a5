import InterfaceSchema.Proofs.Resolution.Attachments
import InterfaceSchema.Proofs.Resolution.Registration

/-!
Base names of extensions. Each of them is linked to a struct that may be extended, told to lead to
one that may not, told to be unknown, or passed over in silence because the struct that bears it
lost the name to another declaration, which is told before the attachments are made.
-/

namespace InterfaceSchema

set_option autoImplicit false

namespace Attachments

inductive Outcome where
  | linked
  | incompatible
  | unknown
  | lost
  deriving DecidableEq, Repr

section Links

variable {structs : List StructDecl} {declared : Universe} {extension : StructDecl}
  {direction : Direction} {name : String}

theorem link_of_unfit {base : StructDecl} {index : Nat}
    (leads : declared.get? name = some ⟨.struct, index⟩) (found : structs[index]? = some base)
    (unfit : fits base.role direction = false) :
    link structs declared extension direction name =
      .refused (.incompatibleChainDirection extension.name extension.role base.name base.role) := by
  simp [link, base_index_eq_some_iff.mpr leads, found, unfit]

theorem link_of_unregistered (unregistered : ∀ index, declared.get? name ≠ some ⟨.struct, index⟩) :
    link structs declared extension direction name =
      if structs.any fun struct => struct.name == name then .lost
      else .refused (.unknownBaseStruct extension.name name) := by
  have nowhere : baseIndex? declared name = none := by
    rw [Option.eq_none_iff_forall_ne_some]
    exact fun index leads => unregistered index (base_index_eq_some_iff.mp leads)
  simp [link, nowhere]

end Links

end Attachments

namespace Model

def entryProblems (model : Model) (struct : StructDecl) (direction : Direction) (name : String) :
    List Problem :=
  (Attachments.link model.structs model.declared struct direction name).problem?.toList

def baseProblems (model : Model) (struct : StructDecl) : List Problem :=
  match struct.role with
  | .extension direction => struct.bases.flatMap (model.entryProblems struct direction)
  | .base _ | .standalone => []

/-- How a base name of an extension ends. `told` is what is told of it, and `earlier` is what is
told before the attachments are made. -/
inductive EntryEnds (model : Model) (documents : List Document) (earlier : List Diagnostic)
    (extension : Nat) (struct : StructDecl) (direction : Direction) (name : String)
    (told : List Problem) : Attachments.Outcome → Prop
  | linked {base : Nat} {other : StructDecl} {own : Direction}
      (registered : model.declared.get? name = some ⟨.struct, base⟩)
      (found : model.structs[base]? = some other) (role : other.role = .base own)
      (agree : own = direction ∨ own = .both ∨ direction = .both)
      (attached : base ∈ model.attachments.basesOf extension)
      (mirrored : extension ∈ model.attachments.extensionsOf base)
      (silent : told = []) :
      EntryEnds model documents earlier extension struct direction name told .linked
  | incompatible {base : Nat} {other : StructDecl}
      (registered : model.declared.get? name = some ⟨.struct, base⟩)
      (found : model.structs[base]? = some other) (named : other.name = name)
      (unfit : ∀ own, other.role = .base own →
        ¬ (own = direction ∨ own = .both ∨ direction = .both))
      (explained :
        told = [.incompatibleChainDirection struct.name struct.role name other.role]) :
      EntryEnds model documents earlier extension struct direction name told .incompatible
  | unknown
      (absent : ∀ document ∈ documents, ∀ other ∈ document.structs, other.name ≠ name)
      (explained : told = [.unknownBaseStruct struct.name name]) :
      EntryEnds model documents earlier extension struct direction name told .unknown
  /-- A struct bears the name, but the name stands for no struct, and this is told already. -/
  | lost {reason : Problem}
      (borne : ∃ document ∈ documents, ∃ other ∈ document.structs, other.name = name)
      (unregistered : ∀ base, model.declared.get? name ≠ some ⟨.struct, base⟩)
      (clash : reason = .shadowsPrimitive .struct name ∨
        ∃ first, reason = .nameCollision name first .struct)
      (known : .error reason ∈ earlier)
      (silent : told = []) :
      EntryEnds model documents earlier extension struct direction name told .lost

theorem EntryEnds.unique {model : Model} {documents : List Document} {earlier : List Diagnostic}
    {extension : Nat} {struct : StructDecl} {direction : Direction} {name : String}
    {told : List Problem} {outcome other : Attachments.Outcome}
    (ends : EntryEnds model documents earlier extension struct direction name told outcome)
    (too : EntryEnds model documents earlier extension struct direction name told other) :
    outcome = other := by
  cases ends with
  | linked registered _ _ _ _ _ silent =>
      subst silent
      cases too with
      | linked => rfl
      | incompatible _ _ _ _ explained => cases explained
      | unknown _ explained => cases explained
      | lost _ unregistered => exact absurd registered (unregistered _)
  | incompatible _ _ _ _ explained =>
      subst explained
      cases too with
      | linked _ _ _ _ _ _ silent => cases silent
      | incompatible => rfl
      | unknown _ other => cases other
      | lost _ _ _ _ silent => cases silent
  | unknown _ explained =>
      subst explained
      cases too with
      | linked _ _ _ _ _ _ silent => cases silent
      | incompatible _ _ _ _ other => cases other
      | unknown => rfl
      | lost _ _ _ _ silent => cases silent
  | lost _ unregistered _ _ silent =>
      subst silent
      cases too with
      | linked registered => exact absurd registered (unregistered _)
      | incompatible _ _ _ _ explained => cases explained
      | unknown _ explained => cases explained
      | lost => rfl

end Model

namespace Resolver

open Declared Attachments

variable (config : Config) (documents : List Document)

def toldBefore (pass : Pass) : List Diagnostic :=
  (Pass.order.takeWhile fun other => other ≠ pass).flatMap (passDiagnostics config documents)

def toldAfter (pass : Pass) : List Diagnostic :=
  (Pass.order.dropWhile fun other => other ≠ pass).tail.flatMap (passDiagnostics config documents)

theorem report_around (pass : Pass) :
    (resolve config documents).report.diagnostics =
      toldBefore config documents pass ++ passDiagnostics config documents pass ++
        toldAfter config documents pass := by
  have cut : Pass.order = (Pass.order.takeWhile fun other => other ≠ pass) ++ pass ::
      (Pass.order.dropWhile fun other => other ≠ pass).tail := by
    cases pass <;> rfl
  rw [report_by_passes]
  conv_lhs => rw [cut]
  rw [List.flatMap_append, List.flatMap_cons, ← List.append_assoc]
  rfl

theorem problems_of_struct_eq (struct : StructDecl) :
    problemsOfStruct (ofDocuments documents).structs (declaredTypes documents) struct =
      Uniqueness.problems .base (some struct.name) struct.bases ++ placement struct ++
        (resolve config documents).partialModel.baseProblems struct := by
  unfold problemsOfStruct links Model.baseProblems
  cases struct.role with
  | base direction => rfl
  | standalone => rfl
  | extension direction =>
      rw [List.filterMap_map, List.filterMap_eq_flatMap_toList]
      rfl

variable {config documents}

/-- Whoever declares a struct in vain is told so when the names are registered. -/
theorem loss_told {name : String}
    (declared : ∃ struct ∈ (ofDocuments documents).structs, struct.name = name)
    (unregistered : ∀ base, (declaredTypes documents).get? name ≠ some ⟨.struct, base⟩) :
    ∃ reason, (reason = .shadowsPrimitive .struct name ∨
        ∃ first, reason = .nameCollision name first .struct) ∧
      .error reason ∈ toldBefore config documents .attachments := by
  obtain ⟨struct, member, named⟩ := declared
  obtain ⟨index, found⟩ := List.mem_iff_getElem?.mp member
  have placed : (name, ⟨.struct, index⟩) ∈ registrations documents := by
    rw [← type_names_eq, mem_type_names, nameAt?, namesOf, List.getElem?_map, found, ← named]
    rfl
  have before (reason : Problem) (refused : reason ∈ Universe.refusals (registrations documents)) :
      .error reason ∈ toldBefore config documents .attachments := by
    rw [← type_names_eq, ← Universe.register_problems] at refused
    have told : Diagnostic.error reason ∈ passDiagnostics config documents .registration :=
      List.mem_map_of_mem refused
    exact List.mem_flatMap.mpr ⟨.registration, by decide, told⟩
  have known : declaredTypes documents =
      (({} : Universe).register (registrations documents)).1 := by
    rw [declaredTypes, type_names_eq]
  rw [known] at unregistered
  rcases Universe.refused_of_other placed (unregistered index) with shadow | ⟨first, taken, clash⟩
  · exact ⟨_, Or.inl rfl, before _ shadow⟩
  · -- The one that has the name is no struct.
    have other : first.kind ≠ .struct := by
      rcases first with ⟨kind, base⟩
      rintro rfl
      exact unregistered base taken
    rw [if_neg other] at clash
    exact ⟨_, Or.inr ⟨_, rfl⟩, before _ clash⟩

section Entries

variable {extension base : Nat} {struct : StructDecl} {direction : Direction} {name : String}

theorem entry_problems_eq (struct : StructDecl) (direction : Direction) (name : String) :
    (resolve config documents).partialModel.entryProblems struct direction name =
      (link (ofDocuments documents).structs (declaredTypes documents) struct direction
        name).problem?.toList :=
  rfl

theorem registered_entry_ends
    (found : (ofDocuments documents).structs[extension]? = some struct)
    (role : struct.role = .extension direction) (written : name ∈ struct.bases)
    (registered : (declaredTypes documents).get? name = some ⟨.struct, base⟩) :
    ∃ outcome, (resolve config documents).partialModel.EntryEnds documents
      (toldBefore config documents .attachments) extension struct direction name
      ((resolve config documents).partialModel.entryProblems struct direction name) outcome := by
  obtain ⟨other, placed, named⟩ := Option.map_eq_some_iff.mp (structs_borne name base registered)
  cases fit : fits other.role direction with
  | true =>
      obtain ⟨own, otherRole, agree⟩ := fits_iff.mp fit
      have linked : link (ofDocuments documents).structs (declaredTypes documents) struct
          direction name = .attached base :=
        link_of_found registered placed fit
      have attached : base ∈
          (Attachments.resolve (ofDocuments documents).structs
            (declaredTypes documents)).1.basesOf extension :=
        mem_bases_of_resolve.mpr
          ⟨struct, found, mem_bases_of_struct.mpr ⟨direction, name, role, written, linked⟩⟩
      have recorded := resolve_recorded (ofDocuments documents).structs (declaredTypes documents)
      have mirrored := (recorded.mirrored extension base).mp attached
      have silent : (resolve config documents).partialModel.entryProblems struct direction name =
          [] := by
        rw [entry_problems_eq, linked]
        rfl
      exact ⟨_, .linked registered placed otherRole agree attached mirrored silent⟩
  | false =>
      have unfit : ∀ own, other.role = .base own →
          ¬ (own = direction ∨ own = .both ∨ direction = .both) := by
        intro own otherRole agree
        rw [fits_iff.mpr ⟨own, otherRole, agree⟩] at fit
        cases fit
      have explained : (resolve config documents).partialModel.entryProblems struct direction
          name = [.incompatibleChainDirection struct.name struct.role name other.role] := by
        rw [entry_problems_eq, link_of_unfit registered placed fit, named]
        rfl
      exact ⟨_, .incompatible registered placed named unfit explained⟩

theorem unregistered_entry_ends
    (unregistered : ∀ base, (declaredTypes documents).get? name ≠ some ⟨.struct, base⟩) :
    ∃ outcome, (resolve config documents).partialModel.EntryEnds documents
      (toldBefore config documents .attachments) extension struct direction name
      ((resolve config documents).partialModel.entryProblems struct direction name) outcome := by
  by_cases borne : ∃ other ∈ (ofDocuments documents).structs, other.name = name
  · obtain ⟨reason, clash, known⟩ := loss_told borne unregistered
    have silent : (resolve config documents).partialModel.entryProblems struct direction name =
        [] := by
      rw [entry_problems_eq, link_of_unregistered unregistered, if_pos (by simpa using borne)]
      rfl
    obtain ⟨other, member, named⟩ := borne
    obtain ⟨document, among, own⟩ := List.mem_flatMap.mp member
    exact ⟨_, .lost ⟨document, among, other, own, named⟩ unregistered clash known silent⟩
  · have explained : (resolve config documents).partialModel.entryProblems struct direction name =
        [.unknownBaseStruct struct.name name] := by
      rw [entry_problems_eq, link_of_unregistered unregistered, if_neg (by simpa using borne)]
      rfl
    have absent : ∀ document ∈ documents, ∀ other ∈ document.structs, other.name ≠ name :=
      fun document among other own named =>
        borne ⟨other, List.mem_flatMap.mpr ⟨document, among, own⟩, named⟩
    exact ⟨_, .unknown absent explained⟩

end Entries

variable (config documents)

/-- Attachments tell what their base names give, struct by struct and name by name, and every base
name of an extension ends in exactly one way. -/
theorem base_names_linked_or_explained :
    (resolve config documents).report.diagnostics =
      toldBefore config documents .attachments ++
        ((resolve config documents).partialModel.structs.flatMap fun struct =>
          Uniqueness.problems .base (some struct.name) struct.bases ++ placement struct ++
            (resolve config documents).partialModel.baseProblems struct).map .error ++
        toldAfter config documents .attachments ∧
    ∀ extension struct direction,
      (resolve config documents).partialModel.structs[extension]? = some struct →
      struct.role = .extension direction → ∀ name ∈ struct.bases,
        ∃! outcome, (resolve config documents).partialModel.EntryEnds documents
          (toldBefore config documents .attachments) extension struct direction name
          ((resolve config documents).partialModel.entryProblems struct direction name)
          outcome := by
  constructor
  · have own := funext (problems_of_struct_eq config documents)
    rw [report_around config documents .attachments, resolve_structs, ← own]
    rfl
  · intro extension struct direction found role name written
    rw [resolve_structs] at found
    have ends : ∃ outcome, (resolve config documents).partialModel.EntryEnds documents
        (toldBefore config documents .attachments) extension struct direction name
        ((resolve config documents).partialModel.entryProblems struct direction name)
        outcome := by
      by_cases leads : ∃ base, (declaredTypes documents).get? name = some ⟨.struct, base⟩
      · obtain ⟨base, registered⟩ := leads
        exact registered_entry_ends found role written registered
      · exact unregistered_entry_ends (not_exists.mp leads)
    obtain ⟨outcome, ending⟩ := ends
    exact ⟨outcome, ending, fun other too => too.unique ending⟩

/-- An extension of six bases. One of them fits, two may not be extended by it, one is not declared,
and the names of the last two stand for an enum and for a primitive type. -/
def limits : StructDecl :=
  { name := "Limits", role := .extension .out
    bases := ["Result", "Options", "Plain", "Nowhere", "Mode", "bool"] }

def limitedDocuments : List Document :=
  [{ name := "core"
     structs := [{ name := "Options", role := .base .into },
       { name := "Result", role := .base .out }, { name := "Plain", role := .standalone },
       { name := "Mode", role := .base .out }] },
   { name := "later"
     enums := [{ name := "Mode" }]
     structs := [{ name := "bool", role := .base .out }, limits] }]

theorem limits_lost_base :
    (resolve {} limitedDocuments).partialModel.EntryEnds limitedDocuments
      (toldBefore {} limitedDocuments .attachments) 5 limits .out "Mode"
      ((resolve {} limitedDocuments).partialModel.entryProblems limits .out "Mode") .lost := by
  have taken : (resolve {} limitedDocuments).partialModel.declared.get? "Mode" =
      some ⟨.enum, 0⟩ := by decide
  have quiet : (resolve {} limitedDocuments).partialModel.entryProblems limits .out "Mode" = [] :=
    by decide
  obtain ⟨outcome, ending, _⟩ := (base_names_linked_or_explained {} limitedDocuments).2 5 limits
    .out (by decide) rfl "Mode" (by decide)
  cases ending with
  | linked registered =>
      rw [taken] at registered
      cases registered
  | incompatible registered =>
      rw [taken] at registered
      cases registered
  | unknown _ explained =>
      rw [quiet] at explained
      cases explained
  | lost borne unregistered clash known silent =>
      exact .lost borne unregistered clash known silent

example :
    (resolve {} limitedDocuments).partialModel.baseProblems limits =
      [.incompatibleChainDirection "Limits" (.extension .out) "Options" (.base .into),
        .incompatibleChainDirection "Limits" (.extension .out) "Plain" .standalone,
        .unknownBaseStruct "Limits" "Nowhere"] := by
  decide

end Resolver

end InterfaceSchema
