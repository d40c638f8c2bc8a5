import InterfaceSchema.Proofs.Bitflag.Width
import InterfaceSchema.Proofs.Resolution.Aliases
import Mathlib.Data.List.Forall2

/-!
Two runs that differ in the pointer width. All that the width changes are numbers of constants and
masks, and these only gain bits where the pointer becomes wider. Which of them are known and what
is told of them, apart from masks held twice, is the same under every width.
-/

namespace InterfaceSchema

set_option autoImplicit false

def Config.withWidth (config : Config) (width : UInt32) : Config :=
  { config with pointerWidth := width }

namespace ResolvedConstant

def withoutWord (constant : ResolvedConstant) : ResolvedConstant :=
  { constant with resolved := none }

structure Widens (narrow wide : ResolvedConstant) : Prop where
  within : Option.Rel BitsWithin narrow.resolved wide.resolved
  fixed : narrow.value ≠ .symbol .usizeMax → narrow.resolved = wide.resolved

end ResolvedConstant

namespace ResolvedBitflag

def withoutWords (bitflag : ResolvedBitflag) : ResolvedBitflag :=
  { bitflag with masks := bitflag.masks.map fun mask => { mask with value := none } }

def maskAt (bitflag : ResolvedBitflag) (index : Nat) : Option UInt64 :=
  (bitflag.masks[index]?).bind ResolvedMask.value

structure Widens (entries : List BitflagEntry) (narrow wide : ResolvedBitflag) : Prop where
  within : ∀ index, Option.Rel BitsWithin (narrow.maskAt index) (wide.maskAt index)
  fixed : ∀ index, ¬MaskDependency.ReachesPointer entries index →
    narrow.maskAt index = wide.maskAt index

end ResolvedBitflag

def Model.withoutWords (model : Model) : Model :=
  { model with
    constants := model.constants.map ResolvedConstant.withoutWord
    bitflags := model.bitflags.map ResolvedBitflag.withoutWords }

namespace BitflagDecl

open MaskNode MaskProgress MaskDependency

theorem resolve_without_words (config : Config) (group : Group BitflagDecl) :
    (resolve config group).1.withoutWords =
      ⟨group.name, group.first.decl.doc,
        (mergedEntries group).map fun entry => resolveMask entry none⟩ := by
  have masks : (resolve config group).1.masks.map (fun mask => { mask with value := none }) =
      (mergedEntries group).map fun entry => resolveMask entry none := by
    apply List.ext_getElem?
    intro index
    rw [List.getElem?_map, List.getElem?_map, resolved_mask_at, Option.map_map]
    rfl
  rw [ResolvedBitflag.withoutWords, masks]
  rfl

theorem resolved_word_at (config : Config) (group : Group BitflagDecl) (index : Nat) :
    (resolve config group).1.maskAt index =
      if index < (mergedEntries group).length then
        (evaluate (graph (mergedEntries group) config.pointerWidth)).maskAt index
      else none := by
  rw [ResolvedBitflag.maskAt, resolved_mask_at]
  split
  · rename_i inside
    rw [List.getElem?_eq_getElem inside]
    rfl
  · rename_i outside
    rw [List.getElem?_eq_none (Nat.not_lt.mp outside)]
    rfl

variable (config : Config) (group : Group BitflagDecl)

theorem resolve_widens {narrow wide : UInt32} (le : narrow ≤ wide) :
    (resolve (config.withWidth narrow) group).1.Widens (mergedEntries group)
      (resolve (config.withWidth wide) group).1 := by
  constructor
  case within =>
    intro index
    rw [resolved_word_at, resolved_word_at]
    split
    · rename_i inside
      exact mask_at_within le inside
    · exact .none
  case fixed =>
    intro index fixed
    rw [resolved_word_at, resolved_word_at]
    split
    · rename_i inside
      exact mask_at_of_fixed le inside fixed
    · rfl

theorem own_problems_of_width (narrow wide : UInt32) :
    ownProblems (config.withWidth narrow) group = ownProblems (config.withWidth wide) group := by
  have entries : MaskNode.problems group.name (mergedEntries group) narrow =
      MaskNode.problems group.name (mergedEntries group) wide :=
    funext (MaskNode.problems_of_width _ narrow wide group.name)
  simp only [ownProblems, MaskCycle.problems, Config.withWidth]
  rw [entries, cycles_of_width _ narrow wide]

end BitflagDecl

namespace Resolver

open Declared

section Constants

variable (constant : ConstantDecl) {narrow wide : UInt32}

theorem resolve_constant_widens (le : narrow ≤ wide) :
    (resolveConstant narrow constant).Widens (resolveConstant wide constant) := by
  constructor
  case within => exact Literal.resolve_within le constant.value
  case fixed =>
    intro fixed
    have plain : constant.value ≠ .symbol .usizeMax := fixed
    simp only [resolveConstant]
    rw [Literal.resolve_of_fixed plain narrow wide]

theorem constant_problems_of_width (narrow wide : UInt32) :
    constantProblems narrow constant = constantProblems wide constant := by
  unfold constantProblems
  by_cases pointer : constant.value = .symbol .usizeMax
  · rw [pointer]
    rfl
  · rw [Literal.resolve_of_fixed pointer narrow wide]

end Constants

section Widths

variable (config : Config) (documents : List Document)

theorem model_without_words (narrow wide : UInt32) :
    (resolve (config.withWidth narrow) documents).partialModel.withoutWords =
      (resolve (config.withWidth wide) documents).partialModel.withoutWords := by
  simp only [resolve, Model.withoutWords, List.map_map, Function.comp_def,
    BitflagDecl.resolve_without_words]
  rfl

theorem constants_widen {narrow wide : UInt32} (le : narrow ≤ wide) :
    List.Forall₂ ResolvedConstant.Widens
      (resolve (config.withWidth narrow) documents).partialModel.constants
      (resolve (config.withWidth wide) documents).partialModel.constants := by
  simp only [resolve]
  rw [List.forall₂_map_left_iff, List.forall₂_map_right_iff, List.forall₂_same]
  intro constant _
  exact resolve_constant_widens constant le

theorem bitflags_widen {narrow wide : UInt32} (le : narrow ≤ wide) {place : Nat}
    {narrowSet wideSet : ResolvedBitflag}
    (here : (resolve (config.withWidth narrow) documents).partialModel.bitflags[place]? =
      some narrowSet)
    (there : (resolve (config.withWidth wide) documents).partialModel.bitflags[place]? =
      some wideSet) :
    ∃ group, (ofDocuments documents).bitflags[place]? = some group ∧
      narrowSet.Widens (BitflagDecl.mergedEntries group) wideSet := by
  rw [resolve_bitflags, List.getElem?_map, Option.map_eq_some_iff] at here there
  obtain ⟨group, found, rfl⟩ := here
  obtain ⟨other, same, rfl⟩ := there
  rw [found, Option.some.injEq] at same
  rw [← same]
  exact ⟨group, found, BitflagDecl.resolve_widens config group le⟩

/-- Apart from masks held twice, the same is told under every width. -/
theorem report_of_width (narrow wide : UInt32) :
    (resolve (config.withWidth narrow) documents).report.withoutAliases =
      (resolve (config.withWidth wide) documents).report.withoutAliases := by
  have constants : constantProblems narrow = constantProblems wide :=
    funext fun constant => constant_problems_of_width constant narrow wide
  have later : laterProblems (config.withWidth narrow) documents =
      laterProblems (config.withWidth wide) documents := by
    simp only [laterProblems, Config.withWidth, constants]
  have own := fun group => BitflagDecl.own_problems_of_width config group narrow wide
  rw [report_without_aliases, report_without_aliases, later]
  simp only [own]
  rfl

/-- A wider pointer only adds bits, and only to what depends on it. The shift that gives its
largest value is never wider than the word. -/
theorem wider_pointer_widens {narrow wide : UInt32} (le : narrow ≤ wide) :
    (resolve (config.withWidth narrow) documents).partialModel.withoutWords =
        (resolve (config.withWidth wide) documents).partialModel.withoutWords ∧
      List.Forall₂ ResolvedConstant.Widens
        (resolve (config.withWidth narrow) documents).partialModel.constants
        (resolve (config.withWidth wide) documents).partialModel.constants ∧
      (∀ (place : Nat) (narrowSet wideSet : ResolvedBitflag),
        (resolve (config.withWidth narrow) documents).partialModel.bitflags[place]? =
          some narrowSet →
        (resolve (config.withWidth wide) documents).partialModel.bitflags[place]? =
          some wideSet →
        ∃ group, (ofDocuments documents).bitflags[place]? = some group ∧
          narrowSet.Widens (BitflagDecl.mergedEntries group) wideSet) ∧
      (resolve (config.withWidth narrow) documents).report.withoutAliases =
        (resolve (config.withWidth wide) documents).report.withoutAliases ∧
      ∀ width : UInt32,
        (64 ≤ width → (Literal.symbol .usizeMax).resolve width = .ok 0xFFFFFFFFFFFFFFFF) ∧
          (width < 64 → ((1 : UInt64) <<< width.toUInt64).toNat = 1 <<< width.toNat ∧
            (Literal.symbol .usizeMax).resolve width =
              .ok (((1 : UInt64) <<< width.toUInt64) - 1)) := by
  refine ⟨model_without_words config documents narrow wide, constants_widen config documents le,
    ?_, report_of_width config documents narrow wide, ?_⟩
  · intro place narrowSet wideSet here there
    exact bitflags_widen config documents le here there
  · intro width
    refine ⟨fun long => ?_, fun short => ⟨shifted_one_to_nat short, ?_⟩⟩
    · rw [Literal.resolve, low_bits_of_long long]
    · rw [Literal.resolve, low_bits_of_short short]

end Widths

/-- A pointer that a mask takes up through another one, and a constant next to it. -/
def pointerDocuments : List Document :=
  [{ name := "core"
     bitflags := [{ name := "Usage"
                    entries := [{ name := "outer", combination := some ["inner"] },
                      { name := "inner", combination := some ["any", "high"] },
                      { name := "any", value := some (.symbol .usizeMax) },
                      { name := "high", value := some (.unsigned 0x1000000000) }] }]
     constants := [{ name := "whole", value := .symbol .usizeMax },
       { name := "half", value := .symbol .uint32Max }] }]

theorem pointer_documents_widen :
    (32 : UInt32) ≤ 64 ∧
      (resolve (Config.withWidth {} 32) pointerDocuments).partialModel.maskValue? "Usage" "outer" =
        some 0x10FFFFFFFF ∧
      (resolve (Config.withWidth {} 64) pointerDocuments).partialModel.maskValue? "Usage" "outer" =
        some 0xFFFFFFFFFFFFFFFF ∧
      List.Forall₂ ResolvedConstant.Widens
        (resolve (Config.withWidth {} 32) pointerDocuments).partialModel.constants
        (resolve (Config.withWidth {} 64) pointerDocuments).partialModel.constants ∧
      (∀ narrowSet wideSet,
        (resolve (Config.withWidth {} 32) pointerDocuments).partialModel.bitflags[0]? =
          some narrowSet →
        (resolve (Config.withWidth {} 64) pointerDocuments).partialModel.bitflags[0]? =
          some wideSet →
        Option.Rel BitsWithin (narrowSet.maskAt 0) (wideSet.maskAt 0)) ∧
      (resolve (Config.withWidth {} 32) pointerDocuments).report.withoutAliases =
        (resolve (Config.withWidth {} 64) pointerDocuments).report.withoutAliases := by
  have le : (32 : UInt32) ≤ 64 := by decide
  have widened := wider_pointer_widens {} pointerDocuments le
  refine ⟨le, by decide, by decide, widened.2.1, ?_, widened.2.2.2.1⟩
  intro narrowSet wideSet here there
  obtain ⟨_, _, widens⟩ := widened.2.2.1 0 narrowSet wideSet here there
  exact widens.within 0

end Resolver

end InterfaceSchema
