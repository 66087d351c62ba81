import FactoryGen.Proofs.Source
import Mathlib.Algebra.BigOperators.Ring.List
import Mathlib.Algebra.Ring.Nat

/-! How often a character stands in a factory.

Some words are the same in every factory. A character that none of them has (`isFixed`) comes
from what the factory is made of, or is the end of a line, and it can be counted part by part:
`count_source` says how often each part is written. -/
namespace FactoryGen
namespace Factory

/-- What the words that every factory is written with are made of: characters of ASCII that can
be seen, blanks among them, but no backticks. -/
def isFixed (c : Char) : Bool := ' ' ≤ c && c ≤ '~' && c != Kotlin.backtick

variable {c : Char}

/-- Words that every factory is written with have no other characters. -/
theorem count_fixed (hc : isFixed c = false) {text : String}
    (h : text.toList.all isFixed = true) : text.toList.count c = 0 := by
  refine List.count_eq_zero.2 fun hmem => ?_
  rw [List.all_eq_true.1 h c hmem] at hc
  cases hc

theorem count_unlines (lines : List String) :
    (unlines lines).toList.count c =
      (lines.map fun line => line.toList.count c).sum + if c = '\n' then lines.length else 0 := by
  induction lines with
  | nil => simp [unlines_nil]
  | cons line lines ih =>
    rw [unlines_cons, String.toList_append, String.toList_append, List.count_append,
      List.count_append, ih, List.map_cons, List.sum_cons, List.length_cons]
    split
    · next hbreak =>
      subst hbreak
      have hone : "\n".toList.count '\n' = 1 := by decide
      omega
    · next hother =>
      have hnone : "\n".toList.count c = 0 :=
        List.count_eq_zero.2 fun hmem => hother (List.mem_singleton.1 hmem)
      omega

theorem count_intercalate {separator : String} (h : separator.toList.count c = 0)
    (parts : List String) :
    (separator.intercalate parts).toList.count c =
      (parts.map fun part => part.toList.count c).sum := by
  induction parts with
  | nil => rfl
  | cons part parts ih =>
    by_cases hparts : parts = []
    · rw [hparts, String.intercalate_singleton, List.map_singleton, List.sum_singleton]
    · rw [String.intercalate_cons_of_ne_nil hparts, String.toList_append, String.toList_append,
        List.count_append, List.count_append, h, ih, List.map_cons, List.sum_cons, Nat.add_zero]

variable (factory : Factory)

/-- How often a character stands in the names of the parameters, -/
def nameCount (c : Char) : Nat :=
  (factory.parameters.map fun parameter => parameter.name.toList.count c).sum

/-- and in their types. -/
def typeCount (c : Char) : Nat :=
  (factory.parameters.map fun parameter => parameter.type.toList.count c).sum

section
variable (hc : isFixed c = false)
include hc

theorem count_signature :
    factory.signature.toList.count c = factory.nameCount c + factory.typeCount c := by
  rw [signature, count_intercalate (count_fixed hc (by decide)), List.map_map, nameCount, typeCount,
    ← List.sum_map_add]
  refine congrArg List.sum (List.map_congr_left fun parameter _ => ?_)
  simp only [Function.comp_apply, String.toList_append, List.count_append,
    count_fixed hc (show ": ".toList.all isFixed = true by decide), Nat.add_zero]

theorem count_arguments : factory.arguments.toList.count c = factory.nameCount c := by
  rw [arguments, count_intercalate (count_fixed hc (by decide)), List.map_map]
  rfl

theorem count_fields :
    ((factory.parameters.map fun parameter =>
      "    val " ++ parameter.name ++ ": " ++ parameter.type ++ " = " ++ parameter.name).map
        fun line => line.toList.count c).sum = 2 * factory.nameCount c + factory.typeCount c := by
  rw [List.map_map, nameCount, typeCount, ← List.sum_map_mul_left, ← List.sum_map_add]
  refine congrArg List.sum (List.map_congr_left fun parameter _ => ?_)
  simp (disch := decide) only [Function.comp_apply, String.toList_append, List.count_append,
    count_fixed hc, Nat.zero_add]
  omega

theorem count_createLines :
    (factory.createLines.map fun line => line.toList.count c).sum =
      factory.baseType.toList.count c + factory.nameCount c +
        if factory.checked then factory.name.toList.count c + 2 * factory.className.toList.count c
        else factory.className.toList.count c := by
  unfold createLines
  split
  all_goals
    simp (disch := decide) only [List.map_cons, List.map_nil, List.sum_cons, List.sum_nil,
      createLine_eq, String.toList_append, List.count_append, factory.count_arguments hc,
      count_fixed hc, Nat.add_zero, Nat.zero_add]
    omega

/-- **How often a character stands in a factory** that comes from its parts: a parameter's name
is written four times, its type twice, and so on. Each line adds a line break. -/
theorem count_source :
    factory.source.toList.count c =
      factory.marker.toList.count c + factory.package.toList.count c +
        factory.interface.toList.count c + factory.baseType.toList.count c +
        (if factory.checked then 2 else 1) *
          (factory.name.toList.count c + factory.className.toList.count c) +
        4 * factory.nameCount c + 2 * factory.typeCount c +
        if c = '\n' then factory.lines.length else 0 := by
  have hpackage : ((if factory.package = "" then []
      else ["package " ++ factory.package, ""]).map fun line => line.toList.count c).sum =
        factory.package.toList.count c := by
    split
    · next hempty => rw [hempty]; rfl
    · simp (disch := decide) only [List.map_cons, List.map_nil, List.sum_cons, List.sum_nil,
        String.toList_append, List.count_append, count_fixed hc, Nat.add_zero, Nat.zero_add]
  have hgap : ((if factory.parameters.isEmpty then [] else [""]).map
      fun line : String => line.toList.count c).sum = 0 := by
    split <;> rfl
  have hlines : (factory.lines.map fun line => line.toList.count c).sum =
      factory.marker.toList.count c + factory.package.toList.count c +
        factory.interface.toList.count c + factory.baseType.toList.count c +
        (if factory.checked then 2 else 1) *
          (factory.name.toList.count c + factory.className.toList.count c) +
        4 * factory.nameCount c + 2 * factory.typeCount c := by
    simp (disch := decide) only [lines, List.map_append, List.sum_append, hpackage, hgap,
      factory.count_fields hc, factory.count_createLines hc, List.map_cons, List.map_nil,
      List.sum_cons, List.sum_nil, String.toList_append, List.count_append,
      factory.count_signature hc, count_fixed hc, Nat.add_zero, Nat.zero_add]
    split <;> omega
  rw [show factory.source = unlines factory.lines from rfl, count_unlines, hlines]

end

/-- The lines of a factory. -/
theorem length_lines :
    factory.lines.length =
      1 + (if factory.package = "" then 0 else 2) + 1 + factory.parameters.length +
        (if factory.parameters.length = 0 then 0 else 1) + (if factory.checked then 6 else 4) + 1 := by
  simp only [lines, createLines, List.length_append, List.length_map, List.isEmpty_iff_length_eq_zero,
    apply_ite List.length, List.length_cons, List.length_nil]

end Factory
end FactoryGen
