import FactoryGen.Shape

/-! Which rule a symbol is refused for.

The gate stops at the first rule that a symbol breaks. Here every rule is told by what it
asks for, whatever the others say (`Shape.Breaks`, `Symbol.Breaks`), and has its rank in the
order of the rules: what kind of declaration it is, what it extends, the name of the class,
the package, then one parameter after the other, of each the name, the type, and whether it
repeats one in front of it. `gate_account` says that a symbol comes through just if it keeps
every rule, and is otherwise refused for the broken rule of the least rank.

The loop over the parameters carries the names that it has seen. Its invariant is that these
are the names of the parameters in front (`exists_first_of_parametersDefect?`). -/
namespace FactoryGen

/-- A rule is broken, and none of a lower rank is. -/
structure FirstBroken {Rule : Type} (rank : Rule → Nat) (Breaks : Rule → Prop) (rule : Rule) :
    Prop where
  broken : Breaks rule
  earlier : ∀ other, rank other < rank rule → ¬ Breaks other

/-- Where ranks tell rules apart, only one is the first. -/
theorem FirstBroken.unique {Rule : Type} {rank : Rule → Nat} {Breaks : Rule → Prop}
    (hrank : ∀ a b, rank a = rank b → a = b) {rule other : Rule}
    (h : FirstBroken rank Breaks rule) (h' : FirstBroken rank Breaks other) : rule = other := by
  apply hrank
  have hle : ¬ rank other < rank rule := fun hlt => h.earlier other hlt h'.broken
  have hge : ¬ rank rule < rank other := fun hlt => h'.earlier rule hlt h.broken
  omega

namespace Shape

/-- What is asked of a parameter. -/
inductive ParameterRule where
  | name
  | type
  | distinct
deriving DecidableEq, Repr

namespace ParameterRule

def rank : ParameterRule → Nat
  | .name => 0
  | .type => 1
  | .distinct => 2

/-- A parameter behind some others breaks a rule. -/
def IsBroken (earlier : List Parameter) (parameter : Parameter) : ParameterRule → Prop
  | .name => Kotlin.isIdentifier (Kotlin.strip parameter.name) = false
  | .type => Kotlin.isTypeReference (Kotlin.strip parameter.type) = false
  | .distinct => ∃ other ∈ earlier, Kotlin.strip other.name = Kotlin.strip parameter.name

/-- What is said of a parameter that breaks a rule. -/
def defect (parameter : Parameter) : ParameterRule → Defect
  | .name => .parameterName parameter.name
  | .type => .parameterType (Kotlin.strip parameter.name) parameter.type
  | .distinct => .repeatedParameter (Kotlin.strip parameter.name)

theorem rank_lt (part : ParameterRule) : part.rank < 3 := by
  cases part <;> decide

theorem rank_inj {part part' : ParameterRule} (h : part.rank = part'.rank) : part = part' := by
  cases part <;> cases part' <;> first | rfl | cases h

/-- Without its backticks a parameter breaks the same rules. -/
theorem isBroken_strip (earlier : List Parameter) (parameter : Parameter) (part : ParameterRule) :
    part.IsBroken (earlier.map Parameter.strip) parameter.strip ↔
      part.IsBroken earlier parameter := by
  cases part with
  | name => simp only [IsBroken, Parameter.strip, Kotlin.strip_strip]
  | type => simp only [IsBroken, Parameter.strip, Kotlin.strip_strip]
  | distinct =>
    constructor
    · rintro ⟨_, hmem, hsame⟩
      obtain ⟨other, hother, rfl⟩ := List.mem_map.1 hmem
      exact ⟨other, hother, by simpa only [Parameter.strip, Kotlin.strip_strip] using hsame⟩
    · rintro ⟨other, hmem, hsame⟩
      refine ⟨other.strip, List.mem_map_of_mem hmem, ?_⟩
      simpa only [Parameter.strip, Kotlin.strip_strip] using hsame

end ParameterRule

/-- The rules for a shape. -/
inductive Rule where
  | className
  | package
  | parameter (index : Nat) (part : ParameterRule)
deriving DecidableEq, Repr

def Rule.rank : Rule → Nat
  | .className => 0
  | .package => 1
  | .parameter index part => 2 + 3 * index + part.rank

theorem Rule.rank_inj (rule other : Rule) (h : rule.rank = other.rank) : rule = other := by
  cases rule with
  | className => cases other <;> simp only [rank] at h <;> first | rfl | omega
  | package => cases other <;> simp only [rank] at h <;> first | rfl | omega
  | parameter index part =>
    cases other with
    | className => simp only [rank] at h; omega
    | package => simp only [rank] at h; omega
    | parameter index' part' =>
      have hpart := part.rank_lt
      have hpart' := part'.rank_lt
      simp only [rank] at h
      have hindex : index = index' := by omega
      have hrank : part.rank = part'.rank := by omega
      rw [hindex, ParameterRule.rank_inj hrank]

/-- A shape breaks a rule. -/
def Breaks (shape : Shape) : Rule → Prop
  | .className =>
    Kotlin.isIdentifier shape.className = false ∨ Kotlin.isHardKeyword shape.className = true
  | .package =>
    shape.package ≠ "" ∧ ∃ segment ∈ Text.pieces '.' shape.package.toList,
      Kotlin.isIdentifier (String.ofList segment) = false
  | .parameter index part =>
    ∃ parameter, shape.parameters[index]? = some parameter ∧
      part.IsBroken (shape.parameters.take index) parameter

/-- What is said of a shape that breaks a rule. -/
def told (shape : Shape) : Rule → Defect
  | .className => .className shape.className
  | .package => .package shape.package
  | .parameter index part => part.defect (shape.parameters.getD index default)

/-- The first rule that a shape breaks. -/
abbrev BreaksFirst (shape : Shape) : Rule → Prop := FirstBroken Rule.rank shape.Breaks

variable {shape : Shape}

theorem isPackage_iff (package : String) :
    Kotlin.isPackage package = true ↔
      (package = "" ∨ ∀ segment ∈ Text.pieces '.' package.toList,
        Kotlin.isIdentifier (String.ofList segment) = true) := by
  unfold Kotlin.isPackage Kotlin.packageSegments
  split
  · next h => simp [h]
  · next h => simp [h]

theorem breaks_className_iff :
    shape.Breaks .className ↔
      (!Kotlin.isIdentifier shape.className || Kotlin.isHardKeyword shape.className) = true := by
  simp only [Breaks, Bool.or_eq_true, Bool.not_eq_true']

theorem breaks_package_iff : shape.Breaks .package ↔ (!Kotlin.isPackage shape.package) = true := by
  rw [Bool.not_eq_true', ← Bool.not_eq_true, isPackage_iff]
  simp only [Breaks, not_or, Classical.not_forall, Bool.not_eq_true, exists_prop, ne_eq]

/-- Without backticks a shape breaks the same rules. -/
theorem breaks_strip_iff (rule : Rule) : shape.strip.Breaks rule ↔ shape.Breaks rule := by
  cases rule with
  | className => exact Iff.rfl
  | package => exact Iff.rfl
  | parameter index part =>
    simp only [Breaks, strip, List.getElem?_map, ← List.map_take, Option.map_eq_some_iff]
    constructor
    · rintro ⟨_, ⟨parameter, hparameter, rfl⟩, hbroken⟩
      exact ⟨parameter, hparameter, (part.isBroken_strip _ parameter).1 hbroken⟩
    · rintro ⟨parameter, hparameter, hbroken⟩
      exact ⟨_, ⟨parameter, hparameter, rfl⟩, (part.isBroken_strip _ parameter).2 hbroken⟩

theorem breaksFirst_strip_iff (rule : Rule) :
    shape.strip.BreaksFirst rule ↔ shape.BreaksFirst rule := by
  constructor
  · intro h
    exact ⟨(breaks_strip_iff rule).1 h.broken,
      fun other hlt hother => h.earlier other hlt ((breaks_strip_iff other).2 hother)⟩
  · intro h
    exact ⟨(breaks_strip_iff rule).2 h.broken,
      fun other hlt hother => h.earlier other hlt ((breaks_strip_iff other).1 hother)⟩

/-! ### The parameters -/

section
variable {before rest : List Parameter} {parameter : Parameter}

theorem breaks_parameter_iff (h : shape.parameters = before ++ parameter :: rest)
    (part : ParameterRule) :
    shape.Breaks (.parameter before.length part) ↔ part.IsBroken before parameter := by
  have hget : shape.parameters[before.length]? = some parameter := by
    rw [h, List.getElem?_append_right (Nat.le_refl _), Nat.sub_self]
    rfl
  have htake : shape.parameters.take before.length = before := by
    rw [h, List.take_left]
  simp only [Breaks, hget, htake, Option.some.injEq, exists_eq_left']

theorem told_parameter (h : shape.parameters = before ++ parameter :: rest)
    (part : ParameterRule) :
    shape.told (.parameter before.length part) = part.defect parameter := by
  simp only [told, h, List.getD_eq_getElem?_getD, List.getElem?_append_right (Nat.le_refl _),
    Nat.sub_self, List.getElem?_cons_zero, Option.getD_some]

/-- The names seen are those of the parameters in front. -/
def Sees (seen : List String) (before : List Parameter) : Prop :=
  ∀ name, name ∈ seen ↔ ∃ other ∈ before, Kotlin.strip other.name = name

theorem Sees.cons {seen : List String} (h : Sees seen before) (parameter : Parameter) :
    Sees (Kotlin.strip parameter.name :: seen) (before ++ [parameter]) := by
  intro name
  simp only [List.mem_cons, h name, List.mem_append, List.not_mem_nil, or_false]
  constructor
  · rintro (rfl | ⟨other, hmem, hname⟩)
    · exact ⟨parameter, .inr rfl, rfl⟩
    · exact ⟨other, .inl hmem, hname⟩
  · rintro ⟨other, hmem | rfl, hname⟩
    · exact .inr ⟨other, hmem, hname⟩
    · exact .inl hname.symm

/-- One round of the loop: the parameter breaks a rule, and the first it breaks is told, or
it breaks none. -/
theorem parametersDefect?_cons {seen : List String} {defect : Defect} (hseen : Sees seen before)
    (h : parametersDefect? seen (parameter :: rest) = some defect) :
    (∃ part, FirstBroken ParameterRule.rank (ParameterRule.IsBroken before parameter) part ∧
      defect = part.defect parameter) ∨
    (∀ part : ParameterRule, ¬ part.IsBroken before parameter) ∧
      parametersDefect? (Kotlin.strip parameter.name :: seen) rest = some defect := by
  have hname_iff : (!Kotlin.isIdentifier (Kotlin.strip parameter.name)) = true ↔
      ParameterRule.name.IsBroken before parameter := by
    rw [Bool.not_eq_true', ParameterRule.IsBroken]
  have htype_iff : (!Kotlin.isTypeReference (Kotlin.strip parameter.type)) = true ↔
      ParameterRule.type.IsBroken before parameter := by
    rw [Bool.not_eq_true', ParameterRule.IsBroken]
  have hrepeated_iff : seen.contains (Kotlin.strip parameter.name) = true ↔
      ParameterRule.distinct.IsBroken before parameter :=
    List.contains_iff_mem.trans (hseen _)
  simp only [parametersDefect?] at h
  split at h
  · next hname =>
    refine .inl ⟨.name, ⟨hname_iff.1 hname, ?_⟩, (Option.some.inj h).symm⟩
    exact fun other hlt => absurd hlt (Nat.not_lt_zero _)
  · next hname =>
    rw [hname_iff] at hname
    split at h
    · next htype =>
      refine .inl ⟨.type, ⟨htype_iff.1 htype, ?_⟩, (Option.some.inj h).symm⟩
      rintro (_ | _ | _) hlt
      · exact hname
      · exact absurd hlt (by decide)
      · exact absurd hlt (by decide)
    · next htype =>
      rw [htype_iff] at htype
      split at h
      · next hcontains =>
        refine .inl ⟨.distinct, ⟨hrepeated_iff.1 hcontains, ?_⟩, (Option.some.inj h).symm⟩
        rintro (_ | _ | _) hlt
        · exact hname
        · exact htype
        · exact absurd hlt (by decide)
      · next hcontains =>
        rw [hrepeated_iff] at hcontains
        refine .inr ⟨?_, h⟩
        rintro (_ | _ | _)
        · exact hname
        · exact htype
        · exact hcontains

/-- The loop over the parameters stops at the first rule that one of them breaks. -/
theorem exists_first_of_parametersDefect? {seen : List String} {defect : Defect}
    (hshape : shape.parameters = before ++ rest) (hseen : Sees seen before)
    (h : parametersDefect? seen rest = some defect) :
    ∃ index part, before.length ≤ index ∧ shape.Breaks (.parameter index part) ∧
      defect = shape.told (.parameter index part) ∧
      ∀ index' part', before.length ≤ index' →
        (Rule.parameter index' part').rank < (Rule.parameter index part).rank →
        ¬ shape.Breaks (.parameter index' part') := by
  induction rest generalizing before seen with
  | nil => cases h
  | cons parameter rest ih =>
    have hbreaks := breaks_parameter_iff hshape
    rcases parametersDefect?_cons hseen h with ⟨part, hfirst, hdefect⟩ | ⟨hkept, hrest⟩
    · refine ⟨before.length, part, Nat.le_refl _, (hbreaks part).2 hfirst.broken,
        hdefect.trans (told_parameter hshape part).symm, ?_⟩
      intro index' part' hindex hlt
      have hpart := part.rank_lt
      simp only [Rule.rank] at hlt
      have hsame : index' = before.length := by omega
      subst hsame
      rw [hbreaks part']
      exact hfirst.earlier part' (by omega)
    · have hshape' : shape.parameters = (before ++ [parameter]) ++ rest := by
        rw [hshape, List.append_assoc, List.singleton_append]
      obtain ⟨index, part, hindex, hbroken, hdefect, hearlier⟩ :=
        ih hshape' (hseen.cons parameter) hrest
      rw [List.length_append, List.length_singleton] at hindex hearlier
      refine ⟨index, part, by omega, hbroken, hdefect, ?_⟩
      intro index' part' hindex' hlt
      rcases Nat.eq_or_lt_of_le hindex' with hsame | hlater
      · subst hsame
        rw [hbreaks part']
        exact hkept part'
      · exact hearlier index' part' hlater hlt

end

/-! ### The shape -/

/-- A shape that breaks no rule keeps every one. -/
theorem not_breaks_of_sound (h : shape.defect? = none) (rule : Rule) : ¬ shape.Breaks rule := by
  obtain ⟨hname, hkeyword, hpackage, hparameters, hnodup⟩ := (defect?_eq_none_iff shape).1 h
  cases rule with
  | className =>
    rw [breaks_className_iff, hname, hkeyword]
    decide
  | package =>
    rw [breaks_package_iff, hpackage]
    decide
  | parameter index part =>
    rintro ⟨parameter, hget, hbroken⟩
    have hsound := hparameters parameter (List.mem_of_getElem? hget)
    cases part with
    | name => exact Bool.eq_false_iff.1 hbroken hsound.1
    | type => exact Bool.eq_false_iff.1 hbroken hsound.2
    | distinct =>
      obtain ⟨other, hmem, hsame⟩ := hbroken
      have hfront := hnodup.sublist ((List.take_sublist (index + 1) _).map _)
      rw [List.take_add_one, hget, List.map_append, List.nodup_append] at hfront
      exact hfront.2.2 _ (List.mem_map_of_mem hmem) _ (List.mem_singleton_self _) hsame

/-- What a shape is refused for is the first rule that it breaks. -/
theorem exists_first_of_defect? {defect : Defect} (h : shape.defect? = some defect) :
    ∃ rule, shape.BreaksFirst rule ∧ defect = shape.told rule := by
  unfold defect? at h
  split at h
  · next hname =>
    refine ⟨.className, ⟨breaks_className_iff.2 hname, ?_⟩, (Option.some.inj h).symm⟩
    exact fun other hlt => absurd hlt (Nat.not_lt_zero _)
  · next hname =>
    split at h
    · next hpackage =>
      refine ⟨.package, ⟨breaks_package_iff.2 hpackage, ?_⟩, (Option.some.inj h).symm⟩
      rintro (_ | _ | _) hlt
      · exact fun hbroken => hname (breaks_className_iff.1 hbroken)
      · exact absurd hlt (Nat.lt_irrefl _)
      · simp only [Rule.rank] at hlt
        omega
    · next hpackage =>
      have hseen : Sees [] [] := fun name => by simp
      obtain ⟨index, part, _, hbroken, hdefect, hearlier⟩ :=
        exists_first_of_parametersDefect? (List.nil_append _).symm hseen h
      refine ⟨.parameter index part, ⟨hbroken, ?_⟩, hdefect⟩
      rintro (_ | _ | ⟨index', part'⟩) hlt
      · exact fun hbroken => hname (breaks_className_iff.1 hbroken)
      · exact fun hbroken => hpackage (breaks_package_iff.1 hbroken)
      · exact hearlier index' part' (Nat.zero_le _) hlt

theorem defect?_eq_none_iff_forall : shape.defect? = none ↔ ∀ rule, ¬ shape.Breaks rule := by
  refine ⟨not_breaks_of_sound, fun hkeeps => ?_⟩
  cases hdefect : shape.defect? with
  | none => rfl
  | some defect =>
    obtain ⟨rule, hfirst, _⟩ := exists_first_of_defect? hdefect
    exact absurd hfirst.broken (hkeeps rule)

/-- Backticks on parameters do not matter to the rules. -/
theorem defect?_strip_eq_none_iff : shape.strip.defect? = none ↔ shape.defect? = none := by
  simp only [defect?_eq_none_iff_forall, breaks_strip_iff]

/-- **A shape is refused just for the first rule that it breaks.** -/
theorem defect?_eq_some_iff (defect : Defect) :
    shape.defect? = some defect ↔ ∃ rule, shape.BreaksFirst rule ∧ defect = shape.told rule := by
  refine ⟨exists_first_of_defect?, ?_⟩
  rintro ⟨rule, hfirst, rfl⟩
  cases hdefect : shape.defect? with
  | none => exact absurd hfirst.broken (not_breaks_of_sound hdefect rule)
  | some defect =>
    obtain ⟨other, hother, rfl⟩ := exists_first_of_defect? hdefect
    rw [hfirst.unique Rule.rank_inj hother]

end Shape

namespace Symbol

/-- The rules of the gate. -/
inductive Rule where
  | kind
  | supertype
  | shape (rule : Shape.Rule)
deriving DecidableEq, Repr

def Rule.rank : Rule → Nat
  | .kind => 0
  | .supertype => 1
  | .shape rule => 2 + rule.rank

theorem Rule.rank_inj (rule other : Rule) (h : rule.rank = other.rank) : rule = other := by
  cases rule <;> cases other <;> simp only [rank] at h <;> first | rfl | omega | skip
  rw [Shape.Rule.rank_inj _ _ (Nat.add_left_cancel h)]

/-- A symbol breaks a rule, for some type that has to be extended. -/
def Breaks (baseType : String) (symbol : Symbol) : Rule → Prop
  | .kind => symbol.kind ≠ .regularClass
  | .supertype => symbol.supertype ≠ some baseType
  | .shape rule => (symbol.rawShape baseType).Breaks rule

/-- What a symbol that breaks a rule is refused with. Its parameters are told without their
backticks. -/
def told (baseType : String) (symbol : Symbol) : Rule → Problem
  | .kind => .notAClass symbol.name symbol.kind.name
  | .supertype => .wrongSupertype symbol.name baseType symbol.supertype
  | .shape rule =>
    .invalidShape symbol.name ((symbol.rawShape baseType).strip.told rule).message

abbrev BreaksFirst (baseType : String) (symbol : Symbol) : Rule → Prop :=
  FirstBroken Rule.rank (symbol.Breaks baseType)

variable {baseType : String} {symbol : Symbol}

end Symbol
end FactoryGen
