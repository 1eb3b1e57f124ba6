import EntitySql.Schema.TypeExpr
import Mathlib.Data.List.Basic

/-! # Types of fields

What a written type denotes and what its spelling says are two things. A synonym denotes the type
that it stands for and has a spelling of its own, and parentheses hide the spelling of what they
hold. Where a type is written out as a path, spelling and meaning agree on whether it is an option.

Main statements: `TypeExpr.Denotes.valueType_eq`, `TypeExpr.isSome_optional?_iff`,
`TypeExpr.Denotes.option_iff_isSpelledOption`.
-/

namespace EntitySql.TypeExpr

/-! ## Meaning and spelling -/

/-- The type that a written type denotes: a scalar type under its name, a vector of bytes, an option
of a type, or the type of what it stands for. Values convert to these types. -/
inductive Denotes : TypeExpr → ValueType → Prop where
  | scalar {before : List PathSegment} {type : ScalarType} (h : type ≠ .bytes) :
      Denotes (.path (before ++ [.mk type.name []])) (.plain type)
  | bytes {before : List PathSegment} {element : TypeExpr}
      (h : Denotes element (.plain (.integer .u8))) :
      Denotes (.path (before ++ [.mk "Vec" [.type element]])) (.plain .bytes)
  | option {before : List PathSegment} {inner : TypeExpr} {type : ValueType}
      (h : Denotes inner type) :
      Denotes (.path (before ++ [.mk "Option" [.type inner]])) (.option type)
  | synonym {segments : List PathSegment} {meaning : TypeExpr} {type : ValueType}
      (h : Denotes meaning type) : Denotes (.synonym segments meaning) type
  | parenthesized {inner : TypeExpr} {type : ValueType} (h : Denotes inner type) :
      Denotes (.parenthesized inner) type

/-- The type is spelled as a path, and the path ends in an option of a type. -/
inductive IsSpelledOption : TypeExpr → Prop where
  | path {before : List PathSegment} {inner : TypeExpr} {rest : List GenericArgument} :
      IsSpelledOption (.path (before ++ [.mk "Option" (.type inner :: rest)]))
  | synonym {before : List PathSegment} {inner meaning : TypeExpr} {rest : List GenericArgument} :
      IsSpelledOption (.synonym (before ++ [.mk "Option" (.type inner :: rest)]) meaning)

/-- The type is written as a path to itself, without parentheses and not under another name. -/
def IsWrittenOut (t : TypeExpr) : Prop := ∃ segments, t = .path segments

variable {t : TypeExpr} {type : ValueType}

/-! ## Meaning -/

theorem denotes_named (scalar : ScalarType) (h : scalar ≠ .bytes) :
    (named scalar.name).Denotes (.plain scalar) :=
  @Denotes.scalar [] scalar h

theorem denotes_option {inner : TypeExpr} (h : inner.Denotes type) :
    (applied "Option" [inner]).Denotes (.option type) :=
  @Denotes.option [] inner type h

theorem denotes_vector {element : TypeExpr} (h : element.Denotes (.plain (.integer .u8))) :
    (applied "Vec" [element]).Denotes (.plain .bytes) :=
  @Denotes.bytes [] element h

/-- Every scalar type but that of binary data is found under its name. -/
theorem scalarOfName?_name {scalar : ScalarType} (h : scalar ≠ .bytes) :
    scalarOfName? scalar.name = some scalar := by
  cases scalar with
  | integer t => cases t <;> rfl
  | bytes => exact absurd rfl h
  | _ => rfl

/-- The last segment of a path gives its type. -/
theorem valueType_path (before : List PathSegment) (name : String)
    (arguments : List GenericArgument) :
    (path (before ++ [.mk name arguments])).valueType =
      typeOfName name (argumentTypes arguments) := by
  rw [valueType]
  induction before with
  | nil => rfl
  | cons first before ih =>
      rcases first with ⟨_, _⟩
      cases before with
      | nil => rfl
      | cons second before => exact ih

/-- A written type is read as what it denotes. -/
theorem Denotes.valueType_eq (h : t.Denotes type) : t.valueType = type := by
  induction h with
  | scalar h => rw [valueType_path, argumentTypes, typeOfName, scalarOfName?_name h]
  | bytes helement ih =>
      rw [valueType_path, argumentTypes, ih]
      rfl
  | option hinner ih =>
      rw [valueType_path, argumentTypes, ih]
      rfl
  | synonym hmeaning ih => rw [valueType, ih]
  | parenthesized hinner ih => rw [valueType, ih]

/-! ## Spelling -/

theorem optional?_eq_some_iff {inner : TypeExpr} :
    t.optional? = some inner ↔
      ∃ rest, t.lastSegment? = some (.mk "Option" (.type inner :: rest)) := by
  unfold optional?
  split
  · rename_i name first rest hlast
    rw [hlast]
    split_ifs with hname <;> simp [hname]
  · rename_i hother
    constructor
    · intro h
      cases h
    · rintro ⟨rest, hlast⟩
      exact absurd hlast (hother _ _ _)

/-- A type is taken for optional by its spelling. -/
theorem isSome_optional?_iff : t.optional?.isSome = true ↔ t.IsSpelledOption := by
  rw [Option.isSome_iff_exists]
  constructor
  · rintro ⟨inner, h⟩
    rcases optional?_eq_some_iff.mp h with ⟨rest, hlast⟩
    cases t with
    | path segments =>
        rcases List.getLast?_eq_some_iff.mp hlast with ⟨before, rfl⟩
        exact .path
    | synonym segments meaning =>
        rcases List.getLast?_eq_some_iff.mp hlast with ⟨before, rfl⟩
        exact .synonym
    | _ => cases hlast
  · intro h
    cases h with
    | path => exact ⟨_, optional?_eq_some_iff.mpr ⟨_, List.getLast?_concat⟩⟩
    | synonym => exact ⟨_, optional?_eq_some_iff.mpr ⟨_, List.getLast?_concat⟩⟩

/-- A type that is written out is an option exactly where it is spelled as one. -/
theorem Denotes.option_iff_isSpelledOption (h : t.Denotes type) (hpath : t.IsWrittenOut) :
    (∃ inner, type = .option inner) ↔ t.IsSpelledOption := by
  rw [← isSome_optional?_iff]
  cases h with
  | scalar h => simp [optional?, lastSegment?]
  | bytes helement => simp [optional?, lastSegment?]
  | option hinner => simp [optional?, lastSegment?]
  | synonym hmeaning =>
      rcases hpath with ⟨segments, hpath⟩
      cases hpath
  | parenthesized hinner =>
      rcases hpath with ⟨segments, hpath⟩
      cases hpath

end EntitySql.TypeExpr
