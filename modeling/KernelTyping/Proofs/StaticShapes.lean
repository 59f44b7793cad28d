import KernelTyping.Shape
import Mathlib.Data.List.Forall2

set_option autoImplicit false

/-! # Static shapes

A shape is static if it is an extent that is known at compile time, or a tuple of such extents
(`HasExtents`). An extent is stated by the constant of the outermost literal, over a base that is
an integer once all its own literals are removed (`StatesExtent`): the base may hold literals of
any constant, but only the outermost constant counts. Shape analysis finds just these shapes with
these extents (`staticExtents_eq_some_iff`), and the usual parser counts the extents as far as 32
bits reach (`ArraySpecParser.map_rank_standard_eq_some_iff`).
-/

namespace KernelTyping

namespace Ty

/-- Whether a type is a literal that states this extent. -/
inductive StatesExtent : Ty → Int64 → Prop
  | intro {base : Ty} {width : IntWidth} {sign : Signedness} {extent : Int64}
      (hbase : base.unliteral = .scalar (.int width sign)) :
      StatesExtent (.literal base (.int extent)) extent

/-- Whether a type is a static shape with these extents, outermost first. -/
inductive HasExtents : Ty → List Int64 → Prop
  | tuple {dims : List Ty} {extents : List Int64} (hdims : List.Forall₂ StatesExtent dims extents) :
      HasExtents (.tuple dims) extents
  | single {shape : Ty} {extent : Int64} (hshape : StatesExtent shape extent) :
      HasExtents shape [extent]

/-- The literals and tuples that state no extent: a literal around a tuple, a tuple, a boolean
constant, and an integer constant over a base that is no integer. -/
inductive StatesNone : Ty → Prop
  | overTuple {base : Ty} {dims : List Ty} (value : LiteralValue)
      (hbase : base.unliteral = .tuple dims) : StatesNone (.literal base value)
  | tuple (dims : List Ty) : StatesNone (.tuple dims)
  | bool (base : Ty) (value : Bool) : StatesNone (.literal base (.bool value))
  | overOther {base : Ty} (extent : Int64) (hbase : base.isInteger = false) :
      StatesNone (.literal base (.int extent))

/-! ## Extents -/

theorem isInteger_iff {ty : Ty} :
    ty.isInteger = true ↔ ∃ width sign, ty.unliteral = .scalar (.int width sign) := by
  unfold isInteger
  split
  case h_1 width sign hty => exact ⟨fun _ => ⟨width, sign, hty⟩, fun _ => rfl⟩
  case h_2 hother =>
    constructor
    · intro h
      cases h
    · rintro ⟨width, sign, hty⟩
      exact absurd hty (hother width sign)

theorem extent?_eq_some_iff {ty : Ty} {extent : Int64} :
    ty.extent? = some extent ↔ StatesExtent ty extent := by
  constructor
  · intro h
    unfold extent? at h
    split at h
    case isFalse => cases h
    case isTrue hinteger =>
      unfold literalInt? at h
      split at h
      case h_2 => cases h
      case h_1 base value =>
        cases h
        -- The literal itself is removed before its base is looked at.
        obtain ⟨width, sign, hbase⟩ := isInteger_iff.1 hinteger
        exact .intro hbase
  · intro h
    cases h with
    | @intro base width sign _ hbase =>
        have hinteger : (literal base (.int extent)).isInteger = true :=
          isInteger_iff.2 ⟨width, sign, hbase⟩
        rw [extent?, if_pos hinteger]
        rfl

theorem StatesNone.not_statesExtent {ty : Ty} (h : StatesNone ty) (extent : Int64) :
    ¬ StatesExtent ty extent := by
  intro hstates
  cases hstates with
  | @intro base width sign extent hbase =>
      cases h with
      | overTuple _ htuple =>
          rw [hbase] at htuple
          cases htuple
      | overOther _ hother =>
          rw [isInteger_iff.2 ⟨width, sign, hbase⟩] at hother
          cases hother

/-! ## Shapes -/

/-- The extents of a list of types are known just if each type states one, in order. -/
theorem mapM_extent?_eq_some_iff {dims : List Ty} {extents : List Int64} :
    dims.mapM extent? = some extents ↔ List.Forall₂ StatesExtent dims extents := by
  induction dims generalizing extents with
  | nil => simp [eq_comm]
  | cons dim dims ih =>
      rw [List.mapM_cons, List.forall₂_cons_left_iff]
      constructor
      · intro h
        obtain ⟨extent, hextent, h⟩ := Option.bind_eq_some_iff.1 h
        obtain ⟨behind, hbehind, h⟩ := Option.bind_eq_some_iff.1 h
        cases h
        exact ⟨extent, behind, extent?_eq_some_iff.1 hextent, ih.1 hbehind, rfl⟩
      · rintro ⟨extent, behind, hextent, hbehind, rfl⟩
        rw [extent?_eq_some_iff.2 hextent, ih.2 hbehind]
        rfl

/-- Shape analysis finds the extents of just the static shapes. -/
theorem staticExtents_eq_some_iff {shape : Ty} {extents : List Int64} :
    shape.staticExtents = some extents ↔ HasExtents shape extents := by
  unfold staticExtents
  split
  case h_1 dims =>
    rw [mapM_extent?_eq_some_iff]
    constructor
    · exact .tuple
    · intro h
      cases h with
      | tuple hdims => exact hdims
      | single hshape => cases hshape
  case h_2 hother =>
    rw [Option.map_eq_some_iff]
    constructor
    · rintro ⟨extent, hextent, rfl⟩
      exact .single (extent?_eq_some_iff.1 hextent)
    · intro h
      cases h with
      | @tuple dims => exact absurd rfl (hother dims)
      | single hshape => exact ⟨_, extent?_eq_some_iff.2 hshape, rfl⟩

theorem isStaticShape_iff {shape : Ty} :
    shape.isStaticShape = true ↔ ∃ extents, shape.staticExtents = some extents :=
  Option.isSome_iff_exists

/-- Integer literals state any extents, also negative ones. -/
theorem staticExtents_intLiterals (extents : List Int64) :
    (tuple (extents.map intLiteral)).staticExtents = some extents := by
  rw [staticExtents_eq_some_iff]
  refine .tuple ?_
  rw [List.forall₂_map_left_iff, List.forall₂_same]
  intro extent _
  exact .intro rfl

/-- A literal that states no extent is no static shape on its own. -/
theorem StatesNone.staticExtents_eq_none {ty : Ty} (h : StatesNone ty)
    (hliteral : ty.isLiteral = true) : ty.staticExtents = none := by
  rw [Option.eq_none_iff_forall_ne_some]
  intro extents hextents
  cases staticExtents_eq_some_iff.1 hextents with
  | tuple => cases hliteral
  | single hshape => exact h.not_statesExtent _ hshape

theorem exists_statesExtent_of_mem {dims : List Ty} {extents : List Int64}
    (h : List.Forall₂ StatesExtent dims extents) {dim : Ty} (hdim : dim ∈ dims) :
    ∃ extent, StatesExtent dim extent := by
  induction h with
  | nil => cases hdim
  | cons hfirst _ ih =>
      rcases List.mem_cons.1 hdim with rfl | hmem
      · exact ⟨_, hfirst⟩
      · exact ih hmem

/-- One element that states no extent is enough for a tuple not to be static. -/
theorem StatesNone.staticExtents_tuple_eq_none {dim : Ty} (h : StatesNone dim) {dims : List Ty}
    (hdim : dim ∈ dims) : (Ty.tuple dims).staticExtents = none := by
  rw [Option.eq_none_iff_forall_ne_some]
  intro extents hextents
  cases staticExtents_eq_some_iff.1 hextents with
  | tuple hdims =>
      obtain ⟨extent, hextent⟩ := exists_statesExtent_of_mem hdims hdim
      exact h.not_statesExtent extent hextent
  | single hshape => cases hshape

end Ty

/-! ## The usual parser -/

namespace ArraySpecParser

theorem rank_standard_of_staticExtents {shape : Ty} {extents : List Int64}
    (hextents : shape.staticExtents = some extents) (hsize : extents.length < UInt32.size) :
    standard.rank shape = some (UInt32.ofNat extents.length) := by
  simp [standard, hextents, hsize]

/-- The usual parser finds as many dimensions as there are extents, if 32 bits hold their
number. -/
theorem map_rank_standard_eq_some_iff {shape : Ty} {ndim : Nat} :
    (standard.rank shape).map UInt32.toNat = some ndim ↔
      ∃ extents, shape.staticExtents = some extents ∧ extents.length = ndim
        ∧ ndim < UInt32.size := by
  constructor
  · intro h
    obtain ⟨rank, hrank, rfl⟩ := Option.map_eq_some_iff.1 h
    obtain ⟨extents, hextents, hfits⟩ := Option.bind_eq_some_iff.1 hrank
    split at hfits
    case isFalse => cases hfits
    case isTrue hsize =>
      cases hfits
      exact ⟨extents, hextents, (UInt32.toNat_ofNat_of_lt' hsize).symm, UInt32.toNat_lt_size _⟩
  · rintro ⟨extents, hextents, rfl, hsize⟩
    rw [rank_standard_of_staticExtents hextents hsize, Option.map_some,
      UInt32.toNat_ofNat_of_lt' hsize]

end ArraySpecParser

/-- **Shape analysis is exact.** A type has static extents just if it is an integer constant over
an integer base, or a tuple of such constants, and the extents are then the constants in order.
A shape is static just if it has static extents, and the usual parser gives it a rank just if
they are fewer than `2 ^ 32`, which is then their number. No literal around a tuple, no boolean
constant and no integer constant over another base is static, and no tuple that has one of these
or a tuple among its elements. Integer literals may state any extents. -/
theorem Ty.staticExtents_exact :
    (∀ shape extents, staticExtents shape = some extents ↔ HasExtents shape extents)
      ∧ (∀ shape, isStaticShape shape = true ↔ ∃ extents, shape.staticExtents = some extents)
      ∧ (∀ shape ndim, (ArraySpecParser.standard.rank shape).map UInt32.toNat = some ndim ↔
        ∃ extents, shape.staticExtents = some extents ∧ extents.length = ndim
          ∧ ndim < UInt32.size)
      ∧ (∀ ty, StatesNone ty → (ty.isLiteral = true → ty.staticExtents = none)
        ∧ ∀ dims, ty ∈ dims → (tuple dims).staticExtents = none)
      ∧ ∀ extents : List Int64, (tuple (extents.map intLiteral)).staticExtents = some extents := by
  refine ⟨?_, ?_, ?_, ?_, staticExtents_intLiterals⟩
  · intro shape extents
    exact staticExtents_eq_some_iff
  · intro shape
    exact isStaticShape_iff
  · intro shape ndim
    exact ArraySpecParser.map_rank_standard_eq_some_iff
  · intro ty hnone
    refine ⟨hnone.staticExtents_eq_none, ?_⟩
    intro dims hdim
    exact hnone.staticExtents_tuple_eq_none hdim

-- The constants of inner literals do not count, be they integers or not.
example :
    (Ty.literal (.literal (.scalar .int64) (.str "n")) (.int (-4))).staticExtents = some [-4] := by
  decide

end KernelTyping
