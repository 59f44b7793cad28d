import KernelTyping.Proofs.Attempts
import KernelTyping.Proofs.Surface
import Mathlib.Data.List.TakeWhile

set_option autoImplicit false

/-! # Where a run of registrations stops

Registrations that declare nothing twice and have distinct keys stop just at the first of them
whose key is taken already: the error is the duplicate of this key, and the builder holds what it
held before and the registrations in front of that one (`registerAll_of_distinct`). Declaring the
built-in surface is such a run. Its keys stand in one fixed order (`Cuda.declarationOrder`),
whatever the configuration and the parser, so it stops at the first key of this order that is
taken (`Cuda.declare_stops_at_first_taken`).
-/

namespace KernelTyping

/-- The error of a registration whose key is taken. -/
def Key.duplicate : Key → RegistryError
  | .intrinsic id => .duplicateRule id
  | .scope ns => .duplicateNamespace ns
  | .global name => .duplicateGlobal name

/-- A key that is taken is never reported as a repeated member. -/
theorem Key.duplicate_ne_duplicateMember (key : Key) (ns : NamespaceId) (member : String) :
    key.duplicate ≠ .duplicateMember ns member := by
  cases key <;> simp [duplicate]

namespace Builder

/-! ## Runs that stop -/

theorem register_of_taken {b : Builder} {item : Registration} (hrepeated : item.repeated = [])
    (htaken : b.contents.has item.key = true) : b.register item = .error item.key.duplicate := by
  rw [register_eq_error_iff]
  cases item with
  | rule id rule => exact .rule htaken
  | attributes ns members => exact .attributes hrepeated htaken
  | global name ty => exact .global htaken

theorem registerAll_append {done : List Registration} {b b' : Builder}
    (h : b.registerAll done = (b', none)) (rest : List Registration) :
    b.registerAll (done ++ rest) = b'.registerAll rest := by
  induction done generalizing b with
  | nil =>
      obtain rfl : b = b' := (Prod.mk.inj h).1
      rfl
  | cons item done ih =>
      cases hitem : b.register item with
      | error e => simp [registerAll, hitem] at h
      | ok next =>
          rw [registerAll_cons_of_ok hitem] at h
          rw [List.cons_append, registerAll_cons_of_ok hitem]
          exact ih h

/-- Registrations with new keys succeed up to one whose key is taken, and this one fails. -/
theorem registerAll_of_taken {b : Builder} {done rest : List Registration} {item : Registration}
    (hrepeated : ∀ other ∈ done ++ item :: rest, other.repeated = [])
    (hdistinct : ((done ++ item :: rest).map Registration.key).Nodup)
    (hfresh : ∀ other ∈ done, b.contents.has other.key = false)
    (htaken : b.contents.has item.key = true) :
    ∃ b', b.registerAll (done ++ item :: rest) = (b', some item.key.duplicate)
      ∧ ∀ other, b'.contents.Holds other ↔ other ∈ done ∨ b.contents.Holds other := by
  have hdone : (done.map Registration.key).Nodup := by
    rw [List.map_append] at hdistinct
    exact (List.nodup_append.1 hdistinct).1
  obtain ⟨b', hb'⟩ := registerAll_of_fresh
    (fun other hother => hrepeated other (List.mem_append_left _ hother)) hdone hfresh
  have hholds : ∀ other, b'.contents.Holds other ↔ other ∈ done ∨ b.contents.Holds other :=
    holds_registerAll hb'
  -- What took the key before the run still has it.
  have htaken' : b'.contents.has item.key = true := by
    obtain ⟨other, hkey, hother⟩ := (Registry.has_iff _ _).1 htaken
    exact (Registry.has_iff _ _).2 ⟨other, hkey, (hholds other).2 (.inr hother)⟩
  have hstop : b'.register item = .error item.key.duplicate :=
    register_of_taken (hrepeated item (by simp)) htaken'
  refine ⟨b', ?_, hholds⟩
  rw [registerAll_append hb', registerAll_cons_of_error hstop]

/-- Registrations that declare nothing twice and have distinct keys stop at the first key that is
taken, and what comes in front of it is added. -/
theorem registerAll_of_distinct {items : List Registration}
    (hrepeated : ∀ item ∈ items, item.repeated = [])
    (hdistinct : (items.map Registration.key).Nodup) (b : Builder) :
    (b.registerAll items).2
        = ((items.map Registration.key).find? b.contents.has).map Key.duplicate
      ∧ ∀ other, (b.registerAll items).1.contents.Holds other ↔
        b.contents.Holds other
          ∨ other ∈ items.takeWhile fun item => !b.contents.has item.key := by
  rw [List.find?_map]
  cases hfirst : items.find? (b.contents.has ∘ Registration.key) with
  | none =>
      have hfresh : ∀ item ∈ items, b.contents.has item.key = false := by
        intro item hitem
        simpa using List.find?_eq_none.1 hfirst item hitem
      have hall : (items.takeWhile fun item => !b.contents.has item.key) = items := by
        rw [List.takeWhile_eq_self_iff]
        intro item hitem
        rw [hfresh item hitem]
        rfl
      obtain ⟨b', hb'⟩ := registerAll_of_fresh hrepeated hdistinct hfresh
      rw [hall, hb']
      refine ⟨rfl, ?_⟩
      intro other
      rw [holds_registerAll hb', or_comm]
  | some item =>
      obtain ⟨htaken, done, rest, rfl, hdone⟩ := List.find?_eq_some_iff_append.1 hfirst
      have hfresh : ∀ other ∈ done, b.contents.has other.key = false := by
        intro other hother
        simpa using hdone other hother
      have hfront : ((done ++ item :: rest).takeWhile fun item => !b.contents.has item.key)
          = done := by
        have hstop : b.contents.has item.key = true := htaken
        rw [List.takeWhile_append_of_pos (fun other hother => by simp [hfresh other hother]),
          List.takeWhile_cons_of_neg (by simp [hstop]), List.append_nil]
      obtain ⟨b', hb', hholds⟩ := registerAll_of_taken hrepeated hdistinct hfresh htaken
      rw [hfront, hb']
      refine ⟨rfl, ?_⟩
      intro other
      rw [hholds, or_comm]

end Builder

/-! ## Declaring the surface -/

namespace Cuda

/-- The keys that the surface takes, in the order in which they are taken. A namespace comes
behind the intrinsics that are its members, so the root namespace comes late, though most of its
members come first. -/
def declarationOrder : List Key :=
  ["syncthreads", "syncthreads_count", "syncthreads_and", "syncthreads_or", "threadfence",
    "threadfence_block", "threadfence_system", "syncwarp", "shfl_sync_intrinsic",
    "vote_sync_intrinsic", "match_any_sync", "match_all_sync", "popc", "clz", "ffs", "brev",
    "fma", "grid", "gridsize", "selp"].map (fun name => Key.intrinsic ⟨"cuda." ++ name⟩) ++
  [.intrinsic ⟨"cuda.shared.array"⟩, .scope ⟨"cuda.shared"⟩,
    .intrinsic ⟨"cuda.local.array"⟩, .scope ⟨"cuda.local"⟩,
    .intrinsic ⟨"cuda.const.array_like"⟩, .scope ⟨"cuda.const"⟩,
    .intrinsic ⟨"cuda.atomic.add"⟩, .intrinsic ⟨"cuda.atomic.max"⟩,
    .intrinsic ⟨"cuda.atomic.min"⟩, .intrinsic ⟨"cuda.atomic.compare_and_swap"⟩,
    .scope ⟨"cuda.atomic"⟩, .scope ⟨"cuda.dim3"⟩, .scope ⟨"cuda"⟩, .global "cuda"] ++
  ["int8", "int16", "int32", "int64", "uint8", "uint16", "uint32", "uint64", "float16",
    "float32", "float64", "bool_", "intp", "uintp"].map Key.global

variable (config : EngineConfig) (parser : ArraySpecParser)

theorem keys_surface_eq : (surface config parser).map Registration.key = declarationOrder := by
  rw [keys_surface]
  rfl

/-- **Declaring the surface stops at the first key that is taken.** The keys are taken in one
order, whatever the configuration and the parser. The declaration succeeds just if none of them
was taken before; otherwise the error is the duplicate of the first one that was, and never a
repeated member. The builder then holds all that it held before and the registrations of the
surface in front of the one that failed, and nothing else. -/
theorem declare_stops_at_first_taken (b : Builder) :
    (surface config parser).map Registration.key = declarationOrder
      ∧ ((declare b config parser).2 = none ↔
        ∀ key ∈ declarationOrder, b.contents.has key = false)
      ∧ (declare b config parser).2
        = (declarationOrder.find? b.contents.has).map Key.duplicate
      ∧ (∀ ns member, (declare b config parser).2 ≠ some (.duplicateMember ns member))
      ∧ ∀ item, (declare b config parser).1.contents.Holds item ↔
        b.contents.Holds item
          ∨ item ∈ (surface config parser).takeWhile fun other => !b.contents.has other.key := by
  have hkeys := keys_surface_eq config parser
  obtain ⟨hstop, hholds⟩ := Builder.registerAll_of_distinct
    (fun item => repeated_of_mem_surface config parser) (nodup_keys_surface config parser) b
  rw [hkeys] at hstop
  refine ⟨hkeys, ?_, hstop, ?_, hholds⟩
  · show (b.registerAll (surface config parser)).2 = none ↔ _
    rw [hstop, Option.map_eq_none_iff, List.find?_eq_none]
    simp
  · intro ns member hmember
    obtain ⟨key, -, hkey⟩ := Option.map_eq_some_iff.1 (hstop.symm.trans hmember)
    exact key.duplicate_ne_duplicateMember ns member hkey

-- Of two names that are taken the one that the surface takes first counts, here a namespace after
-- which nothing more is registered.
example :
    let b := (Builder.empty.registerAll
      [.global "cuda" .unit, .attributes ⟨"cuda.local"⟩ .empty]).1
    let declared := declare b .standard .standard
    declared.2 = some (.duplicateNamespace ⟨"cuda.local"⟩)
      ∧ declared.1.contents.has (.intrinsic ⟨"cuda.local.array"⟩) = true
      ∧ declared.1.contents.has (.intrinsic ⟨"cuda.const.array_like"⟩) = false := by
  decide +kernel

end Cuda

end KernelTyping
