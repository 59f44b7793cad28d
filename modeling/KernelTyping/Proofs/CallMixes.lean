import KernelTyping.Proofs.Allocation
import KernelTyping.Proofs.AtomicUpdates
import KernelTyping.Proofs.GridQueries
import KernelTyping.Proofs.Overloads
import KernelTyping.Proofs.StaticShapes
import KernelTyping.Workload
import Mathlib.Tactic.IntervalCases

set_option autoImplicit false

/-! # The call mixes on the built-in surface

A mix of any length is the beginning of every longer one (`mix_prefix`), since the call at a place
does not depend on the length. So what a mix does follows from what its places do. A table call
takes its name by the remainder of the place by three and its type by the remainder by eight; these
have no common factor, so every pair of a name and a type has a place among the first 24
(`exists_tableCall_eq`). The tables, the grid queries and the allocations of the mixes all have an
answer; of the atomics every third one has none (`countP_mix`).
-/

namespace KernelTyping

/-- What becomes of a call in a registry. -/
def Call.outcome (call : Call) (r : Registry) : CallOutcome :=
  r.resolveCall call.id call.args .empty

/-- Whether nothing in a registry fits a call. -/
def Call.misses (call : Call) (r : Registry) : Bool :=
  match call.outcome r with
  | .ok none => true
  | _ => false

theorem Call.misses_iff (call : Call) (r : Registry) :
    call.misses r = true ↔ call.outcome r = .ok none := by
  unfold misses
  split
  case h_1 hnone => simp [hnone]
  case h_2 hother => simpa using hother

/-! ## Rules that the mixes call -/

theorem Ty.staticExtents_uniTuple (extent : Int64) (count : Nat) :
    (uniTuple (.intLiteral extent) count).staticExtents
      = some (List.replicate count extent) := by
  rw [uniTuple, ← List.map_replicate, staticExtents_intLiterals]

/-- The usual parser reads a tuple of integer literals as a shape of so many dimensions. -/
theorem ArraySpecParser.reads_uniTuple (extent : Int64) {ndim : Nat}
    (hndim : ndim < UInt32.size) (elem : Ty) :
    standard.Reads (.uniTuple (.intLiteral extent) ndim) (.numberClass elem)
      (UInt32.ofNat ndim) elem := by
  have hextents := Ty.staticExtents_uniTuple extent ndim
  have hlength : (List.replicate ndim extent).length = ndim := List.length_replicate
  refine ⟨Ty.isStaticShape_iff.2 ⟨_, hextents⟩, ?_, rfl⟩
  rw [rank_standard_of_staticExtents hextents (hlength.symm ▸ hndim), hlength]

/-- A table that keeps the type of its operand takes each of its types. -/
theorem Cuda.outcome_unary {types : List Ty} {ty : Ty} (hty : ty ∈ types)
    (hplain : ty.isLiteral = false) : (unary types).outcome [ty] = .ok (some ⟨[ty], ty⟩) := by
  have hsig : (⟨[ty], ty⟩ : Signature) ∈ types.map fun ty => ⟨[ty], ty⟩ :=
    List.mem_map_of_mem hty
  have hliteral : ∀ base value, Ty.literal base value ∉ [ty] := by
    rintro base value hmem
    rw [← List.mem_singleton.1 hmem] at hplain
    cases hplain
  obtain ⟨taken, htaken, hmatch, hparams⟩ := exists_firstMatch_of_mem hsig hliteral
  obtain ⟨ty', -, rfl⟩ := List.mem_map.1 htaken
  obtain rfl : ty' = ty := List.singleton_inj.1 hparams
  exact congrArg Except.ok hmatch

namespace Workload

/-! ## Mixes of any length -/

section Mix

variable (call : Nat → Call)

theorem mix_succ (count : Nat) : mix call (count + 1) = mix call count ++ [call count] := by
  simp only [mix, List.range_succ, List.map_append, List.map_cons, List.map_nil]

theorem length_mix (count : Nat) : (mix call count).length = count := by
  simp [mix]

theorem mix_prefix (count more : Nat) : mix call count <+: mix call (count + more) := by
  induction more with
  | zero => exact List.prefix_refl _
  | succ more ih =>
      rw [← Nat.add_assoc, mix_succ]
      exact ih.trans (List.prefix_append _ _)

theorem mem_mix_iff (count : Nat) (c : Call) : c ∈ mix call count ↔ ∃ i < count, call i = c := by
  simp [mix]

variable {call} in
theorem forall_mem_mix {p : Call → Prop} (hp : ∀ i, p (call i)) {count : Nat} :
    ∀ c ∈ mix call count, p c := by
  intro c hc
  obtain ⟨i, -, rfl⟩ := (mem_mix_iff call count c).1 hc
  exact hp i

theorem getElem?_mix_eq_some_iff (count i : Nat) (c : Call) :
    (mix call count)[i]? = some c ↔ i < count ∧ call i = c := by
  simp [mix, List.getElem?_eq_some_iff, and_assoc]

variable {call} in
/-- If just every third place has a property, a third of the calls have it. -/
theorem countP_mix {p : Call → Bool} (hp : ∀ i, p (call i) = true ↔ i % 3 = 2) (count : Nat) :
    (mix call count).countP p = count / 3 := by
  induction count with
  | zero => rfl
  | succ count ih =>
      rw [mix_succ, List.countP_append, ih, List.countP_singleton]
      by_cases hcount : count % 3 = 2
      · rw [if_pos ((hp count).2 hcount)]
        omega
      · rw [if_neg fun h => hcount ((hp count).1 h)]
        omega

end Mix

variable {r : Registry}

/-! ## Table calls -/

/-- The names that the table calls go round. -/
def bitNames : List String := ["popc", "clz", "ffs"]

theorem id_tableCall {i : Nat} {name : String} (h : bitNames[i % 3]? = some name) :
    (tableCall i).id = Cuda.intrinsic name := by
  have hplace : i % 3 < 3 := Nat.mod_lt i (by omega)
  simp only [tableCall]
  generalize i % 3 = a at h hplace ⊢
  interval_cases a <;> cases h <;> rfl

theorem args_tableCall {i : Nat} {ty : Ty} (h : Cuda.bitTypes[i % 8]? = some ty) :
    (tableCall i).args = [ty] := by
  have hplace : i % 8 < 8 := Nat.mod_lt i (by omega)
  simp only [tableCall]
  generalize i % 8 = b at h hplace ⊢
  interval_cases b <;> cases h <;> rfl

theorem tableCall_eq {i : Nat} {name : String} {ty : Ty} (hname : bitNames[i % 3]? = some name)
    (hty : Cuda.bitTypes[i % 8]? = some ty) : tableCall i = ⟨Cuda.intrinsic name, [ty]⟩ := by
  rw [← id_tableCall hname, ← args_tableCall hty]

/-- Any two remainders by three and by eight meet within the first 24 places. -/
theorem exists_place {a b : Nat} (ha : a < 3) (hb : b < 8) :
    ∃ i < 24, i % 3 = a ∧ i % 8 = b := by
  refine ⟨(16 * a + 9 * b) % 24, ?_, ?_, ?_⟩ <;> omega

theorem exists_tableCall_eq {name : String} {ty : Ty} (hname : name ∈ bitNames)
    (hty : ty ∈ Cuda.bitTypes) : ∃ i < 24, tableCall i = ⟨Cuda.intrinsic name, [ty]⟩ := by
  obtain ⟨a, ha, rfl⟩ := List.mem_iff_getElem.1 hname
  obtain ⟨b, hb, rfl⟩ := List.mem_iff_getElem.1 hty
  obtain ⟨i, hi, hthree, height⟩ := exists_place ha hb
  refine ⟨i, hi, tableCall_eq ?_ ?_⟩
  · rw [hthree, List.getElem?_eq_getElem ha]
  · rw [height, List.getElem?_eq_getElem hb]

theorem exists_eq_tableCall (i : Nat) :
    ∃ name ∈ bitNames, ∃ ty ∈ Cuda.bitTypes, tableCall i = ⟨Cuda.intrinsic name, [ty]⟩ := by
  have hthree : i % 3 < bitNames.length := Nat.mod_lt i (by decide)
  have height : i % 8 < Cuda.bitTypes.length := Nat.mod_lt i (by decide)
  refine ⟨_, List.getElem_mem hthree, _, List.getElem_mem height, tableCall_eq ?_ ?_⟩
  · exact List.getElem?_eq_getElem hthree
  · exact List.getElem?_eq_getElem height

theorem outcome_tableCall (hr : Cuda.standardRegistry = .ok r) (i : Nat) :
    ∃ ty, (tableCall i).args = [ty] ∧ (tableCall i).outcome r = .ok (some ⟨[ty], ty⟩) := by
  obtain ⟨name, hname, ty, hty, heq⟩ := exists_eq_tableCall i
  have hmem : (name, Cuda.unary Cuda.bitTypes) ∈ Cuda.tableRules := by
    simp only [bitNames, List.mem_cons, List.not_mem_nil, or_false] at hname
    rcases hname with rfl | rfl | rfl <;> simp [Cuda.tableRules]
  have hplain : ∀ ty ∈ Cuda.bitTypes, ty.isLiteral = false := by decide
  rw [heq]
  refine ⟨ty, rfl, ?_⟩
  rw [Call.outcome, Cuda.intrinsic, Cuda.resolveCall_of_surfaceRule hr (.table hmem),
    Cuda.outcome_unary hty (hplain ty hty), mapError_ok]

/-! ## Calls that depend on literals -/

theorem exists_gridResult_place (i : Nat) :
    ∃ ret, Cuda.GridResult (Int64.ofNat (i % 3 + 1)) ret := by
  rw [Cuda.exists_gridResult_iff]
  have hplace : i % 3 = 0 ∨ i % 3 = 1 ∨ i % 3 = 2 := by omega
  rcases hplace with h | h | h <;> rw [h] <;> decide

theorem outcome_literalCall_of_even (hr : Cuda.standardRegistry = .ok r) {i : Nat}
    (hi : i % 2 = 0) :
    ∃ ret, Cuda.GridResult (Int64.ofNat (i % 3 + 1)) ret
      ∧ (literalCall i).outcome r = .ok (some ⟨[.scalar .int32], ret⟩) := by
  obtain ⟨ret, hret⟩ := exists_gridResult_place i
  have hasks : Cuda.AsksFor (Int64.ofNat (i % 3 + 1)) [.intLiteral (Int64.ofNat (i % 3 + 1))] :=
    ⟨_, rfl, rfl⟩
  refine ⟨ret, hret, ?_⟩
  rw [Call.outcome, literalCall, if_pos hi, Registry.resolveCall_empty,
    Cuda.typing_gridQuery hr (.inl rfl), Cuda.gridDims_of_gridResult hasks hret, mapError_ok]

theorem outcome_literalCall_of_odd (hr : Cuda.standardRegistry = .ok r) {i : Nat}
    (hi : i % 2 = 1) :
    (literalCall i).outcome r = .ok (some
      ⟨(literalCall i).args, .array (.scalar .float32) (UInt32.ofNat (i % 3 + 1))⟩) := by
  have hsize : UInt32.size = 2 ^ 32 := rfl
  have hndim : i % 3 + 1 < UInt32.size := by omega
  have hreads := ArraySpecParser.reads_uniTuple 32 hndim (.scalar .float32)
  rw [Call.outcome, literalCall, if_neg (by omega), Cuda.resolveCall_allocate hr (.inl rfl),
    (Cuda.retrying_allocate_eq_some_iff _ _).2 (.plain hreads), mapError_ok]

theorem exists_outcome_literalCall (hr : Cuda.standardRegistry = .ok r) (i : Nat) :
    ∃ sig, (literalCall i).outcome r = .ok (some sig) := by
  by_cases hi : i % 2 = 0
  · obtain ⟨ret, -, houtcome⟩ := outcome_literalCall_of_even hr hi
    exact ⟨_, houtcome⟩
  · exact ⟨_, outcome_literalCall_of_odd hr (by omega)⟩

/-! ## Atomic calls -/

/-- An addition misses just the arrays without dimensions. -/
theorem exists_outcome_add (hr : Cuda.standardRegistry = .ok r) (elem : Ty) (ndim : UInt32)
    (index value : Ty) :
    ∃ found,
      (Call.mk (Cuda.atomic.member "add") [.array elem ndim, index, value]).outcome r = .ok found
        ∧ (found = none ↔ ndim = 0) := by
  refine ⟨_, ?_, Cuda.atomicUpdate_eq_none_iff EngineConfig.standard.intp elem ndim
    (Cuda.seenIndex (.array elem ndim) index)⟩
  rw [Call.outcome, Cuda.resolveCall_of_surfaceRule hr .atomicAdd, Rule.outcome,
    (Cuda.looksAtArray_atomicAdd _).retrying_eq]
  rfl

/-- Maximum and minimum miss the arrays of elements that cannot be ordered, too. -/
theorem exists_outcome_maxMin (hr : Cuda.standardRegistry = .ok r) {name : String}
    (hname : name = "max" ∨ name = "min") (elem : Ty) (ndim : UInt32) (index value : Ty) :
    ∃ found,
      (Call.mk (Cuda.atomic.member name) [.array elem ndim, index, value]).outcome r = .ok found
        ∧ (found = none ↔ elem ∈ Cuda.orderedElemTypes → ndim = 0) := by
  refine ⟨if elem ∈ Cuda.orderedElemTypes then Cuda.atomicUpdate EngineConfig.standard.intp elem
    ndim (Cuda.seenIndex (.array elem ndim) index) else none, ?_, ?_⟩
  · rw [Call.outcome, Cuda.resolveCall_of_surfaceRule hr (.atomicMaxMin hname), Rule.outcome,
      (Cuda.looksAtArray_atomicMaxMin _).retrying_eq]
    rfl
  · rw [ite_eq_right_iff, Cuda.atomicUpdate_eq_none_iff]

/-- Just every third atomic call is missed. -/
theorem outcome_atomicCall (hr : Cuda.standardRegistry = .ok r) (i : Nat) :
    ∃ found, (atomicCall i).outcome r = .ok found ∧ (found = none ↔ i % 3 = 2) := by
  have hplace : i % 3 = 0 ∨ i % 3 = 1 ∨ i % 3 = 2 := by omega
  rcases hplace with hi | hi | hi <;> rw [atomicCall, hi]
  · obtain ⟨found, hfound, hnone⟩ := exists_outcome_add hr (.scalar .int32) 1 (.scalar .int64)
      (.scalar .int32)
    exact ⟨found, hfound, hnone.trans (by decide)⟩
  · obtain ⟨found, hfound, hnone⟩ := exists_outcome_maxMin hr (.inl rfl) (.scalar .float64) 2
      (.uniTuple (.scalar .int64) 2) (.scalar .float64)
    exact ⟨found, hfound, hnone.trans (by decide)⟩
  · obtain ⟨found, hfound, hnone⟩ := exists_outcome_maxMin hr (.inr rfl) (.scalar .int8) 3
      (.uniTuple (.scalar .int64) 3) (.scalar .int8)
    exact ⟨found, hfound, hnone.trans (by decide)⟩

/-! ## The mixes -/

/-- **The mixes do what they promise at every length.** Each of the three has as many calls as
asked for, is the beginning of every longer one, and has no call that is an error. A table call
keeps the type of its operand. A literal call at an even place is a grid query for one to three
dimensions, one at an odd place allocates an array of as many; all of them are typed. Of the atomic
calls just every third one is missed, so a third of them are, rounded down. Among the first 24
table calls is every pair of a bit manipulation and an integer type. -/
theorem outcomes_of_mixes :
    ∃ r, Cuda.standardRegistry = .ok r ∧ ∀ count,
      (∀ calls ∈ [tableCalls, literalCalls, atomicCalls],
        (calls count).length = count
          ∧ (∀ more, calls count <+: calls (count + more))
          ∧ ∀ c ∈ calls count, ∃ found, c.outcome r = .ok found)
      ∧ (∀ c ∈ tableCalls count, ∃ ty, c.args = [ty] ∧ c.outcome r = .ok (some ⟨[ty], ty⟩))
      ∧ (∀ i c, (literalCalls count)[i]? = some c →
        (i % 2 = 0 → ∃ ret, Cuda.GridResult (Int64.ofNat (i % 3 + 1)) ret
          ∧ c.outcome r = .ok (some ⟨[.scalar .int32], ret⟩))
        ∧ (i % 2 = 1 → c.outcome r = .ok (some
          ⟨c.args, .array (.scalar .float32) (UInt32.ofNat (i % 3 + 1))⟩)))
      ∧ (∀ i c, (atomicCalls count)[i]? = some c → (c.outcome r = .ok none ↔ i % 3 = 2))
      ∧ (atomicCalls count).countP (fun c => c.misses r) = count / 3
      ∧ (24 ≤ count → ∀ name ∈ bitNames, ∀ ty ∈ Cuda.bitTypes,
        ⟨Cuda.intrinsic name, [ty]⟩ ∈ tableCalls count) := by
  obtain ⟨r, hr⟩ := Cuda.exists_registry .standard .standard
  refine ⟨r, hr, ?_⟩
  intro count
  have hmissed : ∀ i, (atomicCall i).outcome r = .ok none ↔ i % 3 = 2 := by
    intro i
    obtain ⟨found, hfound, hnone⟩ := outcome_atomicCall hr i
    rw [hfound, Except.ok.injEq, hnone]
  refine ⟨?_, ?_, ?_, ?_, ?_, ?_⟩
  · intro calls hcalls
    simp only [List.mem_cons, List.not_mem_nil, or_false] at hcalls
    rcases hcalls with rfl | rfl | rfl
    · refine ⟨length_mix tableCall count, mix_prefix tableCall count, forall_mem_mix fun i => ?_⟩
      obtain ⟨ty, -, houtcome⟩ := outcome_tableCall hr i
      exact ⟨_, houtcome⟩
    · refine ⟨length_mix literalCall count, mix_prefix literalCall count,
        forall_mem_mix fun i => ?_⟩
      obtain ⟨sig, houtcome⟩ := exists_outcome_literalCall hr i
      exact ⟨_, houtcome⟩
    · refine ⟨length_mix atomicCall count, mix_prefix atomicCall count,
        forall_mem_mix fun i => ?_⟩
      obtain ⟨found, houtcome, -⟩ := outcome_atomicCall hr i
      exact ⟨found, houtcome⟩
  · exact forall_mem_mix (outcome_tableCall hr)
  · intro i c hc
    obtain ⟨-, rfl⟩ := (getElem?_mix_eq_some_iff literalCall count i c).1 hc
    exact ⟨outcome_literalCall_of_even hr, outcome_literalCall_of_odd hr⟩
  · intro i c hc
    obtain ⟨-, rfl⟩ := (getElem?_mix_eq_some_iff atomicCall count i c).1 hc
    exact hmissed i
  · exact countP_mix (fun i => ((atomicCall i).misses_iff r).trans (hmissed i)) count
  · intro hcount name hname ty hty
    obtain ⟨i, hi, heq⟩ := exists_tableCall_eq hname hty
    exact (mem_mix_iff tableCall count _).2 ⟨i, by omega, heq⟩

end Workload

end KernelTyping
