import KernelTyping.Proofs.Stripping

set_option autoImplicit false

/-! # What depends on the configuration and the parser

The answers of a registry read no more of it than the rule of one intrinsic, the members of
namespaces and one global name (`Registry.answerCall_congr` and its neighbours). Of these the
configuration and the parser decide few: the index type of the atomic updates of vectors, the
array allocations, and the names `intp` and `uintp`. Two registries of the built-in surface
answer everything else alike (`Cuda.resolve_eq_of_settings`); neither setting has a way into
any other answer, also not by the second run of a typer.
-/

namespace KernelTyping

/-! ## What an answer reads -/

namespace Registry

variable {r s : Registry}

/-- A call reads the rule of its intrinsic. -/
theorem answerCall_congr {id : IntrinsicId} (h : r.rule? id = s.rule? id) (tracing : Bool)
    (args : List Ty) (named : Table Ty) :
    r.answerCall tracing id args named = s.answerCall tracing id args named := by
  unfold answerCall
  rw [h]

theorem resolveCall_congr {id : IntrinsicId} (h : r.rule? id = s.rule? id) (args : List Ty)
    (named : Table Ty) : r.resolveCall id args named = s.resolveCall id args named :=
  congrArg Noted.value (answerCall_congr h false args named)

/-- A member reads the members of its namespace. -/
theorem answerAttribute_congr {ns : NamespaceId} (h : r.attributes? ns = s.attributes? ns)
    (tracing : Bool) (member : String) :
    r.answerAttribute tracing ns member = s.answerAttribute tracing ns member := by
  unfold answerAttribute
  rw [h]

theorem answerMember_congr (h : ∀ ns, r.attributes? ns = s.attributes? ns) (tracing : Bool)
    (base : Ty) (member : String) :
    r.answerMember tracing base member = s.answerMember tracing base member := by
  cases base with
  | scope ns => exact answerAttribute_congr (h ns) tracing member
  | _ => rfl

theorem answerMembers_congr (h : ∀ ns, r.attributes? ns = s.attributes? ns) (tracing : Bool)
    (base : Ty) (members : List String) :
    r.answerMembers tracing base members = s.answerMembers tracing base members := by
  induction members generalizing base with
  | nil => rfl
  | cons member rest ih =>
      unfold answerMembers
      rw [answerMember_congr h]
      simp only [ih]

theorem answerGlobal_congr {name : String} (h : r.global? name = s.global? name)
    (tracing : Bool) : r.answerGlobal tracing name = s.answerGlobal tracing name := by
  unfold answerGlobal
  rw [h]

/-- A path reads its global name and the members of namespaces. -/
theorem answerPath_congr (h : ∀ ns, r.attributes? ns = s.attributes? ns) {name : String}
    (hname : r.global? name = s.global? name) (tracing : Bool) (members : List String) :
    r.answerPath tracing (name :: members) = s.answerPath tracing (name :: members) := by
  rw [answerPath, answerPath, answerGlobal_congr hname]
  simp only [answerMembers_congr h]

/-- A number class has no members. -/
theorem resolvePath_of_numberClass {name : String} {of : Ty}
    (h : r.global? name = some (.numberClass of)) (member : String) (rest : List String) :
    r.resolvePath (name :: member :: rest) = none := by
  rw [resolvePath, answerPath, answerGlobal, h]
  rfl

end Registry

/-! ## Atomic updates under two configurations -/

namespace Cuda

/-- What an atomic update comes to where pointers are as wide as `i₁`, and where they are as
wide as `i₂`. If it is answered, then with the same array and element, and with the same index
unless the array has one dimension: its index is the integer as wide as a pointer. -/
inductive UpdatesAlike {ε : Type} (i₁ i₂ : Ty) (args : List Ty) :
    Except ε (Option Signature) → Except ε (Option Signature) → Prop
  | answered {first : Ty} {rest : List Ty} {elem j₁ j₂ : Ty} {ndim : UInt32}
      (hargs : args = first :: rest) (harray : first.unliteral = .array elem ndim)
      (hvector : ndim = 1 → j₁ = i₁ ∧ j₂ = i₂) (hother : ndim ≠ 1 → j₁ = j₂) :
      UpdatesAlike i₁ i₂ args (.ok (some ⟨[.array elem ndim, j₁, elem], elem⟩))
        (.ok (some ⟨[.array elem ndim, j₂, elem], elem⟩))
  | unanswered {outcome : Except ε (Option Signature)} (h : ∀ sig, outcome ≠ .ok (some sig)) :
      UpdatesAlike i₁ i₂ args outcome outcome

namespace UpdatesAlike

variable {ε ε' : Type} {i₁ i₂ : Ty} {args : List Ty} {x₁ x₂ : Except ε (Option Signature)}

theorem eq_none_iff (h : UpdatesAlike i₁ i₂ args x₁ x₂) : x₁ = .ok none ↔ x₂ = .ok none := by
  cases h with
  | answered => simp
  | unanswered => exact Iff.rfl

theorem mapError (h : UpdatesAlike i₁ i₂ args x₁ x₂) (f : ε → ε') :
    UpdatesAlike i₁ i₂ args (x₁.mapError f) (x₂.mapError f) := by
  cases h with
  | answered hargs harray hvector hother => exact .answered hargs harray hvector hother
  | unanswered h =>
      refine .unanswered fun sig hsig => ?_
      exact h sig ((mapError_eq_ok_iff f _ _).1 hsig)

/-- A literal around the array makes no difference. -/
theorem of_stripLiterals (h : UpdatesAlike i₁ i₂ (stripLiterals args) x₁ x₂) :
    UpdatesAlike i₁ i₂ args x₁ x₂ := by
  cases h with
  | answered hargs harray hvector hother =>
      cases args with
      | nil => cases hargs
      | cons first rest =>
          obtain ⟨rfl, -⟩ := List.cons.inj hargs
          rw [Ty.unliteral_unliteral] at harray
          exact .answered rfl harray hvector hother
  | unanswered h => exact .unanswered h

/-- Both go on to a second run or neither does. -/
theorem retrying {typer₁ typer₂ : Typer}
    (h : ∀ args, UpdatesAlike i₁ i₂ args (typer₁ args) (typer₂ args)) (args : List Ty) :
    UpdatesAlike i₁ i₂ args (typer₁.retrying args) (typer₂.retrying args) := by
  by_cases h₁ : typer₁ args = .ok none
  · have h₂ : typer₂ args = .ok none := (h args).eq_none_iff.1 h₁
    rw [Typer.retrying_of_none h₁, Typer.retrying_of_none h₂]
    cases args.any Ty.isLiteral with
    | true => exact (h (stripLiterals args)).of_stripLiterals
    | false => exact .unanswered (by simp)
  · have h₂ : typer₂ args ≠ .ok none := fun hnone => h₁ ((h args).eq_none_iff.2 hnone)
    rw [Typer.retrying_of_ne_none h₁, Typer.retrying_of_ne_none h₂]
    exact h args

end UpdatesAlike

theorem updatesAlike_atomicUpdate {ε : Type} (i₁ i₂ elem : Ty) (ndim : UInt32)
    (index value : Ty) :
    UpdatesAlike i₁ i₂ [.array elem ndim, index, value]
      (.ok (atomicUpdate i₁ elem ndim index) : Except ε (Option Signature))
      (.ok (atomicUpdate i₂ elem ndim index)) := by
  unfold atomicUpdate
  by_cases h0 : ndim = 0
  · rw [if_pos h0, if_pos h0]
    exact .unanswered (by simp)
  rw [if_neg h0, if_neg h0]
  by_cases h1 : ndim = 1
  · rw [if_pos h1, if_pos h1]
    exact .answered rfl rfl (fun _ => ⟨rfl, rfl⟩) (fun hne => absurd h1 hne)
  · rw [if_neg h1, if_neg h1]
    exact .answered rfl rfl (fun heq => absurd heq h1) (fun _ => rfl)

theorem updatesAlike_atomicAdd (i₁ i₂ : Ty) (args : List Ty) :
    UpdatesAlike i₁ i₂ args (atomicAdd i₁ args) (atomicAdd i₂ args) := by
  unfold atomicAdd
  split
  · exact updatesAlike_atomicUpdate ..
  · exact .unanswered (by simp)

theorem updatesAlike_atomicMaxMin (i₁ i₂ : Ty) (args : List Ty) :
    UpdatesAlike i₁ i₂ args (atomicMaxMin i₁ args) (atomicMaxMin i₂ args) := by
  unfold atomicMaxMin
  split
  case h_1 elem ndim index value =>
    by_cases hmem : elem ∈ orderedElemTypes
    · rw [if_pos hmem, if_pos hmem]
      exact updatesAlike_atomicUpdate ..
    · rw [if_neg hmem, if_neg hmem]
      exact .unanswered (by simp)
  case h_2 => exact .unanswered (by simp)

/-- A call of an atomic update in two registries that type it for different pointers. -/
theorem updatesAlike_resolveCall {r₁ r₂ : Registry} {id : IntrinsicId} {typer₁ typer₂ : Typer}
    {i₁ i₂ : Ty} (h₁ : r₁.rule? id = some (.predicate typer₁))
    (h₂ : r₂.rule? id = some (.predicate typer₂))
    (h : ∀ args, UpdatesAlike i₁ i₂ args (typer₁ args) (typer₂ args)) (args : List Ty)
    (named : Table Ty) :
    UpdatesAlike i₁ i₂ args (r₁.resolveCall id args named) (r₂.resolveCall id args named) := by
  cases hnamed : named.isEmpty with
  | false =>
      rw [r₁.resolveCall_of_keywords id args hnamed, r₂.resolveCall_of_keywords id args hnamed]
      exact .unanswered (by simp)
  | true =>
      rw [r₁.resolveCall_of_isEmpty id args hnamed, r₂.resolveCall_of_isEmpty id args hnamed,
        Registry.typing_of_rule? h₁, Registry.typing_of_rule? h₂]
      exact (UpdatesAlike.retrying h args).mapError (ResolveError.invalidLiteral id)

/-! ## Two registries of the surface -/

/-- The atomic updates whose typing depends on the width of a pointer. -/
def pointerAtomics : List IntrinsicId := ["add", "max", "min"].map atomic.member

/-- The intrinsics whose typing depends on the parser. -/
def allocations : List IntrinsicId := [sharedMemory, localMemory].map fun ns => ns.member "array"

/-- The global names of the integers that are as wide as a pointer. -/
def pointerNames : List String := ["intp", "uintp"]

variable {c₁ c₂ : EngineConfig} {p₁ p₂ : ArraySpecParser} {r₁ r₂ : Registry}

/-- All other rules are rules of the surface under any settings. -/
theorem SurfaceRule.of_settings {id : IntrinsicId} {rule : Rule}
    (h : SurfaceRule c₁ p₁ id rule) (hatomic : id ∉ pointerAtomics) (hid : id ∉ allocations) :
    SurfaceRule c₂ p₂ id rule := by
  cases h with
  | table h => exact .table h
  | grid h => exact .grid h
  | select => exact .select
  | allocate h =>
      refine absurd (List.mem_map_of_mem ?_) hid
      rcases h with rfl | rfl <;> simp
  | arrayLike => exact .arrayLike
  | atomicAdd => exact absurd (List.mem_map_of_mem (by simp)) hatomic
  | atomicMaxMin h =>
      refine absurd (List.mem_map_of_mem ?_) hatomic
      rcases h with rfl | rfl <;> simp
  | compareAndSwap => exact .compareAndSwap

section

variable (h₁ : registry c₁ p₁ = .ok r₁) (h₂ : registry c₂ p₂ = .ok r₂)
include h₁ h₂

theorem rule?_eq_of_settings {id : IntrinsicId} (hatomic : id ∉ pointerAtomics)
    (hid : id ∉ allocations) : r₁.rule? id = r₂.rule? id := by
  apply Option.ext
  intro rule
  rw [rule?_registry_iff h₁, rule?_registry_iff h₂]
  constructor
  · intro h
    exact h.of_settings hatomic hid
  · intro h
    exact h.of_settings hatomic hid

theorem attributes?_eq_of_settings (ns : NamespaceId) :
    r₁.attributes? ns = r₂.attributes? ns := by
  apply Option.ext
  intro members
  show r₁.Holds (.attributes ns members) ↔ r₂.Holds (.attributes ns members)
  rw [holds_registry_iff h₁, holds_registry_iff h₂, attributes_mem_surface_iff,
    attributes_mem_surface_iff]

theorem global?_eq_of_settings {name : String} (hname : name ∉ pointerNames) :
    r₁.global? name = r₂.global? name := by
  have hintp : name ≠ "intp" := fun heq => hname (heq ▸ by simp [pointerNames])
  have huintp : name ≠ "uintp" := fun heq => hname (heq ▸ by simp [pointerNames])
  apply Option.ext
  intro ty
  show r₁.Holds (.global name ty) ↔ r₂.Holds (.global name ty)
  rw [holds_registry_iff h₁, holds_registry_iff h₂, global_mem_surface_iff,
    global_mem_surface_iff]
  simp [hintp, huintp]

end

/-- The integers that are as wide as a pointer are number classes. -/
theorem global?_of_mem_pointerNames (h₁ : registry c₁ p₁ = .ok r₁) {name : String}
    (hname : name ∈ pointerNames) : ∃ of, r₁.global? name = some (.numberClass of) := by
  have hholds : ∀ ty, r₁.global? name = some ty ↔ .global name ty ∈ surface c₁ p₁ := by
    intro ty
    exact holds_registry_iff h₁ (.global name ty)
  simp only [hholds, global_mem_surface_iff]
  simp only [pointerNames, List.mem_cons, List.not_mem_nil, or_false] at hname
  rcases hname with rfl | rfl
  · exact ⟨c₁.intp, .inr (.inr (.inl ⟨rfl, rfl⟩))⟩
  · exact ⟨c₁.uintp, .inr (.inr (.inr ⟨rfl, rfl⟩))⟩

/-- Beyond its first name a path does not depend on the settings, and no path goes on from a
name that does. -/
theorem resolvePath_eq_of_settings (h₁ : registry c₁ p₁ = .ok r₁)
    (h₂ : registry c₂ p₂ = .ok r₂) {path : List String}
    (hpath : ∀ name ∈ pointerNames, path ≠ [name]) : r₁.resolvePath path = r₂.resolvePath path := by
  cases path with
  | nil => rfl
  | cons name members =>
      by_cases hname : name ∈ pointerNames
      · cases members with
        | nil => exact absurd rfl (hpath name hname)
        | cons member rest =>
            obtain ⟨of₁, hof₁⟩ := global?_of_mem_pointerNames h₁ hname
            obtain ⟨of₂, hof₂⟩ := global?_of_mem_pointerNames h₂ hname
            rw [Registry.resolvePath_of_numberClass hof₁,
              Registry.resolvePath_of_numberClass hof₂]
      · have hglobal : r₁.global? name = r₂.global? name := global?_eq_of_settings h₁ h₂ hname
        exact congrArg Noted.value
          (Registry.answerPath_congr (attributes?_eq_of_settings h₁ h₂) hglobal false members)

theorem updatesAlike_of_settings (h₁ : registry c₁ p₁ = .ok r₁) (h₂ : registry c₂ p₂ = .ok r₂)
    {id : IntrinsicId} (hid : id ∈ pointerAtomics) (args : List Ty) (named : Table Ty) :
    UpdatesAlike c₁.intp c₂.intp args (r₁.resolveCall id args named)
      (r₂.resolveCall id args named) := by
  obtain ⟨name, hname, rfl⟩ := List.mem_map.1 hid
  simp only [List.mem_cons, List.not_mem_nil, or_false] at hname
  rcases hname with rfl | hname
  · exact updatesAlike_resolveCall ((rule?_registry_iff h₁ _ _).2 .atomicAdd)
      ((rule?_registry_iff h₂ _ _).2 .atomicAdd) (updatesAlike_atomicAdd _ _) args named
  · exact updatesAlike_resolveCall ((rule?_registry_iff h₁ _ _).2 (.atomicMaxMin hname))
      ((rule?_registry_iff h₂ _ _).2 (.atomicMaxMin hname)) (updatesAlike_atomicMaxMin _ _)
      args named

/-- Parsers that read alike type allocations alike. -/
theorem rule?_allocation_eq (h₁ : registry c₁ p₁ = .ok r₁) (h₂ : registry c₂ p₂ = .ok r₂)
    (hrank : ∀ ty, p₁.rank ty = p₂.rank ty) (helem : ∀ ty, p₁.elem ty = p₂.elem ty)
    {id : IntrinsicId} (hid : id ∈ allocations) : r₁.rule? id = r₂.rule? id := by
  obtain ⟨ns, hns, rfl⟩ := List.mem_map.1 hid
  simp only [List.mem_cons, List.not_mem_nil, or_false] at hns
  have hparser : p₁ = p₂ := by
    obtain ⟨rank₁, elem₁⟩ := p₁
    obtain ⟨rank₂, elem₂⟩ := p₂
    obtain rfl : rank₁ = rank₂ := funext hrank
    obtain rfl : elem₁ = elem₂ := funext helem
    rfl
  rw [(rule?_registry_iff h₁ _ _).2 (.allocate hns), (rule?_registry_iff h₂ _ _).2 (.allocate hns),
    hparser]

/-- **The configuration and the parser decide nothing else.** Under any two configurations and
any two parsers the surface makes a registry, and the two registries answer alike: every call
but the atomic updates and the array allocations; the atomic updates but for the index of a
vector, which is the pointer-wide integer of each configuration; the array allocations if the
parsers read alike; every member; every global name but `intp` and `uintp`; and every path but
these two names alone. -/
theorem resolve_eq_of_settings (c₁ c₂ : EngineConfig) (p₁ p₂ : ArraySpecParser) :
    ∃ r₁ r₂, registry c₁ p₁ = .ok r₁ ∧ registry c₂ p₂ = .ok r₂
      ∧ (∀ id args named, id ∉ pointerAtomics → id ∉ allocations →
        r₁.resolveCall id args named = r₂.resolveCall id args named)
      ∧ (∀ id args named, id ∈ pointerAtomics →
        UpdatesAlike c₁.intp c₂.intp args (r₁.resolveCall id args named)
          (r₂.resolveCall id args named))
      ∧ (∀ id args named, id ∈ allocations → (∀ ty, p₁.rank ty = p₂.rank ty) →
        (∀ ty, p₁.elem ty = p₂.elem ty) →
        r₁.resolveCall id args named = r₂.resolveCall id args named)
      ∧ (∀ ns member, r₁.resolveAttribute ns member = r₂.resolveAttribute ns member)
      ∧ (∀ base member, r₁.resolveMember base member = r₂.resolveMember base member)
      ∧ (∀ name, name ∉ pointerNames → r₁.resolveGlobal name = r₂.resolveGlobal name)
      ∧ ∀ path, (∀ name ∈ pointerNames, path ≠ [name]) →
        r₁.resolvePath path = r₂.resolvePath path := by
  obtain ⟨r₁, h₁⟩ := exists_registry c₁ p₁
  obtain ⟨r₂, h₂⟩ := exists_registry c₂ p₂
  have hmembers : ∀ ns, r₁.attributes? ns = r₂.attributes? ns := attributes?_eq_of_settings h₁ h₂
  refine ⟨r₁, r₂, h₁, h₂, ?_, ?_, ?_, ?_, ?_, ?_, ?_⟩
  · intro id args named hatomic hid
    exact Registry.resolveCall_congr (rule?_eq_of_settings h₁ h₂ hatomic hid) args named
  · intro id args named hid
    exact updatesAlike_of_settings h₁ h₂ hid args named
  · intro id args named hid hrank helem
    have hrule : r₁.rule? id = r₂.rule? id := rule?_allocation_eq h₁ h₂ hrank helem hid
    exact Registry.resolveCall_congr hrule args named
  · intro ns member
    exact congrArg Noted.value (Registry.answerAttribute_congr (hmembers ns) false member)
  · intro base member
    exact congrArg Noted.value (Registry.answerMember_congr hmembers false base member)
  · intro name hname
    have hglobal : r₁.global? name = r₂.global? name := global?_eq_of_settings h₁ h₂ hname
    exact congrArg Noted.value (Registry.answerGlobal_congr hglobal false)
  · intro path hpath
    exact resolvePath_eq_of_settings h₁ h₂ hpath

end Cuda

end KernelTyping
