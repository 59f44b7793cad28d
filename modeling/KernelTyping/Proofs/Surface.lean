import KernelTyping.Cuda.Surface
import KernelTyping.Proofs.Grounded

set_option autoImplicit false

/-! # The registry of the built-in surface

For every configuration and every parser the surface makes a registry (`exists_registry`), and
this registry holds just what the surface registers (`holds_registry_iff`). What a registration
is called and what it refers to depends on neither, so both are checked for the usual ones. A
builder that makes a registry still makes one after the surface was declared in it, also if that
was cut short (`exists_build_declare`). `SurfaceRule` lists the rules of the surface with their
intrinsics.
-/

namespace KernelTyping

/-- What a registration gives to a namespace. -/
def Registration.members? : Registration → Option (NamespaceId × AttributeMap)
  | .attributes ns members => some (ns, members)
  | _ => none

namespace Cuda

variable (config : EngineConfig) (parser : ArraySpecParser)

/-! ## What does not depend on the configuration and the parser -/

theorem keys_surface : (surface config parser).map Registration.key
    = (surface .standard .standard).map Registration.key := by
  simp only [surface, List.map_append]
  rfl

theorem repeated_surface : (surface config parser).map Registration.repeated
    = (surface .standard .standard).map Registration.repeated := by
  simp only [surface, List.map_append]
  rfl

theorem links_surface : (surface config parser).map Registration.links
    = (surface .standard .standard).map Registration.links := by
  simp only [surface, List.map_append]
  rfl

theorem members_surface : (surface config parser).filterMap Registration.members?
    = (surface .standard .standard).filterMap Registration.members? := by
  simp only [surface, List.filterMap_append]
  rfl

theorem nodup_keys_surface : ((surface config parser).map Registration.key).Nodup := by
  rw [keys_surface]
  decide +kernel

theorem repeated_of_mem_surface {item : Registration} (h : item ∈ surface config parser) :
    item.repeated = [] := by
  have hnil : ∀ names ∈ (surface .standard .standard).map Registration.repeated, names = [] := by
    decide +kernel
  rw [← repeated_surface config parser] at hnil
  exact hnil _ (List.mem_map_of_mem h)

/-- Nothing that the surface registers refers to anything that comes after it. -/
theorem grounded_surface : Grounded [] ((surface config parser).map Registration.links) := by
  rw [links_surface]
  decide +kernel

/-! ## Declaring the surface -/

theorem closed_declare {b : Builder} (h : b.contents.Closed) :
    (declare b config parser).1.contents.Closed := by
  refine h.registerAll ?_ (grounded_surface config parser)
  intro key hkey
  cases hkey

theorem surfaceBuilder_eq_ok_iff (b : Builder) :
    surfaceBuilder config parser = .ok b ↔
      Builder.empty.registerAll (surface config parser) = (b, none) := by
  -- `rw` would try to close the goal by running all the registrations.
  unfold surfaceBuilder declare
  rcases Builder.empty.registerAll (surface config parser) with ⟨b', _ | e⟩ <;> simp

theorem holds_surfaceBuilder_iff {b : Builder} (h : surfaceBuilder config parser = .ok b)
    (item : Registration) : b.contents.Holds item ↔ item ∈ surface config parser := by
  rw [Builder.holds_registerAll ((surfaceBuilder_eq_ok_iff config parser b).1 h)]
  simp [Builder.not_holds_contents_empty item]

theorem exists_surfaceBuilder : ∃ b, surfaceBuilder config parser = .ok b := by
  have hrepeated : ∀ item ∈ surface config parser, item.repeated = [] := by
    intro item hmem
    exact repeated_of_mem_surface config parser hmem
  have hfresh : ∀ item ∈ surface config parser, Builder.empty.contents.has item.key = false := by
    intro item _
    exact Builder.has_contents_empty item.key
  obtain ⟨b, hb⟩ :=
    Builder.registerAll_of_fresh hrepeated (nodup_keys_surface config parser) hfresh
  exact ⟨b, (surfaceBuilder_eq_ok_iff config parser b).2 hb⟩

theorem closed_surfaceBuilder {b : Builder} (h : surfaceBuilder config parser = .ok b) :
    b.contents.Closed := by
  have hdeclare : declare .empty config parser = (b, none) :=
    (surfaceBuilder_eq_ok_iff config parser b).1 h
  have hclosed := closed_declare config parser Builder.closed_empty
  rw [hdeclare] at hclosed
  exact hclosed

/-- **Declaring the surface breaks no builder.** Whatever was registered before, a builder that
makes a registry still makes one after the surface was declared in it, no matter where the
declaration stopped. If it stopped, the error is one of a duplicate registration; in the empty
builder it does not stop, and the builder then makes a registry. -/
theorem exists_build_declare :
    (∀ (b : Builder) (r : Registry), b.build = .ok r →
        ∃ r', (declare b config parser).1.build = .ok r')
      ∧ (∀ (b : Builder) (e : RegistryError), (declare b config parser).2 = some e →
        e.category = .duplicateRegistration)
      ∧ ∃ b r, declare .empty config parser = (b, none) ∧ b.build = .ok r := by
  refine ⟨?_, ?_, ?_⟩
  · intro b r hbuild
    obtain ⟨hclosed, -⟩ := (b.build_eq_ok_iff r).1 hbuild
    exact ⟨_, (Builder.build_eq_ok_iff _ _).2 ⟨closed_declare config parser hclosed, rfl⟩⟩
  · intro b e he
    have hstops : b.registerAll (surface config parser) = ((declare b config parser).1, some e) :=
      Prod.ext rfl he
    obtain ⟨done, item, rest, -, -, hitem⟩ := Builder.registerAll_stops hstops
    exact Builder.category_of_register hitem
  · obtain ⟨b, hb⟩ := exists_surfaceBuilder config parser
    refine ⟨b, b.contents, (surfaceBuilder_eq_ok_iff config parser b).1 hb, ?_⟩
    exact (b.build_eq_ok_iff _).2 ⟨closed_surfaceBuilder config parser hb, rfl⟩

-- Where the global name of the root namespace is taken, the number classes are not reached.
example :
    let b := (declare (Builder.empty.registerAll [.global root.text .unit]).1 .standard .standard)
    b.2 = some (.duplicateGlobal root.text) ∧ b.1.buildEvents = [.registryBuilt 27 6 1] := by
  decide +kernel

/-! ## The registry -/

/-- The surface makes a registry, whatever the configuration and the parser. -/
theorem exists_registry : ∃ r, registry config parser = .ok r := by
  obtain ⟨b, hb⟩ := exists_surfaceBuilder config parser
  refine ⟨b.contents, ?_⟩
  rw [registry, hb]
  exact (b.build_eq_ok_iff _).2 ⟨closed_surfaceBuilder config parser hb, rfl⟩

variable {config parser}

/-- The registry holds just what the surface registers. -/
theorem holds_registry_iff {r : Registry} (h : registry config parser = .ok r)
    (item : Registration) : r.Holds item ↔ item ∈ surface config parser := by
  obtain ⟨b, hb⟩ := exists_surfaceBuilder config parser
  rw [registry, hb] at h
  obtain ⟨-, rfl⟩ := (b.build_eq_ok_iff r).1 h
  exact holds_surfaceBuilder_iff config parser hb item

/-! ## The namespaces and the global names -/

theorem attributes_mem_surface_iff (ns : NamespaceId) (members : AttributeMap) :
    .attributes ns members ∈ surface config parser ↔
      (ns, members) ∈ (surface .standard .standard).filterMap Registration.members? := by
  rw [← members_surface config parser, List.mem_filterMap]
  constructor
  · intro h
    exact ⟨.attributes ns members, h, rfl⟩
  · rintro ⟨item, hmem, hitem⟩
    cases item with
    | attributes ns' members' =>
        obtain ⟨rfl, rfl⟩ := Prod.mk.inj (Option.some.inj hitem)
        exact hmem
    | rule id rule => cases hitem
    | global name ty => cases hitem

theorem global_mem_surface_iff (name : String) (ty : Ty) :
    .global name ty ∈ surface config parser ↔
      (name = root.text ∧ ty = .scope root)
        ∨ (∃ s, (name, s) ∈ numberClasses ∧ ty = .numberClass (.scalar s))
        ∨ (name = "intp" ∧ ty = .numberClass config.intp)
        ∨ (name = "uintp" ∧ ty = .numberClass config.uintp) := by
  simp only [surface, registerNamespace, registerRules, registerMembers, registerClass,
    List.mem_append, List.mem_cons, List.mem_map, reduceCtorEq, List.not_mem_nil, or_false,
    and_false, exists_false, false_or, Registration.global.injEq, Prod.exists]
  grind

/-! ## The rules -/

variable (config parser) in
/-- The rules of the surface, each with its intrinsic. -/
inductive SurfaceRule : IntrinsicId → Rule → Prop
  | table {name : String} {rule : Rule} (h : (name, rule) ∈ tableRules) :
      SurfaceRule (root.member name) rule
  | grid {name : String} (h : name = "grid" ∨ name = "gridsize") :
      SurfaceRule (root.member name) (.closureFactory fun _ => gridDims)
  | select : SurfaceRule (root.member "selp") (.predicate select)
  | allocate {ns : NamespaceId} (h : ns = sharedMemory ∨ ns = localMemory) :
      SurfaceRule (ns.member "array") (.closureFactory fun _ => allocate parser)
  | arrayLike :
      SurfaceRule (constantMemory.member "array_like") (.closureFactory fun _ => arrayLike)
  | atomicAdd : SurfaceRule (atomic.member "add") (.predicate (atomicAdd config.intp))
  | atomicMaxMin {name : String} (h : name = "max" ∨ name = "min") :
      SurfaceRule (atomic.member name) (.predicate (atomicMaxMin config.intp))
  | compareAndSwap : SurfaceRule (atomic.member "compare_and_swap") (.predicate compareAndSwap)

theorem mem_registerRules_iff (ns : NamespaceId) (rules : List (String × Rule))
    (id : IntrinsicId) (rule : Rule) :
    .rule id rule ∈ registerRules ns rules ↔
      ∃ name, (name, rule) ∈ rules ∧ ns.member name = id := by
  rw [registerRules, List.mem_map]
  constructor
  · rintro ⟨⟨name, rule'⟩, hmem, heq⟩
    obtain ⟨hid, rfl⟩ := Registration.rule.inj heq
    exact ⟨name, hmem, hid⟩
  · rintro ⟨name, hmem, rfl⟩
    exact ⟨(name, rule), hmem, rfl⟩

theorem rule_mem_surface_iff_or (id : IntrinsicId) (rule : Rule) :
    .rule id rule ∈ surface config parser ↔
      (∃ name, (name, rule) ∈ rootRules ∧ root.member name = id)
        ∨ (∃ ns, (ns = sharedMemory ∨ ns = localMemory)
          ∧ ns.member "array" = id ∧ rule = .closureFactory fun _ => allocate parser)
        ∨ (constantMemory.member "array_like" = id ∧ rule = .closureFactory fun _ => arrayLike)
        ∨ ∃ name, (name, rule) ∈ atomicRules config ∧ atomic.member name = id := by
  simp only [surface, registerNamespace, registerMembers, registerClass, List.mem_append,
    mem_registerRules_iff, List.mem_cons, List.mem_map, reduceCtorEq, List.not_mem_nil,
    Prod.mk.injEq, or_false, and_false, exists_false, and_assoc, exists_eq_left, or_and_right,
    exists_or]
  grind

theorem rule_mem_surface_iff (id : IntrinsicId) (rule : Rule) :
    .rule id rule ∈ surface config parser ↔ SurfaceRule config parser id rule := by
  rw [rule_mem_surface_iff_or]
  constructor
  · rintro (⟨name, hname, rfl⟩ | ⟨ns, hns, rfl, rfl⟩ | ⟨rfl, rfl⟩ | ⟨name, hname, rfl⟩)
    · rcases List.mem_append.1 hname with htable | hcomputed
      · exact .table htable
      · simp only [computedRules, List.mem_cons, Prod.mk.injEq, List.not_mem_nil,
          or_false] at hcomputed
        rcases hcomputed with ⟨rfl, rfl⟩ | ⟨rfl, rfl⟩ | ⟨rfl, rfl⟩
        · exact .grid (.inl rfl)
        · exact .grid (.inr rfl)
        · exact .select
    · exact .allocate hns
    · exact .arrayLike
    · simp only [atomicRules, List.mem_cons, Prod.mk.injEq, List.not_mem_nil,
        or_false] at hname
      rcases hname with ⟨rfl, rfl⟩ | ⟨rfl, rfl⟩ | ⟨rfl, rfl⟩ | ⟨rfl, rfl⟩
      · exact .atomicAdd
      · exact .atomicMaxMin (.inl rfl)
      · exact .atomicMaxMin (.inr rfl)
      · exact .compareAndSwap
  · intro h
    cases h with
    | table h => exact .inl ⟨_, List.mem_append_left _ h, rfl⟩
    | @grid name h =>
        refine .inl ⟨name, List.mem_append_right _ ?_, rfl⟩
        rcases h with rfl | rfl <;> simp [computedRules]
    | select => exact .inl ⟨"selp", List.mem_append_right _ (by simp [computedRules]), rfl⟩
    | @allocate ns h => exact .inr (.inl ⟨ns, h, rfl, rfl⟩)
    | arrayLike => exact .inr (.inr (.inl ⟨rfl, rfl⟩))
    | atomicAdd => exact .inr (.inr (.inr ⟨"add", by simp [atomicRules], rfl⟩))
    | @atomicMaxMin name h =>
        refine .inr (.inr (.inr ⟨name, ?_, rfl⟩))
        rcases h with rfl | rfl <;> simp [atomicRules]
    | compareAndSwap =>
        exact .inr (.inr (.inr ⟨"compare_and_swap", by simp [atomicRules], rfl⟩))

variable (config parser) in
theorem surfaceRule_grid {id : IntrinsicId}
    (h : id = intrinsic "grid" ∨ id = intrinsic "gridsize") :
    SurfaceRule config parser id (.closureFactory fun _ => gridDims) := by
  rcases h with rfl | rfl
  · exact .grid (.inl rfl)
  · exact .grid (.inr rfl)

/-- The rules of the registry are those of the surface. -/
theorem rule?_registry_iff {r : Registry} (h : registry config parser = .ok r)
    (id : IntrinsicId) (rule : Rule) :
    r.rule? id = some rule ↔ SurfaceRule config parser id rule :=
  (holds_registry_iff h (.rule id rule)).trans (rule_mem_surface_iff id rule)

/-- An intrinsic of the surface has one rule. -/
theorem SurfaceRule.unique {id : IntrinsicId} {rule rule' : Rule}
    (h : SurfaceRule config parser id rule) (h' : SurfaceRule config parser id rule') :
    rule = rule' := by
  obtain ⟨r, hr⟩ := exists_registry config parser
  rw [← rule?_registry_iff hr] at h h'
  rw [h] at h'
  exact Option.some.inj h'

end Cuda

end KernelTyping
