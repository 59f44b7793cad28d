import KernelTyping.Proofs.Members
import KernelTyping.Proofs.Surface

set_option autoImplicit false

/-! # Dotted paths and the names of intrinsics

A registry is well named if a member that is an intrinsic is called after its namespace and its
own name, and a member that is a namespace likewise, unless nothing is reached through that
namespace (`Registry.WellNamed`). In such a registry a path that ends at an intrinsic consists
of the names between the dots of the text of the intrinsic (`WellNamed.path_eq`), so there is
at most one. The built-in surface is well named and leaves no rule without a path: each of its
intrinsics is reached by this path and by no other (`Cuda.resolvePath_eq_intrinsic_iff`).
-/

namespace KernelTyping

/-! ## Dotted texts -/

/-- The names between the dots of a text. -/
def dottedNames (text : String) : List String := (text.toList.splitOn '.').map String.ofList

theorem dottedNames_of_undotted {name : String} (h : '.' ∉ name.toList) :
    dottedNames name = [name] := by
  rw [dottedNames, List.splitOn_eq_singleton h]
  simp

/-- A name inside a container comes behind the names of the container. -/
theorem dottedNames_qualified (container : String) {name : String} (h : '.' ∉ name.toList) :
    dottedNames (qualified container name) = dottedNames container ++ [name] := by
  have htext : (qualified container name).toList = container.toList ++ '.' :: name.toList := by
    simp [qualified]
  rw [dottedNames, htext, List.splitOn_append_cons_self, List.splitOn_eq_singleton h]
  simp [dottedNames]

example : dottedNames "cuda.shared.array" = ["cuda", "shared", "array"] := by decide

namespace Registry

variable {r : Registry}

/-! ## Ways through a registry -/

variable (r) in
/-- Whether members taken one inside the other lead from one type to another. -/
inductive Leads : Ty → List String → Ty → Prop
  | here (ty : Ty) : Leads ty [] ty
  | inside {ns : NamespaceId} {name : String} {rest : List String} {next ty : Ty}
      (hname : r.resolveAttribute ns name = some next) (hrest : Leads next rest ty) :
      Leads (.scope ns) (name :: rest) ty

theorem value_answerMembers_eq_some_iff (base : Ty) (members : List String) (ty : Ty) :
    (r.answerMembers false base members).value = some ty ↔ r.Leads base members ty := by
  induction members generalizing base with
  | nil =>
      constructor
      · intro h
        obtain rfl : base = ty := Option.some.inj h
        exact .here base
      · rintro ⟨⟩
        rfl
  | cons name rest ih =>
      rw [answerMembers, Noted.value_bind]
      constructor
      · intro h
        cases base with
        | scope ns =>
            cases hname : (r.answerMember false (.scope ns) name).value with
            | none => simp [hname] at h
            | some next =>
                rw [hname] at h
                exact .inside hname ((ih next).1 h)
        | _ => cases h
      · intro h
        cases h with
        | @inside ns _ _ next _ hname hrest =>
            have hvalue : (r.answerMember false (.scope ns) name).value = some next := hname
            rw [hvalue]
            exact (ih next).2 hrest

/-- A path starts from a global name and goes on with members. -/
theorem resolvePath_eq_some_iff (path : List String) (ty : Ty) :
    r.resolvePath path = some ty ↔
      ∃ name members base, path = name :: members ∧ r.global? name = some base
        ∧ r.Leads base members ty := by
  cases path with
  | nil => simp [resolvePath, answerPath]
  | cons name members =>
      rw [resolvePath, answerPath, answerGlobal]
      cases hname : r.global? name with
      | none => simp [hname]
      | some base =>
          have hmembers : (r.answerMembers false base members).value = some ty ↔
              r.Leads base members ty := value_answerMembers_eq_some_iff base members ty
          constructor
          · intro h
            exact ⟨name, members, base, rfl, hname, hmembers.1 h⟩
          · rintro ⟨_, _, base', heq, hbase', hleads⟩
            obtain ⟨rfl, rfl⟩ := List.cons.inj heq
            obtain rfl : base = base' := Option.some.inj (hname.symm.trans hbase')
            exact hmembers.2 hleads

/-! ## Well-named registries -/

variable (r) in
/-- Whether no member of a namespace refers to anything. -/
def Barren (ns : NamespaceId) : Prop :=
  ∀ name ty, r.resolveAttribute ns name = some ty → ty.target? = none

/-- Nothing but plain types is reached through a namespace whose members refer to nothing. -/
theorem Barren.not_leads {ns : NamespaceId} (h : r.Barren ns) (members : List String)
    (id : IntrinsicId) : ¬ r.Leads (.scope ns) members (.intrinsic id) := by
  intro hleads
  cases hleads with
  | @inside _ name rest next _ hname hrest =>
      have htarget : next.target? = none := h name next hname
      cases hrest with
      | here => cases htarget
      | inside => cases htarget

variable (r) in
/-- Members and global names are called after what they refer to: an intrinsic after the
namespace of which it is a member, and so a namespace, unless it leads nowhere. -/
structure WellNamed : Prop where
  intrinsic {ns : NamespaceId} {name : String} {id : IntrinsicId}
    (h : r.resolveAttribute ns name = some (.intrinsic id)) :
    id = ns.member name ∧ '.' ∉ name.toList
  scope {ns inner : NamespaceId} {name : String}
    (h : r.resolveAttribute ns name = some (.scope inner)) :
    (inner = ns.child name ∧ '.' ∉ name.toList) ∨ r.Barren inner
  globalIntrinsic {name : String} {id : IntrinsicId} :
    r.global? name ≠ some (.intrinsic id)
  globalScope {name : String} {ns : NamespaceId} (h : r.global? name = some (.scope ns)) :
    ns.text = name ∧ '.' ∉ name.toList

/-- The members on the way from a namespace to an intrinsic are the names that come behind those
of the namespace. -/
theorem WellNamed.leads_eq (h : r.WellNamed) {members : List String} {ns : NamespaceId}
    {id : IntrinsicId} (hleads : r.Leads (.scope ns) members (.intrinsic id)) :
    dottedNames id.text = dottedNames ns.text ++ members := by
  induction members generalizing ns with
  | nil => cases hleads
  | cons name rest ih =>
      cases hleads with
      | @inside _ _ _ next _ hname hrest =>
          cases hrest with
          | here =>
              obtain ⟨rfl, hdot⟩ := h.intrinsic hname
              exact dottedNames_qualified ns.text hdot
          | @inside inner second later next' _ hsecond hlater =>
              rcases h.scope hname with ⟨rfl, hdot⟩ | hbarren
              · have hwhole := ih (Leads.inside hsecond hlater)
                calc dottedNames id.text
                    = dottedNames (qualified ns.text name) ++ (second :: later) := hwhole
                  _ = dottedNames ns.text ++ [name] ++ (second :: later) := by
                      rw [dottedNames_qualified ns.text hdot]
                  _ = dottedNames ns.text ++ name :: second :: later := by simp
              · exact absurd (Leads.inside hsecond hlater) (hbarren.not_leads _ id)

/-- A path to an intrinsic consists of the names between the dots of its text. -/
theorem WellNamed.path_eq (h : r.WellNamed) {path : List String} {id : IntrinsicId}
    (hpath : r.resolvePath path = some (.intrinsic id)) : path = dottedNames id.text := by
  obtain ⟨name, members, base, rfl, hname, hleads⟩ := (resolvePath_eq_some_iff path _).1 hpath
  cases hleads with
  | here => exact absurd hname h.globalIntrinsic
  | @inside ns member rest next _ hmember hrest =>
      obtain ⟨rfl, hdot⟩ := h.globalScope hname
      rw [h.leads_eq (Leads.inside hmember hrest), dottedNames_of_undotted hdot]
      rfl

/-- In a closed registry a path ends at an intrinsic only if this has a rule. -/
theorem Closed.isSome_rule? (h : r.Closed) {path : List String} {id : IntrinsicId}
    (hpath : r.resolvePath path = some (.intrinsic id)) : (r.rule? id).isSome = true := by
  have hvalue : (r.answerPath true path).value = some (.intrinsic id) :=
    (r.value_answerPath_tracing true path).trans hpath
  exact (r.knows_intrinsic_iff id).1 ((h.answerPath_trail path).1 _ hvalue)

end Registry

namespace Cuda

/-! ## The members of the surface -/

/-- The namespaces of the surface with the declarations of their members, which depend on
neither the configuration nor the parser. -/
def memberDeclarations : List (NamespaceId × List (String × AttributeEntry)) :=
  [(sharedMemory, intrinsicMembers sharedMemory
      [("array", .closureFactory fun _ => allocate .standard)]),
   (localMemory, intrinsicMembers localMemory
      [("array", .closureFactory fun _ => allocate .standard)]),
   (constantMemory, intrinsicMembers constantMemory
      [("array_like", .closureFactory fun _ => arrayLike)]),
   (atomic, intrinsicMembers atomic (atomicRules .standard)),
   (dim3, dim3Members),
   (root, intrinsicMembers root rootRules ++ rootValues)]

theorem members_surface_eq : (surface .standard .standard).filterMap Registration.members?
    = memberDeclarations.map fun d => (d.1, .ofList d.2) := rfl

/-- What a member refers to is called after it, or it is the namespace of triples. -/
theorem target?_of_mem_memberDeclarations : ∀ d ∈ memberDeclarations, ∀ member ∈ d.2,
    '.' ∉ member.1.toList
      ∧ (member.2.ty.target? = none ∨ member.2.ty.target? = some (.scope dim3)
        ∨ member.2.ty.target? = some (.intrinsic (d.1.member member.1))
        ∨ member.2.ty.target? = some (.scope (d.1.child member.1))) := by
  decide +kernel

/-- A triple has members of plain types. -/
theorem target?_of_mem_dim3Members : ∀ d ∈ memberDeclarations, d.1 = dim3 →
    ∀ member ∈ d.2, member.2.ty.target? = none := by
  decide +kernel

theorem lookup_intrinsicMembers (ns : NamespaceId) {rules : List (String × Rule)} {name : String}
    (h : name ∈ rules.map Prod.fst) :
    (intrinsicMembers ns rules).lookup name = some (.type (.intrinsic (ns.member name))) := by
  induction rules with
  | nil => cases h
  | cons first rest ih =>
      show List.lookup name ((first.1, _) :: intrinsicMembers ns rest) = _
      rw [Table.lookup_cons_pair]
      by_cases hname : name = first.1
      · rw [if_pos hname, hname]
      · rw [if_neg hname]
        rcases List.mem_cons.1 h with heq | hmem
        · exact absurd heq hname
        · exact ih hmem

variable {config : EngineConfig} {parser : ArraySpecParser} {r : Registry}

/-- A member of a namespace of the surface is what was declared first under its name. -/
theorem resolveAttribute_registry_iff (h : registry config parser = .ok r) (ns : NamespaceId)
    (name : String) (ty : Ty) :
    r.resolveAttribute ns name = some ty ↔
      ∃ declarations entry, (ns, declarations) ∈ memberDeclarations
        ∧ declarations.lookup name = some entry ∧ entry.ty = ty := by
  have hattributes : ∀ members, r.attributes? ns = some members ↔
      ∃ declarations, (ns, declarations) ∈ memberDeclarations
        ∧ AttributeMap.ofList declarations = members := by
    intro members
    have hmap : r.attributes? ns = some members ↔
        (ns, members) ∈ memberDeclarations.map fun d => (d.1, AttributeMap.ofList d.2) := by
      rw [← members_surface_eq, ← attributes_mem_surface_iff]
      exact holds_registry_iff h (.attributes ns members)
    rw [hmap, List.mem_map]
    constructor
    · rintro ⟨⟨ns', declarations⟩, hmem, heq⟩
      obtain ⟨rfl, rfl⟩ := Prod.mk.inj heq
      exact ⟨declarations, hmem, rfl⟩
    · rintro ⟨declarations, hmem, rfl⟩
      exact ⟨(ns, declarations), hmem, rfl⟩
  rw [Registry.resolveAttribute_eq_some_iff]
  constructor
  · rintro ⟨members, entry, hns, hentry, hty⟩
    obtain ⟨declarations, hmem, rfl⟩ := (hattributes members).1 hns
    rw [AttributeMap.get?_ofList] at hentry
    exact ⟨declarations, entry, hmem, hentry, hty⟩
  · rintro ⟨declarations, entry, hmem, hentry, hty⟩
    rw [← AttributeMap.get?_ofList] at hentry
    exact ⟨_, entry, (hattributes _).2 ⟨declarations, hmem, rfl⟩, hentry, hty⟩

/-! ## The names of the surface -/

theorem closed_registry (h : registry config parser = .ok r) : r.Closed := by
  obtain ⟨b, hb⟩ := exists_surfaceBuilder config parser
  rw [registry, hb] at h
  exact (((b.build_eq_ok_iff r).1 h).2 ▸ ((b.build_eq_ok_iff r).1 h).1)

theorem barren_dim3 (h : registry config parser = .ok r) : r.Barren dim3 := by
  intro name ty hty
  obtain ⟨declarations, entry, hmem, hentry, rfl⟩ :=
    (resolveAttribute_registry_iff h dim3 name ty).1 hty
  exact target?_of_mem_dim3Members _ hmem rfl _ (Table.mem_of_lookup hentry)

theorem wellNamed_registry (h : registry config parser = .ok r) : r.WellNamed where
  intrinsic {ns name id} hid := by
    obtain ⟨declarations, entry, hmem, hentry, hty⟩ :=
      (resolveAttribute_registry_iff h ns name _).1 hid
    have htarget := target?_of_mem_memberDeclarations _ hmem _ (Table.mem_of_lookup hentry)
    rw [hty] at htarget
    obtain ⟨hdot, hnone | hdim3 | hself | hchild⟩ := htarget
    · cases hnone
    · cases hdim3
    · exact ⟨Key.intrinsic.inj (Option.some.inj hself), hdot⟩
    · cases hchild
  scope {ns inner name} hinner := by
    obtain ⟨declarations, entry, hmem, hentry, hty⟩ :=
      (resolveAttribute_registry_iff h ns name _).1 hinner
    have htarget := target?_of_mem_memberDeclarations _ hmem _ (Table.mem_of_lookup hentry)
    rw [hty] at htarget
    obtain ⟨hdot, hnone | hdim3 | hself | hchild⟩ := htarget
    · cases hnone
    · obtain rfl : inner = dim3 := Key.scope.inj (Option.some.inj hdim3)
      exact .inr (barren_dim3 h)
    · cases hself
    · exact .inl ⟨Key.scope.inj (Option.some.inj hchild), hdot⟩
  globalIntrinsic {name id} hname := by
    have hmem := (holds_registry_iff h (.global name _)).1 hname
    rw [global_mem_surface_iff] at hmem
    simp at hmem
  globalScope {name ns} hname := by
    have hmem := (holds_registry_iff h (.global name _)).1 hname
    rw [global_mem_surface_iff] at hmem
    simp only [Ty.scope.injEq, reduceCtorEq, and_false, exists_false, or_false] at hmem
    obtain ⟨rfl, rfl⟩ := hmem
    exact ⟨rfl, by decide⟩

/-- An intrinsic of the root namespace is one of its members. -/
theorem leads_root (h : registry config parser = .ok r) {name : String}
    (hname : name ∈ rootRules.map Prod.fst) :
    r.Leads (.scope root) [name] (.intrinsic (root.member name)) := by
  have hlookup : (intrinsicMembers root rootRules ++ rootValues).lookup name
      = some (.type (.intrinsic (root.member name))) := by
    rw [List.lookup_append, lookup_intrinsicMembers root hname]
    rfl
  have hmember : r.resolveAttribute root name = some (.intrinsic (root.member name)) :=
    (resolveAttribute_registry_iff h root name _).2
      ⟨_, _, by simp [memberDeclarations], hlookup, rfl⟩
  exact .inside hmember (.here _)

/-- An intrinsic of another namespace is one of its members, and the namespace is one of those
of the root namespace. -/
theorem leads_nested (h : registry config parser = .ok r) {outer : String} {ns : NamespaceId}
    (houter : (intrinsicMembers root rootRules ++ rootValues).lookup outer = some (.nested ns))
    {rules : List (String × Rule)} (hns : (ns, intrinsicMembers ns rules) ∈ memberDeclarations)
    {name : String} (hname : name ∈ rules.map Prod.fst) :
    r.Leads (.scope root) [outer, name] (.intrinsic (ns.member name)) := by
  have hscope : r.resolveAttribute root outer = some (.scope ns) :=
    (resolveAttribute_registry_iff h root outer _).2
      ⟨_, _, by simp [memberDeclarations], houter, rfl⟩
  have hmember : r.resolveAttribute ns name = some (.intrinsic (ns.member name)) :=
    (resolveAttribute_registry_iff h ns name _).2
      ⟨_, _, hns, lookup_intrinsicMembers ns hname, rfl⟩
  exact .inside hscope (.inside hmember (.here _))

/-- No rule of the surface is left without a path. -/
theorem SurfaceRule.exists_path (h : registry config parser = .ok r) {id : IntrinsicId}
    {rule : Rule} (hrule : SurfaceRule config parser id rule) :
    ∃ path, r.resolvePath path = some (.intrinsic id) := by
  have hglobal : r.global? root.text = some (.scope root) := by
    refine (holds_registry_iff h (.global root.text _)).2 ?_
    exact (global_mem_surface_iff _ _).2 (.inl ⟨rfl, rfl⟩)
  have hatomic : ∀ name ∈ (atomicRules .standard).map Prod.fst,
      r.Leads (.scope root) ["atomic", name] (.intrinsic (atomic.member name)) := by
    intro name hname
    exact leads_nested h (by decide +kernel) (by simp [memberDeclarations]) hname
  suffices hmembers : ∃ members, r.Leads (.scope root) members (.intrinsic id) by
    obtain ⟨members, hmembers⟩ := hmembers
    exact ⟨_, (Registry.resolvePath_eq_some_iff _ _).2 ⟨_, members, _, rfl, hglobal, hmembers⟩⟩
  cases hrule with
  | table htable =>
      have hname := List.mem_map_of_mem (f := Prod.fst) (List.mem_append_left computedRules htable)
      exact ⟨_, leads_root h hname⟩
  | grid hname => rcases hname with rfl | rfl <;> exact ⟨_, leads_root h (by decide)⟩
  | select => exact ⟨_, leads_root h (by decide)⟩
  | allocate hns =>
      rcases hns with rfl | rfl
      · exact ⟨["shared", "array"],
          leads_nested h (by decide +kernel) (.head _) (by decide)⟩
      · exact ⟨["local", "array"],
          leads_nested h (by decide +kernel) (.tail _ (.head _)) (by decide)⟩
  | arrayLike =>
      exact ⟨["const", "array_like"],
        leads_nested h (by decide +kernel) (.tail _ (.tail _ (.head _))) (by decide)⟩
  | atomicAdd => exact ⟨_, hatomic "add" (by decide)⟩
  | atomicMaxMin hname => rcases hname with rfl | rfl <;> exact ⟨_, hatomic _ (by decide)⟩
  | compareAndSwap => exact ⟨_, hatomic "compare_and_swap" (by decide)⟩

/-- **Each rule of the surface has just one dotted path, and paths to intrinsics are honest.**
Under any configuration and any parser a path ends at an intrinsic just if the intrinsic has a
rule and the path consists of the names between the dots of its text. -/
theorem resolvePath_eq_intrinsic_iff (config : EngineConfig) (parser : ArraySpecParser) :
    ∃ r, registry config parser = .ok r ∧ ∀ path id,
      r.resolvePath path = some (.intrinsic id) ↔
        (r.rule? id).isSome = true ∧ path = dottedNames id.text := by
  obtain ⟨r, h⟩ := exists_registry config parser
  have hnamed : r.WellNamed := wellNamed_registry h
  refine ⟨r, h, ?_⟩
  intro path id
  constructor
  · intro hpath
    exact ⟨(closed_registry h).isSome_rule? hpath, hnamed.path_eq hpath⟩
  · rintro ⟨hrule, rfl⟩
    obtain ⟨rule, hrule⟩ := Option.isSome_iff_exists.1 hrule
    obtain ⟨path, hpath⟩ := ((rule?_registry_iff h id rule).1 hrule).exists_path h
    -- The path that there is can only be this one.
    rw [← hnamed.path_eq hpath]
    exact hpath

end Cuda

end KernelTyping
