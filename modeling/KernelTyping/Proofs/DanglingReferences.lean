import KernelTyping.Proofs.Contents

set_option autoImplicit false

/-! # Dangling references

A builder holds types at places: at the members of its namespaces and at its global names
(`Place`). Its places are checked in one order (`Place.Before`), namespaces before global names,
and a registry is made just if no reference dangles at any place (`Registry.Dangles`). Otherwise
the reference at the first place where one dangles is reported (`build_reports_first`).
-/

namespace KernelTyping

/-! ## Places -/

/-- Where a type is held: at a member of a namespace, or at a global name. -/
inductive Place where
  | member (ns : NamespaceId) (name : String)
  | global (name : String)

namespace Place

/-- The name under which a place is reported. -/
def text : Place → String
  | .member ns name => qualified ns.text name
  | .global name => name

/-- The order in which places are checked: all members before the global names, namespaces
ascending and in each its members ascending, and global names ascending. -/
inductive Before : Place → Place → Prop
  | namespaces {ns ns' : NamespaceId} {name name' : String} (h : ns.text < ns'.text) :
      Before (.member ns name) (.member ns' name')
  | members {ns : NamespaceId} {name name' : String} (h : name < name') :
      Before (.member ns name) (.member ns name')
  | memberFirst {ns : NamespaceId} {name name' : String} :
      Before (.member ns name) (.global name')
  | globals {name name' : String} (h : name < name') : Before (.global name) (.global name')

theorem Before.asymm {p q : Place} (hpq : p.Before q) : ¬ q.Before p := by
  intro hqp
  cases hpq with
  | namespaces h =>
      cases hqp with
      | namespaces h' => exact String.lt_irrefl _ (String.lt_trans h h')
      | members h' => exact String.lt_irrefl _ h
  | members h =>
      cases hqp with
      | namespaces h' => exact String.lt_irrefl _ h'
      | members h' => exact String.lt_irrefl _ (String.lt_trans h h')
  | memberFirst => cases hqp
  | globals h =>
      cases hqp with
      | globals h' => exact String.lt_irrefl _ (String.lt_trans h h')

end Place

/-! ## The first of an ordered list -/

/-- In a list ordered by an asymmetric relation, what is found first is found at an element such
that nothing is found at any element before it. -/
theorem findSome?_eq_some_iff_of_pairwise {α β : Type} {R : α → α → Prop}
    (hasymm : ∀ a b, R a b → ¬ R b a) {l : List α} (hl : l.Pairwise R) (f : α → Option β)
    (found : β) :
    l.findSome? f = some found ↔
      ∃ a ∈ l, f a = some found ∧ ∀ x ∈ l, R x a → f x = none := by
  constructor
  · intro h
    obtain ⟨before, a, after, rfl, ha, hbefore⟩ := List.findSome?_eq_some_iff.1 h
    refine ⟨a, by simp, ha, ?_⟩
    intro x hx hxa
    obtain ⟨-, hafter, -⟩ := List.pairwise_append.1 hl
    rcases List.mem_append.1 hx with hx | hx
    · exact hbefore x hx
    · rcases List.mem_cons.1 hx with rfl | hx
      · exact absurd hxa (hasymm x x hxa)
      · have hax : R a x := (List.pairwise_cons.1 hafter).1 x hx
        exact absurd hxa (hasymm a x hax)
  · rintro ⟨a, ha, hfound, hfirst⟩
    obtain ⟨before, after, rfl⟩ := List.append_of_mem ha
    obtain ⟨-, -, hbefore⟩ := List.pairwise_append.1 hl
    refine List.findSome?_eq_some_iff.2 ⟨before, a, after, rfl, hfound, ?_⟩
    intro x hx
    exact hfirst x (by simp [hx]) (hbefore x hx a List.mem_cons_self)

/-! ## References that dangle -/

namespace Registry

/-- The type that is held at a place. -/
def typeAt? (r : Registry) : Place → Option Ty
  | .member ns name =>
    (r.attributes? ns).bind fun members => (members.get? name).map AttributeEntry.ty
  | .global name => r.global? name

theorem typeAt?_member_eq_some_iff (r : Registry) (ns : NamespaceId) (name : String) (ty : Ty) :
    r.typeAt? (.member ns name) = some ty ↔
      ∃ members entry, r.attributes? ns = some members ∧ members.get? name = some entry
        ∧ entry.ty = ty := by
  simp only [typeAt?, Option.bind_eq_some_iff, Option.map_eq_some_iff]
  constructor
  · rintro ⟨members, hns, entry, hentry, hty⟩
    exact ⟨members, entry, hns, hentry, hty⟩
  · rintro ⟨members, entry, hns, hentry, hty⟩
    exact ⟨members, hns, entry, hentry, hty⟩

/-- Whether a reference dangles at a place, with the error that reports it. -/
inductive Dangles (r : Registry) (place : Place) : RegistryError → Prop
  | intrinsic {id : IntrinsicId} (hheld : r.typeAt? place = some (.intrinsic id))
      (hmissing : r.rule? id = none) : Dangles r place (.unknownIntrinsic place.text id)
  | scope {ns : NamespaceId} (hheld : r.typeAt? place = some (.scope ns))
      (hmissing : r.attributes? ns = none) : Dangles r place (.unknownNamespace place.text ns)

theorem Dangles.exists_typeAt? {r : Registry} {place : Place} {e : RegistryError}
    (h : r.Dangles place e) : ∃ ty, r.typeAt? place = some ty := by
  cases h with
  | intrinsic hheld => exact ⟨_, hheld⟩
  | scope hheld => exact ⟨_, hheld⟩

end Registry

/-! ## The places of a builder -/

namespace Builder

/-- The types held by the builder with their places, in the order in which they are checked. -/
def heldAt (b : Builder) : List (Place × Ty) :=
  (b.namespaceTable.entries.flatMap fun ns =>
    ns.2.members.entries.map fun member => (.member ⟨ns.1⟩ member.1, member.2.ty)) ++
  b.globalTable.entries.map fun entry => (.global entry.1, entry.2)

theorem heldTypes_eq_map (b : Builder) :
    b.heldTypes = b.heldAt.map fun held => (held.1.text, held.2) := by
  simp [heldTypes, heldAt, List.map_flatMap, Function.comp_def, Place.text]

theorem mem_heldAt_iff (b : Builder) (place : Place) (ty : Ty) :
    (place, ty) ∈ b.heldAt ↔ b.contents.typeAt? place = some ty := by
  rw [heldAt, List.mem_append, List.mem_flatMap]
  constructor
  · rintro (⟨⟨text, members⟩, hns, hmember⟩ | hglobal)
    · obtain ⟨⟨name, entry⟩, hentry, heq⟩ := List.mem_map.1 hmember
      obtain ⟨rfl, rfl⟩ := Prod.mk.inj heq
      have hmembers : b.contents.attributes? ⟨text⟩ = some members :=
        (b.namespaceTable.mem_entries_iff text members).1 hns
      have hget : members.get? name = some entry :=
        (members.members.mem_entries_iff name entry).1 hentry
      exact (Registry.typeAt?_member_eq_some_iff _ _ _ _).2 ⟨members, entry, hmembers, hget, rfl⟩
    · obtain ⟨⟨name, ty'⟩, hentry, heq⟩ := List.mem_map.1 hglobal
      obtain ⟨rfl, rfl⟩ := Prod.mk.inj heq
      exact (b.globalTable.mem_entries_iff name ty').1 hentry
  · intro h
    cases place with
    | member ns name =>
        obtain ⟨members, entry, hns, hentry, rfl⟩ :=
          (Registry.typeAt?_member_eq_some_iff _ ns name ty).1 h
        refine .inl ⟨(ns.text, members), ?_, List.mem_map.2 ⟨(name, entry), ?_, rfl⟩⟩
        · exact (b.namespaceTable.mem_entries_iff ns.text members).2 hns
        · exact (members.members.mem_entries_iff name entry).2 hentry
    | global name =>
        have hentry : (name, ty) ∈ b.globalTable.entries :=
          (b.globalTable.mem_entries_iff name ty).2 h
        exact .inr (List.mem_map.2 ⟨(name, ty), hentry, rfl⟩)

/-- The places stand in the order in which they are checked. -/
theorem pairwise_heldAt (b : Builder) :
    b.heldAt.Pairwise fun held held' => held.1.Before held'.1 := by
  rw [heldAt, List.pairwise_append, List.pairwise_flatMap, List.pairwise_map]
  -- In one namespace, in two namespaces, under two global names, and in a namespace and under a
  -- global name.
  refine ⟨⟨?_, ?_⟩, ?_, ?_⟩
  · intro ns _
    rw [List.pairwise_map]
    exact ns.2.members.ascending.imp fun h => .members h
  · refine b.namespaceTable.ascending.imp fun h held hheld held' hheld' => ?_
    obtain ⟨member, -, rfl⟩ := List.mem_map.1 hheld
    obtain ⟨member', -, rfl⟩ := List.mem_map.1 hheld'
    exact .namespaces h
  · exact b.globalTable.ascending.imp fun h => .globals h
  · intro held hheld held' hheld'
    obtain ⟨ns, -, hmember⟩ := List.mem_flatMap.1 hheld
    obtain ⟨member, -, rfl⟩ := List.mem_map.1 hmember
    obtain ⟨entry, -, rfl⟩ := List.mem_map.1 hheld'
    exact .memberFirst

/-! ## What is reported -/

theorem danglingError?_eq_some_iff (b : Builder) (referrer : String) (ty : Ty)
    (e : RegistryError) :
    b.danglingError? referrer ty = some e ↔
      (∃ id, ty = .intrinsic id ∧ b.contents.rule? id = none
          ∧ e = .unknownIntrinsic referrer id)
        ∨ ∃ ns, ty = .scope ns ∧ b.contents.attributes? ns = none
          ∧ e = .unknownNamespace referrer ns := by
  cases ty with
  | intrinsic id =>
      show (if (b.contents.rule? id).isSome then none else some _) = some e ↔ _
      cases hrule : b.contents.rule? id <;> simp [hrule, @eq_comm _ e]
  | scope ns =>
      show (if (b.contents.attributes? ns).isSome then none else some _) = some e ↔ _
      cases hns : b.contents.attributes? ns <;> simp [hns, @eq_comm _ e]
  | _ => simp [danglingError?]

theorem dangles_iff (b : Builder) (place : Place) (e : RegistryError) :
    b.contents.Dangles place e ↔
      ∃ ty, (place, ty) ∈ b.heldAt ∧ b.danglingError? place.text ty = some e := by
  simp only [mem_heldAt_iff, danglingError?_eq_some_iff]
  constructor
  · intro h
    cases h with
    | @intrinsic id hheld hmissing => exact ⟨_, hheld, .inl ⟨id, rfl, hmissing, rfl⟩⟩
    | @scope ns hheld hmissing => exact ⟨_, hheld, .inr ⟨ns, rfl, hmissing, rfl⟩⟩
  · rintro ⟨ty, hheld, ⟨id, rfl, hmissing, rfl⟩ | ⟨ns, rfl, hmissing, rfl⟩⟩
    · exact .intrinsic hheld hmissing
    · exact .scope hheld hmissing

theorem not_dangles_iff (b : Builder) (place : Place) :
    (∀ e, ¬ b.contents.Dangles place e) ↔
      ∀ ty, (place, ty) ∈ b.heldAt → b.danglingError? place.text ty = none := by
  simp only [dangles_iff, Option.eq_none_iff_forall_ne_some]
  constructor
  · intro h ty hheld e he
    exact h e ⟨ty, hheld, he⟩
  · rintro h e ⟨ty, hheld, he⟩
    exact h ty hheld e he

/-- The error at the first place where a reference dangles. -/
def firstDangling? (b : Builder) : Option RegistryError :=
  b.heldAt.findSome? fun held => b.danglingError? held.1.text held.2

theorem build_eq (b : Builder) :
    b.build = match b.firstDangling? with
      | some e => .error e
      | none => .ok ⟨b.ruleTable, b.namespaceTable, b.globalTable⟩ := by
  rw [build, heldTypes_eq_map, List.findSome?_map]
  rfl

theorem firstDangling?_eq_none_iff (b : Builder) :
    b.firstDangling? = none ↔ ∀ place e, ¬ b.contents.Dangles place e := by
  rw [firstDangling?, List.findSome?_eq_none_iff, Prod.forall]
  exact forall_congr' fun place => (b.not_dangles_iff place).symm

theorem firstDangling?_eq_some_iff (b : Builder) (e : RegistryError) :
    b.firstDangling? = some e ↔
      ∃ place, b.contents.Dangles place e
        ∧ ∀ place', place'.Before place → ∀ e', ¬ b.contents.Dangles place' e' := by
  rw [firstDangling?,
    findSome?_eq_some_iff_of_pairwise (fun _ _ => Place.Before.asymm) b.pairwise_heldAt]
  constructor
  · rintro ⟨⟨place, ty⟩, hheld, he, hfirst⟩
    refine ⟨place, (b.dangles_iff place e).2 ⟨ty, hheld, he⟩, ?_⟩
    intro place' hbefore
    exact (b.not_dangles_iff place').2 fun ty' hheld' => hfirst (place', ty') hheld' hbefore
  · rintro ⟨place, hdangles, hfirst⟩
    obtain ⟨ty, hheld, he⟩ := (b.dangles_iff place e).1 hdangles
    refine ⟨(place, ty), hheld, he, ?_⟩
    rintro ⟨place', ty'⟩ hheld' hbefore
    exact (b.not_dangles_iff place').1 (hfirst place' hbefore) ty' hheld'

theorem build_eq_ok_iff_not_dangles (b : Builder) (r : Registry) :
    b.build = .ok r ↔ (∀ place e, ¬ b.contents.Dangles place e) ∧ r = b.contents := by
  rw [← firstDangling?_eq_none_iff, build_eq]
  cases b.firstDangling? with
  | none => simp [contents, eq_comm]
  | some e => simp

/-- **The first dangling reference is reported.** A builder makes a registry just if no
reference dangles at any of its places, and the registry holds its three tables. Otherwise the
error is that of a place where a reference dangles, and there is no such place before it. -/
theorem build_reports_first (b : Builder) :
    (∀ r, b.build = .ok r ↔
        (∀ place e, ¬ b.contents.Dangles place e)
          ∧ r = ⟨b.ruleTable, b.namespaceTable, b.globalTable⟩)
      ∧ ∀ e, b.build = .error e ↔
        ∃ place, b.contents.Dangles place e
          ∧ ∀ place', place'.Before place → ∀ e', ¬ b.contents.Dangles place' e' := by
  refine ⟨?_, ?_⟩
  · exact b.build_eq_ok_iff_not_dangles
  · intro e
    rw [← firstDangling?_eq_some_iff, build_eq]
    cases b.firstDangling? <;> simp

-- A member is checked before a global name, and members by their names, not as they are declared.
example :
    let b := (Builder.empty.registerAll
      [.global "alias" (.scope ⟨"missing"⟩),
       .attributes ⟨"gpu"⟩ (.ofList [("b", .nested ⟨"b"⟩), ("a", .type (.intrinsic ⟨"f"⟩))])]).1
    b.buildEvents = [] ∧ b.firstDangling? = some (.unknownIntrinsic "gpu.a" ⟨"f"⟩) := by
  decide +kernel

end Builder

end KernelTyping
