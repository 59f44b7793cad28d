import KernelTyping.Registry

set_option autoImplicit false

/-! # What a registry holds

A registry is no more than the registrations that it holds, each under a key (`Holds`, `Key`).
A registration fails just if it is refused, for what it declares twice or for its key (`Refusal`,
`register_eq_error_iff`). One that succeeds adds just itself (`holds_register`), so registrations
that all succeed add just themselves (`holds_registerAll`); they do succeed if nothing is declared
twice and every key is new (`registerAll_of_fresh`).
-/

namespace KernelTyping

/-! ## Keys -/

/-- What a thing is registered under. Intrinsics, namespaces and global names are kept apart. -/
inductive Key where
  | intrinsic (id : IntrinsicId)
  | scope (ns : NamespaceId)
  | global (name : String)
  deriving DecidableEq

namespace Registration

/-- The key of a registration. -/
def key : Registration → Key
  | .rule id _ => .intrinsic id
  | .attributes ns _ => .scope ns
  | .global name _ => .global name

/-- The names that a registration declares more than once. -/
def repeated : Registration → List String
  | .attributes _ members => members.repeated
  | _ => []

end Registration

namespace Registry

/-- Whether a registry holds just this registration under its key. -/
def Holds (r : Registry) : Registration → Prop
  | .rule id rule => r.rule? id = some rule
  | .attributes ns members => r.attributes? ns = some members
  | .global name ty => r.global? name = some ty

/-- Whether a registry holds anything under a key. -/
def has (r : Registry) : Key → Bool
  | .intrinsic id => (r.rule? id).isSome
  | .scope ns => (r.attributes? ns).isSome
  | .global name => (r.global? name).isSome

theorem has_iff (r : Registry) (key : Key) :
    r.has key = true ↔ ∃ item : Registration, item.key = key ∧ r.Holds item := by
  constructor
  · intro h
    cases key with
    | intrinsic id =>
        obtain ⟨rule, hrule⟩ := Option.isSome_iff_exists.1 h
        exact ⟨.rule id rule, rfl, hrule⟩
    | scope ns =>
        obtain ⟨members, hmembers⟩ := Option.isSome_iff_exists.1 h
        exact ⟨.attributes ns members, rfl, hmembers⟩
    | global name =>
        obtain ⟨ty, hty⟩ := Option.isSome_iff_exists.1 h
        exact ⟨.global name ty, rfl, hty⟩
  · rintro ⟨item, rfl, h⟩
    cases item <;> exact Option.isSome_iff_exists.2 ⟨_, h⟩

end Registry

/-! ## Reasons to refuse -/

/-- Why a registration is refused where the keys `taken` are in use. A map that declares members
twice is refused for the one whose second declaration came first, also if its namespace is in
use. -/
inductive Refusal (taken : Key → Prop) : Registration → RegistryError → Prop
  | rule {id : IntrinsicId} {rule : Rule} (htaken : taken (.intrinsic id)) :
      Refusal taken (.rule id rule) (.duplicateRule id)
  | repeated {ns : NamespaceId} {members : AttributeMap} {member : String} {later : List String}
      (hrepeated : members.repeated = member :: later) :
      Refusal taken (.attributes ns members) (.duplicateMember ns member)
  | attributes {ns : NamespaceId} {members : AttributeMap} (hrepeated : members.repeated = [])
      (htaken : taken (.scope ns)) :
      Refusal taken (.attributes ns members) (.duplicateNamespace ns)
  | global {name : String} {ty : Ty} (htaken : taken (.global name)) :
      Refusal taken (.global name ty) (.duplicateGlobal name)

/-- A registration is refused for what it declares twice or for its key. -/
theorem exists_refusal_iff (taken : Key → Prop) (item : Registration) :
    (∃ e, Refusal taken item e) ↔ item.repeated ≠ [] ∨ taken item.key := by
  constructor
  · rintro ⟨e, h⟩
    cases h with
    | rule htaken => exact .inr htaken
    | @repeated ns members member later hrepeated =>
        have hne : members.repeated ≠ [] := by rw [hrepeated]; simp
        exact .inl hne
    | attributes hrepeated htaken => exact .inr htaken
    | global htaken => exact .inr htaken
  · intro h
    cases item with
    | rule id rule => exact ⟨_, .rule (h.resolve_left (fun hne => hne rfl))⟩
    | attributes ns members =>
        cases hrepeated : members.repeated with
        | cons member later => exact ⟨_, .repeated hrepeated⟩
        | nil => exact ⟨_, .attributes hrepeated (h.resolve_left fun hne => hne hrepeated)⟩
    | global name ty => exact ⟨_, .global (h.resolve_left (fun hne => hne rfl))⟩

/-- Of the keys in use only that of the registration counts. -/
theorem Refusal.congr {taken taken' : Key → Prop} {item : Registration} {e : RegistryError}
    (h : Refusal taken item e) (hkey : taken item.key → taken' item.key) :
    Refusal taken' item e := by
  cases h with
  | rule htaken => exact .rule (hkey htaken)
  | repeated hrepeated => exact .repeated hrepeated
  | attributes hrepeated htaken => exact .attributes hrepeated (hkey htaken)
  | global htaken => exact .global (hkey htaken)

/-! ## What registering adds -/

namespace Builder

/-- The registry that holds all that has been registered so far. -/
def contents (b : Builder) : Registry := ⟨b.ruleTable, b.namespaceTable, b.globalTable⟩

theorem has_contents_empty (key : Key) : empty.contents.has key = false := by
  cases key <;> rfl

theorem not_holds_contents_empty (item : Registration) : ¬ empty.contents.Holds item := by
  intro hholds
  have hhas := (Registry.has_iff _ item.key).2 ⟨item, rfl, hholds⟩
  rw [has_contents_empty] at hhas
  cases hhas

/-- A registration fails just for the reason for which it is refused. -/
theorem register_eq_error_iff (b : Builder) (item : Registration) (e : RegistryError) :
    b.register item = .error e ↔ Refusal (fun key => b.contents.has key = true) item e := by
  constructor
  · intro h
    cases item with
    | rule id rule =>
        simp only [register] at h
        split at h
        · rename_i htaken
          cases h
          exact .rule htaken
        · cases h
    | attributes ns members =>
        simp only [register] at h
        split at h
        · rename_i member later hrepeated
          cases h
          exact .repeated hrepeated
        · rename_i hrepeated
          split at h
          · rename_i htaken
            cases h
            exact .attributes hrepeated htaken
          · cases h
    | global name ty =>
        simp only [register] at h
        split at h
        · rename_i htaken
          cases h
          exact .global htaken
        · cases h
  · intro h
    cases h with
    | rule htaken => exact if_pos htaken
    | repeated hrepeated => simp only [register, hrepeated]
    | attributes hrepeated htaken =>
        simp only [register, hrepeated]
        exact if_pos htaken
    | global htaken => exact if_pos htaken

/-- A registration succeeds if it declares nothing twice and its key is new. -/
theorem register_of_fresh {b : Builder} {item : Registration} (hrepeated : item.repeated = [])
    (hfresh : b.contents.has item.key = false) : ∃ b', b.register item = .ok b' := by
  cases hitem : b.register item with
  | ok b' => exact ⟨b', rfl⟩
  | error e =>
      have hrefused := (exists_refusal_iff _ item).1 ⟨e, (b.register_eq_error_iff item e).1 hitem⟩
      rcases hrefused with hne | htaken
      · exact absurd hrepeated hne
      · rw [hfresh] at htaken
        cases htaken

/-- What a successful registration writes, and that its key was new. -/
theorem register_cases {b b' : Builder} {item : Registration} (h : b.register item = .ok b') :
    (∃ id rule, item = .rule id rule ∧ b.ruleTable.contains id.text = false
        ∧ b' = { b with ruleTable := b.ruleTable.insert id.text rule })
      ∨ (∃ ns members, item = .attributes ns members
        ∧ b.namespaceTable.contains ns.text = false
        ∧ b' = { b with namespaceTable := b.namespaceTable.insert ns.text members })
      ∨ ∃ name ty, item = .global name ty ∧ b.globalTable.contains name = false
        ∧ b' = { b with globalTable := b.globalTable.insert name ty } := by
  cases item with
  | rule id rule =>
      simp only [register] at h
      split at h
      · cases h
      · rename_i hnew
        exact .inl ⟨id, rule, rfl, by simpa using hnew, (Except.ok.inj h).symm⟩
  | attributes ns members =>
      simp only [register] at h
      split at h
      · cases h
      · split at h
        · cases h
        · rename_i hnew
          exact .inr (.inl ⟨ns, members, rfl, by simpa using hnew, (Except.ok.inj h).symm⟩)
  | global name ty =>
      simp only [register] at h
      split at h
      · cases h
      · rename_i hnew
        exact .inr (.inr ⟨name, ty, rfl, by simpa using hnew, (Except.ok.inj h).symm⟩)

/-- A successful registration adds itself and keeps everything else. -/
theorem holds_register {b b' : Builder} {item : Registration} (h : b.register item = .ok b')
    (other : Registration) :
    b'.contents.Holds other ↔ other = item ∨ b.contents.Holds other := by
  obtain ⟨⟨text⟩, rule, rfl, hnew, rfl⟩ | ⟨⟨text⟩, members, rfl, hnew, rfl⟩
    | ⟨name, ty, rfl, hnew, rfl⟩ := register_cases h
  -- The kinds are kept in tables of their own, so only a registration of one kind is affected.
  · cases other with
    | rule id rule' =>
        obtain ⟨text'⟩ := id
        simp only [Registration.rule.injEq, IntrinsicId.mk.injEq]
        exact Table.get?_insert_eq_some_iff hnew rule text' rule'
    | _ => simp [Registry.Holds, Registry.attributes?, Registry.global?, contents]
  · cases other with
    | attributes ns members' =>
        obtain ⟨text'⟩ := ns
        simp only [Registration.attributes.injEq, NamespaceId.mk.injEq]
        exact Table.get?_insert_eq_some_iff hnew members text' members'
    | _ => simp [Registry.Holds, Registry.rule?, Registry.global?, contents]
  · cases other with
    | global name' ty' =>
        simp only [Registration.global.injEq]
        exact Table.get?_insert_eq_some_iff hnew ty name' ty'
    | _ => simp [Registry.Holds, Registry.rule?, Registry.attributes?, contents]

/-- A registration fails just for what is declared twice. -/
theorem category_of_register {b : Builder} {item : Registration} {e : RegistryError}
    (h : b.register item = .error e) : e.category = .duplicateRegistration := by
  cases (b.register_eq_error_iff item e).1 h <;> rfl

theorem has_register {b b' : Builder} {item : Registration} (h : b.register item = .ok b')
    (key : Key) : b'.contents.has key = true ↔ key = item.key ∨ b.contents.has key = true := by
  rw [Registry.has_iff, Registry.has_iff]
  simp only [holds_register h]
  constructor
  · rintro ⟨other, rfl, rfl | hother⟩
    · exact .inl rfl
    · exact .inr ⟨other, rfl, hother⟩
  · rintro (rfl | ⟨other, rfl, hother⟩)
    · exact ⟨item, rfl, .inl rfl⟩
    · exact ⟨other, rfl, .inr hother⟩

/-! ## Runs of registrations -/

theorem registerAll_cons_of_ok {b b' : Builder} {item : Registration}
    (h : b.register item = .ok b') (rest : List Registration) :
    b.registerAll (item :: rest) = b'.registerAll rest := by
  simp only [registerAll, h]

theorem registerAll_cons_of_error {b : Builder} {item : Registration} {e : RegistryError}
    (h : b.register item = .error e) (rest : List Registration) :
    b.registerAll (item :: rest) = (b, some e) := by
  simp only [registerAll, h]

/-- Registrations that stop stop at one of them, and all before it have succeeded. -/
theorem registerAll_stops {items : List Registration} {b b' : Builder} {e : RegistryError}
    (h : b.registerAll items = (b', some e)) :
    ∃ done item rest, items = done ++ item :: rest ∧ b.registerAll done = (b', none)
      ∧ b'.register item = .error e := by
  induction items generalizing b with
  | nil => cases h
  | cons item rest ih =>
      cases hitem : b.register item with
      | error e' =>
          rw [registerAll_cons_of_error hitem] at h
          cases h
          exact ⟨[], item, rest, rfl, rfl, hitem⟩
      | ok next =>
          rw [registerAll_cons_of_ok hitem] at h
          obtain ⟨done, stop, later, rfl, hdone, hstop⟩ := ih h
          refine ⟨item :: done, stop, later, rfl, ?_, hstop⟩
          rw [registerAll_cons_of_ok hitem]
          exact hdone

/-- Registrations that all succeed add themselves and keep everything else. -/
theorem holds_registerAll {items : List Registration} {b b' : Builder}
    (h : b.registerAll items = (b', none)) (other : Registration) :
    b'.contents.Holds other ↔ other ∈ items ∨ b.contents.Holds other := by
  induction items generalizing b with
  | nil =>
      obtain rfl : b = b' := (Prod.mk.inj h).1
      simp
  | cons item rest ih =>
      cases hitem : b.register item with
      | error e => simp [registerAll, hitem] at h
      | ok next =>
          rw [registerAll_cons_of_ok hitem] at h
          calc b'.contents.Holds other
              ↔ other ∈ rest ∨ next.contents.Holds other := ih h
            _ ↔ other ∈ rest ∨ other = item ∨ b.contents.Holds other := by
                rw [holds_register hitem]
            _ ↔ (other = item ∨ other ∈ rest) ∨ b.contents.Holds other :=
                or_left_comm.trans or_assoc.symm
            _ ↔ other ∈ item :: rest ∨ b.contents.Holds other := by rw [List.mem_cons]

/-- Registrations succeed if they declare nothing twice and their keys are new and distinct. -/
theorem registerAll_of_fresh {items : List Registration} {b : Builder}
    (hrepeated : ∀ item ∈ items, item.repeated = [])
    (hdistinct : (items.map Registration.key).Nodup)
    (hfresh : ∀ item ∈ items, b.contents.has item.key = false) :
    ∃ b', b.registerAll items = (b', none) := by
  induction items generalizing b with
  | nil => exact ⟨b, rfl⟩
  | cons item rest ih =>
      obtain ⟨hkey, hrest⟩ := List.nodup_cons.1 hdistinct
      obtain ⟨next, hnext⟩ :=
        register_of_fresh (hrepeated item List.mem_cons_self) (hfresh item List.mem_cons_self)
      have hrepeated' : ∀ other ∈ rest, other.repeated = [] := by
        intro other hmem
        exact hrepeated other (List.mem_cons_of_mem _ hmem)
      -- The first item takes its own key only, and no later item has that key.
      have hfresh' : ∀ other ∈ rest, next.contents.has other.key = false := by
        intro other hmem
        have hne : other.key ≠ item.key := by
          intro heq
          exact hkey (heq ▸ List.mem_map_of_mem hmem)
        have hold : b.contents.has other.key = false :=
          hfresh other (List.mem_cons_of_mem _ hmem)
        rw [Bool.eq_false_iff, Ne, has_register hnext]
        simp [hne, hold]
      rw [registerAll_cons_of_ok hnext]
      exact ih hrepeated' hrest hfresh'

end Builder

end KernelTyping
