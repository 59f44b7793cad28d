import KernelTyping.Proofs.DanglingReferences
import KernelTyping.Session

set_option autoImplicit false

/-! # Closed registries

A registry is closed if whatever it refers to is registered (`Registry.Closed`). Making a
registry succeeds just for closed contents (`build_eq_ok_iff`), and being closed is all that
paths need: a path of any length, also one that goes round in circles, ends at something that
is registered and never notes a missing namespace (`Closed.answerPath_trail`).
-/

namespace KernelTyping

/-! ## References -/

/-- The key that a type refers to, if it is a reference. -/
def Ty.target? : Ty → Option Key
  | .intrinsic id => some (.intrinsic id)
  | .scope ns => some (.scope ns)
  | _ => none

/-- The types that a registration brings into a registry. -/
def Registration.heldTypes : Registration → List Ty
  | .rule _ _ => []
  | .attributes _ members => members.members.entries.map fun member => member.2.ty
  | .global _ ty => [ty]

namespace Registry

/-- Whether a type refers to nothing that is missing from a registry. -/
def Knows (r : Registry) (ty : Ty) : Prop := ∀ key, ty.target? = some key → r.has key = true

/-- Whether all types in a registry refer to what is in it. -/
def Closed (r : Registry) : Prop :=
  ∀ item : Registration, r.Holds item → ∀ ty ∈ item.heldTypes, r.Knows ty

theorem knows_intrinsic_iff (r : Registry) (id : IntrinsicId) :
    r.Knows (.intrinsic id) ↔ (r.rule? id).isSome = true := by
  simp [Knows, Ty.target?, has]

theorem knows_scope_iff (r : Registry) (ns : NamespaceId) :
    r.Knows (.scope ns) ↔ (r.attributes? ns).isSome = true := by
  simp [Knows, Ty.target?, has]

theorem Closed.knows_member {r : Registry} (h : r.Closed) {ns : NamespaceId}
    {members : AttributeMap} (hns : r.attributes? ns = some members) {name : String}
    {entry : AttributeEntry} (hentry : members.get? name = some entry) : r.Knows entry.ty := by
  have hmem : (name, entry) ∈ members.members.entries :=
    (members.members.mem_entries_iff name entry).2 hentry
  exact h (.attributes ns members) hns _ (List.mem_map.2 ⟨_, hmem, rfl⟩)

theorem Closed.knows_global {r : Registry} (h : r.Closed) {name : String} {ty : Ty}
    (hty : r.global? name = some ty) : r.Knows ty :=
  h (.global name ty) hty ty (List.mem_singleton.2 rfl)

/-! ## Making a registry -/

/-- The types that are held at places are those of all that is registered. -/
theorem exists_typeAt?_iff (r : Registry) (ty : Ty) :
    (∃ place, r.typeAt? place = some ty) ↔
      ∃ item : Registration, r.Holds item ∧ ty ∈ item.heldTypes := by
  constructor
  · rintro ⟨place, h⟩
    cases place with
    | member ns name =>
        obtain ⟨members, entry, hns, hentry, rfl⟩ :=
          (r.typeAt?_member_eq_some_iff ns name ty).1 h
        have hmem : (name, entry) ∈ members.members.entries :=
          (members.members.mem_entries_iff name entry).2 hentry
        exact ⟨.attributes ns members, hns, List.mem_map.2 ⟨_, hmem, rfl⟩⟩
    | global name => exact ⟨.global name ty, h, List.mem_singleton.2 rfl⟩
  · rintro ⟨item, hholds, h⟩
    cases item with
    | rule id rule => cases h
    | attributes ns members =>
        obtain ⟨⟨name, entry⟩, hmember, rfl⟩ := List.mem_map.1 h
        have hentry : members.get? name = some entry :=
          (members.members.mem_entries_iff name entry).1 hmember
        exact ⟨.member ns name,
          (r.typeAt?_member_eq_some_iff ns name _).2 ⟨members, entry, hholds, hentry, rfl⟩⟩
    | global name ty' =>
        obtain rfl := List.mem_singleton.1 h
        exact ⟨.global name, hholds⟩

theorem knows_iff_not_dangles {r : Registry} {place : Place} {ty : Ty}
    (hheld : r.typeAt? place = some ty) : r.Knows ty ↔ ∀ e, ¬ r.Dangles place e := by
  constructor
  · intro hknows e he
    cases he with
    | @intrinsic id hheld' hmissing =>
        obtain rfl : ty = .intrinsic id := Option.some.inj (hheld.symm.trans hheld')
        simp [knows_intrinsic_iff, hmissing] at hknows
    | @scope ns hheld' hmissing =>
        obtain rfl : ty = .scope ns := Option.some.inj (hheld.symm.trans hheld')
        simp [knows_scope_iff, hmissing] at hknows
  · intro h
    cases ty with
    | intrinsic id =>
        rw [knows_intrinsic_iff, Option.isSome_iff_ne_none]
        intro hmissing
        exact h _ (.intrinsic hheld hmissing)
    | scope ns =>
        rw [knows_scope_iff, Option.isSome_iff_ne_none]
        intro hmissing
        exact h _ (.scope hheld hmissing)
    | _ => simp [Knows, Ty.target?]

theorem closed_iff_not_dangles (r : Registry) :
    r.Closed ↔ ∀ place e, ¬ r.Dangles place e := by
  constructor
  · intro h place e he
    obtain ⟨ty, hheld⟩ := he.exists_typeAt?
    obtain ⟨item, hholds, hty⟩ := (r.exists_typeAt?_iff ty).1 ⟨place, hheld⟩
    exact (knows_iff_not_dangles hheld).1 (h item hholds ty hty) e he
  · intro h item hholds ty hty
    obtain ⟨place, hheld⟩ := (r.exists_typeAt?_iff ty).2 ⟨item, hholds, hty⟩
    exact (knows_iff_not_dangles hheld).2 (h place)

end Registry

/-- A registry can be made just of closed contents, and it is these contents. -/
theorem Builder.build_eq_ok_iff (b : Builder) (r : Registry) :
    b.build = .ok r ↔ b.contents.Closed ∧ r = b.contents := by
  rw [build_eq_ok_iff_not_dangles, Registry.closed_iff_not_dangles]

/-! ## The trail of a path -/

/-- What can be noted on the way through the members of a path: hits, and a miss at the end. -/
inductive MemberTrail : List Action → Prop
  | done : MemberTrail []
  | miss : MemberTrail [.lookup, .attributeMiss]
  | hit {rest : List Action} : MemberTrail rest → MemberTrail (.lookup :: .attributeHit :: rest)

/-- What can be noted on the way through a path: its global name comes first. -/
inductive PathTrail : List Action → Prop
  | empty : PathTrail []
  | miss : PathTrail [.globalMiss]
  | hit {rest : List Action} : MemberTrail rest → PathTrail (.globalHit :: rest)

theorem MemberTrail.not_mem_lookupMiss {actions : List Action} (h : MemberTrail actions) :
    Action.lookupMiss ∉ actions := by
  induction h with
  | done => simp
  | miss => simp
  | hit _ ih => simp [ih]

theorem PathTrail.not_mem_lookupMiss {actions : List Action} (h : PathTrail actions) :
    Action.lookupMiss ∉ actions := by
  cases h with
  | empty => simp
  | miss => simp
  | hit hrest => simp [hrest.not_mem_lookupMiss]

namespace Registry

/-! ## Paths in a closed registry -/

/-- One step of a path: a hit finds something known, and a namespace is never missing. -/
theorem Closed.answerMember_cases {r : Registry} (h : r.Closed) {base : Ty}
    (hbase : r.Knows base) (member : String) :
    (∃ next, (r.answerMember true base member).value = some next ∧ r.Knows next
        ∧ (r.answerMember true base member).actions = [.lookup, .attributeHit])
      ∨ (r.answerMember true base member).value = none
        ∧ ((r.answerMember true base member).actions = []
          ∨ (r.answerMember true base member).actions = [.lookup, .attributeMiss]) := by
  cases base with
  | scope ns =>
      obtain ⟨members, hns⟩ := Option.isSome_iff_exists.1 ((r.knows_scope_iff ns).1 hbase)
      rw [answerMember, answerAttribute, hns]
      cases hentry : members.get? member with
      | some entry =>
          refine .inl ⟨entry.ty, ?_, h.knows_member hns hentry, ?_⟩ <;> simp [hentry]
      | none => exact .inr ⟨by simp [hentry], .inr (by simp [hentry])⟩
  | _ => exact .inr ⟨rfl, .inl rfl⟩

/-- Members inside one another: the induction carries along that the base is known. -/
theorem Closed.answerMembers_trail {r : Registry} (h : r.Closed) {base : Ty}
    (hbase : r.Knows base) (members : List String) :
    (∀ ty, (r.answerMembers true base members).value = some ty → r.Knows ty)
      ∧ MemberTrail (r.answerMembers true base members).actions := by
  induction members generalizing base with
  | nil =>
      refine ⟨fun ty hty => ?_, .done⟩
      obtain rfl : base = ty := Option.some.inj hty
      exact hbase
  | cons member rest ih =>
      rw [answerMembers]
      rcases h.answerMember_cases hbase member with ⟨next, hvalue, hnext, hactions⟩
        | ⟨hvalue, hactions⟩
      · obtain ⟨hknows, htrail⟩ := ih hnext
        simp only [Noted.value_bind, Noted.actions_bind, hvalue, hactions]
        exact ⟨hknows, .hit htrail⟩
      · simp only [Noted.value_bind, Noted.actions_bind, hvalue, Noted.actions_pure]
        refine ⟨fun ty hty => absurd hty (by simp), ?_⟩
        rcases hactions with hactions | hactions <;> rw [hactions]
        · exact .done
        · exact .miss

theorem Closed.answerPath_trail {r : Registry} (h : r.Closed) (names : List String) :
    (∀ ty, (r.answerPath true names).value = some ty → r.Knows ty)
      ∧ PathTrail (r.answerPath true names).actions := by
  cases names with
  | nil => exact ⟨fun ty hty => absurd hty (by simp [answerPath]), .empty⟩
  | cons name members =>
      rw [answerPath, answerGlobal]
      cases hname : r.global? name with
      | none => exact ⟨fun ty hty => absurd hty (by simp), .miss⟩
      | some base =>
          have hbase : r.Knows base := h.knows_global hname
          obtain ⟨hknows, htrail⟩ := h.answerMembers_trail hbase members
          simp only [Noted.value_bind, Noted.value_pure, Noted.actions_bind, Noted.actions_note,
            Noted.actions_pure, List.append_nil, List.singleton_append]
          exact ⟨hknows, .hit htrail⟩

end Registry

/-! ## Paths in a session -/

/-- What asking for a path replies and adds to a trace. -/
theorem Session.ask_path (s : Session) (names : List String) :
    (s.ask (.path names)).1 = .ty (s.registry.answerPath s.isTracing names).value
      ∧ (s.ask (.path names)).2.2.trace = s.trace.map fun steps =>
        steps ++ Trace.number steps.length (s.registry.answerPath s.isTracing names).notes := by
  refine ⟨rfl, ?_⟩
  simp only [Session.ask, Registry.answer, Session.record, Noted.notes_map]

/-- **No path leads to something that is missing.** In a registry that was made, a path that
ends at an intrinsic or at a namespace ends at one that is registered, in any session. To a
trace it adds at most a hit or a miss of its global name, and after a hit only hits of members
and possibly a miss at the end; a missing namespace is never noted. -/
theorem path_registered_of_build {b : Builder} {r : Registry} (h : b.build = .ok r)
    (names : List String) :
    (∀ trace id, (Session.ask ⟨r, trace⟩ (.path names)).1 = .ty (some (.intrinsic id)) →
        (r.rule? id).isSome = true)
      ∧ (∀ trace ns, (Session.ask ⟨r, trace⟩ (.path names)).1 = .ty (some (.scope ns)) →
        (r.attributes? ns).isSome = true)
      ∧ ∀ steps, ∃ new : List Step,
        (Session.ask ⟨r, some steps⟩ (.path names)).2.2.trace = some (steps ++ new)
          ∧ PathTrail (new.map fun step => step.action)
          ∧ ∀ step ∈ new, step.action ≠ .lookupMiss := by
  obtain ⟨hclosed, rfl⟩ := (b.build_eq_ok_iff r).1 h
  obtain ⟨hknows, htrail⟩ := hclosed.answerPath_trail names
  have hanswer : ∀ trace ty,
      (Session.ask ⟨b.contents, trace⟩ (.path names)).1 = .ty (some ty) → b.contents.Knows ty := by
    intro trace ty hty
    rw [(Session.ask_path _ names).1, Registry.value_answerPath_tracing] at hty
    exact hknows ty (by rw [Registry.value_answerPath_tracing]; exact Reply.ty.inj hty)
  refine ⟨?_, ?_, ?_⟩
  · intro trace id hid
    have hknown : b.contents.Knows (.intrinsic id) := hanswer trace _ hid
    exact (b.contents.knows_intrinsic_iff id).1 hknown
  · intro trace ns hns
    have hknown : b.contents.Knows (.scope ns) := hanswer trace _ hns
    exact (b.contents.knows_scope_iff ns).1 hknown
  · intro steps
    -- Numbering the notes does not change what they say.
    have hnew : PathTrail
        ((Trace.number steps.length (b.contents.answerPath true names).notes).map
          fun step => step.action) := by
      rw [Trace.map_action_number]
      exact htrail
    refine ⟨_, (Session.ask_path ⟨b.contents, some steps⟩ names).2, hnew, ?_⟩
    intro step hstep hmiss
    have hmem := List.mem_map_of_mem (f := fun step : Step => step.action) hstep
    exact hnew.not_mem_lookupMiss (hmiss ▸ hmem)

/-- A namespace that is a member of itself, with one intrinsic. -/
def looped : Builder :=
  (Builder.empty.registerAll
    [.rule ⟨"gpu.sync"⟩ (.fixedTable [⟨[], .unit⟩]),
     .attributes ⟨"gpu"⟩
      (.ofList [("self", .nested ⟨"gpu"⟩), ("sync", .type (.intrinsic ⟨"gpu.sync"⟩))]),
     .global "gpu" (.scope ⟨"gpu"⟩)]).1

theorem path_registered_looped :
    looped.build = .ok looped.contents
      ∧ (Session.ask (.traced looped.contents) (.path ["gpu", "self", "self", "sync"])).1
        = .ty (some (.intrinsic ⟨"gpu.sync"⟩))
      ∧ (looped.contents.rule? ⟨"gpu.sync"⟩).isSome = true := by
  have hbuild : looped.build = .ok looped.contents := by rfl
  have hreply : (Session.ask (.traced looped.contents) (.path ["gpu", "self", "self", "sync"])).1
      = .ty (some (.intrinsic ⟨"gpu.sync"⟩)) := by rfl
  exact ⟨hbuild, hreply, (path_registered_of_build hbuild _).1 _ _ hreply⟩

end KernelTyping
