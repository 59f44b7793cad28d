import KernelTyping.Proofs.Attempts
import KernelTyping.Proofs.History
import KernelTyping.Proofs.Members
import Mathlib.Data.List.Forall2

set_option autoImplicit false

/-! # The order of registrations

Registrations that do not collide can be made in any order, and the members of a namespace
declared in any order. References may go forward, since they are checked only at the end. What
comes out is one and the same builder (`registerAll_eq_of_perm`): a registry is no more than
what it holds (`Registry.eq_of_holds_iff`), and its tables keep no trace of the order of writing.
So the same registry is made, or the same dangling reference is reported
(`build_eq_of_reordered`).
-/

namespace KernelTyping

/-! ## Contents and nothing else -/

/-- Registries that hold the same are the same. -/
theorem Registry.eq_of_holds_iff {r r' : Registry} (h : ∀ item, r.Holds item ↔ r'.Holds item) :
    r = r' := by
  have hrules : r.ruleTable = r'.ruleTable := by
    refine Table.ext_get? fun key => Option.ext fun rule => ?_
    exact h (.rule ⟨key⟩ rule)
  have hnamespaces : r.namespaceTable = r'.namespaceTable := by
    refine Table.ext_get? fun key => Option.ext fun members => ?_
    exact h (.attributes ⟨key⟩ members)
  have hglobals : r.globalTable = r'.globalTable := by
    refine Table.ext_get? fun key => Option.ext fun ty => ?_
    exact h (.global key ty)
  obtain ⟨_, _, _⟩ := r
  obtain ⟨_, _, _⟩ := r'
  cases hrules
  cases hnamespaces
  cases hglobals
  rfl

namespace Builder

theorem eq_of_contents_eq {b b' : Builder} (h : b.contents = b'.contents) : b = b' := by
  obtain ⟨_, _, _⟩ := b
  obtain ⟨_, _, _⟩ := b'
  cases h
  rfl

/-- Registrations that declare nothing twice and have new and distinct keys lead to the same
builder in any order. -/
theorem registerAll_eq_of_perm {items items' : List Registration} {b : Builder}
    (hrepeated : ∀ item ∈ items, item.repeated = [])
    (hdistinct : (items.map Registration.key).Nodup)
    (hfresh : ∀ item ∈ items, b.contents.has item.key = false) (h : items.Perm items') :
    ∃ b', b.registerAll items = (b', none) ∧ b.registerAll items' = (b', none) := by
  have hrepeated' : ∀ item ∈ items', item.repeated = [] := by
    intro item hmem
    exact hrepeated item (h.mem_iff.2 hmem)
  have hdistinct' : (items'.map Registration.key).Nodup :=
    (h.map Registration.key).nodup_iff.1 hdistinct
  have hfresh' : ∀ item ∈ items', b.contents.has item.key = false := by
    intro item hmem
    exact hfresh item (h.mem_iff.2 hmem)
  obtain ⟨first, hfirst⟩ := registerAll_of_fresh hrepeated hdistinct hfresh
  obtain ⟨second, hsecond⟩ := registerAll_of_fresh hrepeated' hdistinct' hfresh'
  have hcontents : first.contents = second.contents := by
    refine Registry.eq_of_holds_iff fun item => ?_
    rw [holds_registerAll hfirst, holds_registerAll hsecond, h.mem_iff]
  obtain rfl : first = second := eq_of_contents_eq hcontents
  exact ⟨first, hfirst, hsecond⟩

end Builder

/-! ## Registrations as they are written down -/

/-- A registration as it is written down: the members of a namespace are declared one after the
other. -/
inductive Draft where
  | rule (id : IntrinsicId) (rule : Rule)
  | attributes (ns : NamespaceId) (declarations : List (String × AttributeEntry))
  | global (name : String) (ty : Ty)

namespace Draft

/-- The registration that is made of a draft. -/
def registration : Draft → Registration
  | .rule id typing => .rule id typing
  | .attributes ns declarations => .attributes ns (.ofList declarations)
  | .global name ty => .global name ty

/-- The key of a draft. -/
def key (draft : Draft) : Key := draft.registration.key

/-- The names of the members that a draft declares, in order. -/
def names : Draft → List String
  | .attributes _ declarations => declarations.map Prod.fst
  | _ => []

/-- Drafts that differ at most in the order in which they declare members. -/
inductive Reorders : Draft → Draft → Prop
  | rule {id : IntrinsicId} {rule : Rule} : Reorders (.rule id rule) (.rule id rule)
  | attributes {ns : NamespaceId} {declarations declarations' : List (String × AttributeEntry)}
      (h : declarations.Perm declarations') :
      Reorders (.attributes ns declarations) (.attributes ns declarations')
  | global {name : String} {ty : Ty} : Reorders (.global name ty) (.global name ty)

/-- Lists of drafts that differ only in their order and in the order of the members. -/
def Reordered (drafts drafts' : List Draft) : Prop :=
  ∃ middle : List Draft, drafts.Perm middle ∧ List.Forall₂ Reorders middle drafts'

theorem repeated_registration {draft : Draft} (h : draft.names.Nodup) :
    draft.registration.repeated = [] := by
  cases draft with
  | rule id typing => rfl
  | attributes ns declarations => exact (AttributeMap.repeated_ofList_eq_nil_iff _).2 h
  | global name ty => rfl

theorem Reorders.registration_eq {draft draft' : Draft} (h : Reorders draft draft')
    (hnames : draft.names.Nodup) : draft.registration = draft'.registration := by
  cases h with
  | rule => rfl
  | @attributes ns _ _ h =>
      exact congrArg (Registration.attributes ns) (AttributeMap.ofList_eq_of_perm hnames h)
  | global => rfl

theorem map_registration_of_forall₂ {drafts drafts' : List Draft}
    (h : List.Forall₂ Reorders drafts drafts') (hnames : ∀ draft ∈ drafts, draft.names.Nodup) :
    drafts.map registration = drafts'.map registration := by
  induction h with
  | nil => rfl
  | cons hhead _ ih =>
      rw [List.map_cons, List.map_cons, hhead.registration_eq (hnames _ List.mem_cons_self),
        ih fun draft hmem => hnames draft (List.mem_cons_of_mem _ hmem)]

/-- Reordered drafts make the same registrations in another order. -/
theorem Reordered.perm {drafts drafts' : List Draft} (h : Reordered drafts drafts')
    (hnames : ∀ draft ∈ drafts, draft.names.Nodup) :
    (drafts.map registration).Perm (drafts'.map registration) := by
  obtain ⟨middle, hperm, hmembers⟩ := h
  have hmiddle : ∀ draft ∈ middle, draft.names.Nodup := by
    intro draft hmem
    exact hnames draft (hperm.mem_iff.2 hmem)
  rw [← map_registration_of_forall₂ hmembers hmiddle]
  exact hperm.map registration

end Draft

namespace Builder

/-- **The order of registrations leaves no mark.** Where no two drafts have one key and none
declares a member twice, all of them are registered, in the order given and in any other, also
if the members of the namespaces are declared in another order. Either way the making of the
registry ends alike: with the same error, which names the same referrer and the same target, or
with registries that list the same, hold the same, and reply the same to every question. -/
theorem build_eq_of_reordered {drafts drafts' : List Draft}
    (hkeys : (drafts.map Draft.key).Nodup) (hnames : ∀ draft ∈ drafts, draft.names.Nodup)
    (h : Draft.Reordered drafts drafts') :
    ∃ b b', empty.registerAll (drafts.map Draft.registration) = (b, none)
      ∧ empty.registerAll (drafts'.map Draft.registration) = (b', none)
      ∧ (∀ e, b.build = .error e ↔ b'.build = .error e)
      ∧ ((∃ r, b.build = .ok r) ↔ ∃ r', b'.build = .ok r')
      ∧ ∀ r r', b.build = .ok r → b'.build = .ok r' →
        r.listing = r'.listing ∧ (∀ item, r.Holds item ↔ r'.Holds item)
          ∧ ∀ q, r.reply q = r'.reply q := by
  have hrepeated : ∀ item ∈ drafts.map Draft.registration, item.repeated = [] := by
    intro item hmem
    obtain ⟨draft, hdraft, rfl⟩ := List.mem_map.1 hmem
    exact Draft.repeated_registration (hnames draft hdraft)
  have hdistinct : ((drafts.map Draft.registration).map Registration.key).Nodup := by
    rw [List.map_map]
    exact hkeys
  obtain ⟨b, hfirst, hsecond⟩ := registerAll_eq_of_perm hrepeated hdistinct
    (fun item _ => has_contents_empty item.key) (h.perm hnames)
  refine ⟨b, b, hfirst, hsecond, fun _ => Iff.rfl, Iff.rfl, ?_⟩
  intro r r' hr hr'
  obtain rfl : r = r' := Except.ok.inj (hr.symm.trans hr')
  exact ⟨rfl, fun _ => Iff.rfl, fun _ => rfl⟩

/-- A namespace that is referred to before it is registered, and two references that dangle. -/
def forwardDrafts : List Draft :=
  [.global "gpu" (.scope ⟨"gpu"⟩),
   .attributes ⟨"gpu"⟩
    [("sync", .type (.intrinsic ⟨"gpu.sync"⟩)), ("lane", .type (.intrinsic ⟨"gpu.lane"⟩))],
   .rule ⟨"gpu.fence"⟩ (.fixedTable [⟨[], .unit⟩])]

/-- The same drafts and members in the opposite order. -/
def backwardDrafts : List Draft :=
  [.rule ⟨"gpu.fence"⟩ (.fixedTable [⟨[], .unit⟩]),
   .attributes ⟨"gpu"⟩
    [("lane", .type (.intrinsic ⟨"gpu.lane"⟩)), ("sync", .type (.intrinsic ⟨"gpu.sync"⟩))],
   .global "gpu" (.scope ⟨"gpu"⟩)]

/-- Either order reports the dangling member whose name comes first. -/
theorem build_eq_of_backward :
    (forwardDrafts.map Draft.key).Nodup
      ∧ (∀ draft ∈ forwardDrafts, draft.names.Nodup)
      ∧ Draft.Reordered forwardDrafts backwardDrafts
      ∧ ∃ b b', empty.registerAll (forwardDrafts.map Draft.registration) = (b, none)
        ∧ empty.registerAll (backwardDrafts.map Draft.registration) = (b', none)
        ∧ b.build = .error (.unknownIntrinsic "gpu.lane" ⟨"gpu.lane"⟩)
        ∧ b'.build = .error (.unknownIntrinsic "gpu.lane" ⟨"gpu.lane"⟩) := by
  have hkeys : (forwardDrafts.map Draft.key).Nodup := by decide
  have hnames : ∀ draft ∈ forwardDrafts, draft.names.Nodup := by decide
  have hreordered : Draft.Reordered forwardDrafts backwardDrafts :=
    ⟨forwardDrafts.reverse, (List.reverse_perm forwardDrafts).symm,
      .cons .rule (.cons (.attributes (.swap _ _ _)) (.cons .global .nil))⟩
  obtain ⟨b, b', hb, hb', herror, -, -⟩ := build_eq_of_reordered hkeys hnames hreordered
  have hbuild : b.build = .error (.unknownIntrinsic "gpu.lane" ⟨"gpu.lane"⟩) := by
    obtain rfl : (empty.registerAll (forwardDrafts.map Draft.registration)).1 = b := by rw [hb]
    rfl
  exact ⟨hkeys, hnames, hreordered, b, b', hb, hb', hbuild, (herror _).1 hbuild⟩

end Builder

end KernelTyping
