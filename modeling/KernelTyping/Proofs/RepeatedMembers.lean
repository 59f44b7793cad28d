import KernelTyping.Proofs.Contents
import KernelTyping.Proofs.Members
import Mathlib.Data.Finset.Card
import Mathlib.Data.List.Induction

set_option autoImplicit false

/-! # Members declared more than once

A member can be declared in four ways (`Declaration`), and all of them keep the first declaration
of a name and note the later ones. The names are noted in the order in which they come up again,
so the first one noted ends the shortest beginning of the declarations in which a name stands
twice (`head?_repeated_ofList_eq_some_iff`). This is the name for which a map is refused when its
namespace is registered (`declareAll_firstWins`).
-/

namespace KernelTyping

/-! ## Ways to declare a member -/

/-- One declaration of a member, in any of the ways that a map has for it. -/
inductive Declaration where
  | entry (name : String) (entry : AttributeEntry)
  | type (name : String) (ty : Ty)
  | intrinsic (name : String) (id : IntrinsicId)
  | nested (name : String) (ns : NamespaceId)

namespace Declaration

/-- The name that is declared. -/
def name : Declaration → String
  | .entry name _ | .type name _ | .intrinsic name _ | .nested name _ => name

/-- What the name is declared as. -/
def member : Declaration → AttributeEntry
  | .entry _ given => given
  | .type _ ty => .type ty
  | .intrinsic _ id => .type (.intrinsic id)
  | .nested _ ns => .nested ns

end Declaration

namespace AttributeMap

/-- The map after one more declaration. -/
def apply (m : AttributeMap) : Declaration → AttributeMap
  | .entry name entry => m.declare name entry
  | .type name ty => m.withType name ty
  | .intrinsic name id => m.withIntrinsic name id
  | .nested name ns => m.withNested name ns

/-- The map of a sequence of declarations, the first one first. -/
def declareAll (steps : List Declaration) : AttributeMap := steps.foldl apply empty

theorem apply_eq_declare (m : AttributeMap) (step : Declaration) :
    m.apply step = m.declare step.name step.member := by
  cases step <;> rfl

theorem declareAll_eq_ofList (steps : List Declaration) :
    declareAll steps = ofList (steps.map fun step => (step.name, step.member)) := by
  have hstep : apply = fun m step => m.declare step.name step.member := by
    funext m step
    exact apply_eq_declare m step
  rw [declareAll, ofList, List.foldl_map, hstep]

theorem lookup_map_member (steps : List Declaration) (name : String) :
    (steps.map fun step => (step.name, step.member)).lookup name
      = (steps.find? fun step => step.name = name).map Declaration.member := by
  induction steps with
  | nil => rfl
  | cons step rest ih =>
      rw [List.map_cons, Table.lookup_cons_pair, ih, List.find?_cons]
      by_cases h : name = step.name
      · simp [h]
      · simp [h, Ne.symm h]

/-- The first declaration of a name is the one that is read. -/
theorem get?_declareAll (steps : List Declaration) (name : String) :
    (declareAll steps).get? name
      = (steps.find? fun step => step.name = name).map Declaration.member := by
  rw [declareAll_eq_ofList, get?_ofList, lookup_map_member]

theorem mem_names_declareAll (steps : List Declaration) (name : String) :
    name ∈ (declareAll steps).names ↔ name ∈ steps.map Declaration.name := by
  rw [mem_names_iff, ← Option.isSome_iff_exists, get?_declareAll, Option.isSome_map,
    List.find?_isSome, List.mem_map]
  simp

/-- There are as many members as there are names. -/
theorem size_declareAll (steps : List Declaration) :
    (declareAll steps).size = (steps.map Declaration.name).toFinset.card := by
  have hnames : (steps.map Declaration.name).toFinset = (declareAll steps).names.toFinset := by
    ext name
    rw [List.mem_toFinset, List.mem_toFinset, mem_names_declareAll]
  calc (declareAll steps).size
      = (declareAll steps).names.length := (List.length_map _).symm
    _ = (declareAll steps).names.toFinset.card :=
        (List.toFinset_card_of_nodup (declareAll steps).members.nodup_keys).symm
    _ = (steps.map Declaration.name).toFinset.card := by rw [hnames]

end AttributeMap

/-! ## The name that comes up again first -/

/-- Whether a list has distinct names up to a place where this name comes up again. -/
def FirstRepeat (names : List String) (name : String) : Prop :=
  ∃ before after, names = before ++ name :: after ∧ before.Nodup ∧ name ∈ before

/-- Whether a name stands for the second time at a position. -/
def SecondUse (names : List String) (name : String) (i : Nat) : Prop :=
  names[i]? = some name ∧ (names.take i).count name = 1

theorem firstRepeat_append_singleton_iff (names : List String) (last name : String) :
    FirstRepeat (names ++ [last]) name ↔
      FirstRepeat names name ∨ (names.Nodup ∧ last ∈ names ∧ name = last) := by
  constructor
  · rintro ⟨before, after, heq, hbefore, hmem⟩
    rcases List.eq_nil_or_concat after with rfl | ⟨after, last', rfl⟩
    · obtain ⟨rfl, hlast⟩ := List.append_inj' heq rfl
      obtain rfl := List.singleton_inj.1 hlast
      exact .inr ⟨hbefore, hmem, rfl⟩
    · have hsplit : names ++ [last] = (before ++ name :: after) ++ [last'] := by simpa using heq
      obtain ⟨rfl, -⟩ := List.append_inj' hsplit rfl
      exact .inl ⟨before, after, rfl, hbefore, hmem⟩
  · rintro (⟨before, after, rfl, hbefore, hmem⟩ | ⟨hnames, hlast, rfl⟩)
    · exact ⟨before, after ++ [last], by simp, hbefore, hmem⟩
    · exact ⟨names, [], rfl, hnames, hlast⟩

/-- A name comes up again just if the names are not distinct. -/
theorem exists_firstRepeat_iff (names : List String) :
    (∃ name, FirstRepeat names name) ↔ ¬ names.Nodup := by
  induction names using List.reverseRecOn with
  | nil => simp [FirstRepeat]
  | append_singleton names last ih =>
      have hdistinct : (names ++ [last]).Nodup ↔ names.Nodup ∧ last ∉ names := by
        rw [List.nodup_append_comm]
        simp [and_comm]
      simp only [firstRepeat_append_singleton_iff, exists_or, ih, hdistinct]
      by_cases hnames : names.Nodup <;> simp [hnames]

theorem secondUse_of_nodup {before : List String} {name : String} (hbefore : before.Nodup)
    (hmem : name ∈ before) (after : List String) :
    SecondUse (before ++ name :: after) name before.length := by
  refine ⟨by simp, ?_⟩
  rw [List.take_left]
  exact List.count_eq_one_of_mem hbefore hmem

/-- Among distinct names at the beginning none is used for the second time. -/
theorem length_le_of_secondUse {before after : List String} {name : String} {i : Nat}
    (hbefore : before.Nodup) (h : SecondUse (before ++ after) name i) : before.length ≤ i := by
  by_contra hlt
  have hi : i < before.length := Nat.lt_of_not_le hlt
  have hat : before[i]? = some name := by
    rw [← List.getElem?_append_left hi]
    exact h.1
  have htake : (before ++ after).take i = before.take i :=
    List.take_append_of_le_length (Nat.le_of_lt hi)
  have hcount : (before.take (i + 1)).count name = 2 := by
    rw [List.take_add_one, hat, List.count_append]
    simp [← htake, h.2]
  have hle : (before.take (i + 1)).count name ≤ 1 :=
    List.nodup_iff_count_le_one.1 (hbefore.sublist (List.take_sublist _ _)) name
  omega

/-- The name that comes up again first is the one with the earliest second use. -/
theorem firstRepeat_iff_secondUse (names : List String) (name : String) :
    FirstRepeat names name ↔
      ∃ i, SecondUse names name i ∧ ∀ other j, SecondUse names other j → i ≤ j := by
  constructor
  · rintro ⟨before, after, rfl, hbefore, hmem⟩
    refine ⟨before.length, secondUse_of_nodup hbefore hmem after, ?_⟩
    intro other j hother
    exact length_le_of_secondUse hbefore hother
  · rintro ⟨i, ⟨hat, hcount⟩, hleast⟩
    obtain ⟨hi, hname⟩ := List.getElem?_eq_some_iff.1 hat
    have hsplit : names = names.take i ++ name :: names.drop (i + 1) := by
      rw [← hname, List.getElem_cons_drop, List.take_append_drop]
    have hmem : name ∈ names.take i := List.count_pos_iff.1 (by omega)
    refine ⟨names.take i, names.drop (i + 1), hsplit, ?_, hmem⟩
    by_contra hnames
    obtain ⟨other, before, after, hother, hbefore, hagain⟩ := (exists_firstRepeat_iff _).2 hnames
    have hlength : before.length < i := by
      have hsum := congrArg List.length hother
      simp only [List.length_take, List.length_append, List.length_cons] at hsum
      omega
    have hsecond : SecondUse names other before.length := by
      rw [hsplit, hother, List.append_assoc]
      exact secondUse_of_nodup hbefore hagain _
    have := hleast other before.length hsecond
    omega

namespace AttributeMap

theorem repeated_ofList_append_singleton (declarations : List (String × AttributeEntry))
    (last : String × AttributeEntry) :
    (ofList (declarations ++ [last])).repeated = (ofList declarations).repeated
      ++ if last.1 ∈ declarations.map Prod.fst then [last.1] else [] := by
  have hknown : ((ofList declarations).get? last.1).isSome = true ↔
      last.1 ∈ declarations.map Prod.fst := by
    rw [get?_ofList, List.lookup_isSome_iff, List.mem_map]
    refine exists_congr fun entry => and_congr_right fun _ => ?_
    rw [beq_iff_eq, eq_comm]
  rw [ofList, List.foldl_append]
  show ((ofList declarations).declare last.1 last.2).repeated = _
  rw [repeated_declare]
  simp only [hknown]

/-- The first name that a map notes is the one that comes up again first. -/
theorem head?_repeated_ofList_eq_some_iff (declarations : List (String × AttributeEntry))
    (name : String) :
    (ofList declarations).repeated.head? = some name ↔
      FirstRepeat (declarations.map Prod.fst) name := by
  induction declarations using List.reverseRecOn with
  | nil => simp [ofList, empty, FirstRepeat]
  | append_singleton declarations last ih =>
      have hnil := repeated_ofList_eq_nil_iff declarations
      rw [repeated_ofList_append_singleton, List.map_append, List.map_singleton,
        firstRepeat_append_singleton_iff, ← ih, ← hnil]
      cases hrepeated : (ofList declarations).repeated with
      | nil => by_cases hlast : last.1 ∈ declarations.map Prod.fst <;> simp [hlast, eq_comm]
      | cons first later => simp

/-- A map is refused for the name that comes up again first in its declarations. -/
theorem register_declareAll_iff (steps : List Declaration) (b : Builder) (ns ns' : NamespaceId)
    (member : String) :
    b.register (.attributes ns (declareAll steps)) = .error (.duplicateMember ns' member) ↔
      ns' = ns ∧ FirstRepeat (steps.map Declaration.name) member := by
  have hnames : (steps.map fun step => (step.name, step.member)).map Prod.fst
      = steps.map Declaration.name := by
    simp
  rw [Builder.register_eq_error_iff, ← hnames, ← head?_repeated_ofList_eq_some_iff,
    ← declareAll_eq_ofList]
  constructor
  · intro h
    cases h with
    | repeated hrepeated => simp [hrepeated]
  · rintro ⟨rfl, hhead⟩
    obtain ⟨later, hrepeated⟩ := List.head?_eq_some_iff.1 hhead
    exact .repeated hrepeated

/-- **The first declaration counts, and the first collision is remembered.** After any sequence of
declarations a map reads under each name what was declared first under it. Its names are those
that were declared, once each and in ascending order, and its entries go along with them; its size
is their number. It is refused as the members of a namespace for a repeated member just if some
name was declared twice, and the member that is reported is the one whose second declaration came
earliest. -/
theorem declareAll_firstWins (steps : List Declaration) :
    (∀ name, (declareAll steps).get? name
        = (steps.find? fun step => step.name = name).map Declaration.member)
      ∧ (declareAll steps).names.Pairwise (fun a b => a < b)
      ∧ (∀ name, name ∈ (declareAll steps).names ↔ name ∈ steps.map Declaration.name)
      ∧ (declareAll steps).members.entries.map Prod.fst = (declareAll steps).names
      ∧ (∀ name entry, (name, entry) ∈ (declareAll steps).members.entries ↔
        (declareAll steps).get? name = some entry)
      ∧ (declareAll steps).size = (steps.map Declaration.name).toFinset.card
      ∧ ((declareAll steps).isEmpty = true ↔ (declareAll steps).size = 0)
      ∧ ∀ (b : Builder) (ns : NamespaceId),
        ((∃ ns' member,
            b.register (.attributes ns (declareAll steps)) = .error (.duplicateMember ns' member)) ↔
          ∃ name, 2 ≤ (steps.map Declaration.name).count name)
        ∧ ∀ ns' member,
          b.register (.attributes ns (declareAll steps)) = .error (.duplicateMember ns' member) ↔
            ns' = ns ∧ ∃ i, SecondUse (steps.map Declaration.name) member i
              ∧ ∀ other j, SecondUse (steps.map Declaration.name) other j → i ≤ j := by
  refine ⟨get?_declareAll steps, pairwise_names _, mem_names_declareAll steps, rfl,
    Table.mem_entries_iff _, size_declareAll steps, ?_, ?_⟩
  · rw [isEmpty, size, Table.isEmpty, Table.size, List.isEmpty_iff, List.length_eq_zero_iff]
  · intro b ns
    simp only [register_declareAll_iff]
    refine ⟨?_, fun ns' member => and_congr_right fun _ => firstRepeat_iff_secondUse _ member⟩
    calc (∃ ns' member, ns' = ns ∧ FirstRepeat (steps.map Declaration.name) member)
        ↔ ∃ member, FirstRepeat (steps.map Declaration.name) member := by simp
      _ ↔ ¬ (steps.map Declaration.name).Nodup := exists_firstRepeat_iff _
      _ ↔ ∃ name, 2 ≤ (steps.map Declaration.name).count name := by
          simp only [List.nodup_iff_count_le_one, not_forall, Nat.not_le]
          rfl

-- The second `b` comes before the second `a`, although `a` was declared first.
example :
    (declareAll [.type "a" .unit, .intrinsic "b" ⟨"f"⟩, .nested "b" ⟨"n"⟩, .type "a" .str]).repeated
      = ["b", "a"] := by
  decide +kernel

end AttributeMap

end KernelTyping
