import KernelTyping.Attributes

set_option autoImplicit false

/-! # Members declared one after the other

A map made of a list of declarations reads as the list does: the first declaration of a name
counts (`get?_ofList`). It notes that something was declared again just if two declarations have
one name (`repeated_ofList_eq_nil_iff`), and declarations with distinct names make one and the
same map in any order (`ofList_eq_of_perm`).
-/

namespace KernelTyping

namespace AttributeMap

/-! ## Reading a declared map -/

theorem get?_foldl_declare (declarations : List (String × AttributeEntry)) (m : AttributeMap)
    (name : String) :
    (declarations.foldl (fun m d => m.declare d.1 d.2) m).get? name
      = (m.get? name).or (declarations.lookup name) := by
  induction declarations generalizing m with
  | nil => simp
  | cons d rest ih =>
      obtain ⟨declared, entry⟩ := d
      rw [List.foldl_cons, ih, get?_declare, Option.or_assoc, Table.lookup_cons_pair]
      by_cases h : name = declared <;> simp [h]

/-- The first declaration of a member is the one that counts. -/
theorem get?_ofList (declarations : List (String × AttributeEntry)) (name : String) :
    (ofList declarations).get? name = declarations.lookup name := by
  rw [ofList, get?_foldl_declare]
  simp

/-! ## Names declared again -/

theorem repeated_declare_eq_nil_iff (m : AttributeMap) (name : String) (entry : AttributeEntry) :
    (m.declare name entry).repeated = [] ↔ m.repeated = [] ∧ m.get? name = none := by
  rw [repeated_declare]
  cases m.get? name <;> simp

theorem get?_declare_eq_none_iff (m : AttributeMap) (name : String) (entry : AttributeEntry)
    (other : String) :
    (m.declare name entry).get? other = none ↔ m.get? other = none ∧ other ≠ name := by
  rw [get?_declare, Option.or_eq_none_iff]
  simp

/-- Going on with a map, nothing is declared again just if nothing was before, the names of the
declarations are distinct, and none of them is in the map. -/
theorem repeated_foldl_declare_eq_nil_iff (declarations : List (String × AttributeEntry))
    (m : AttributeMap) :
    (declarations.foldl (fun m d => m.declare d.1 d.2) m).repeated = [] ↔
      m.repeated = [] ∧ (declarations.map Prod.fst).Nodup
        ∧ ∀ name ∈ declarations.map Prod.fst, m.get? name = none := by
  induction declarations generalizing m with
  | nil => simp
  | cons d rest ih =>
      obtain ⟨declared, entry⟩ := d
      rw [List.foldl_cons, ih, repeated_declare_eq_nil_iff, List.map_cons, List.nodup_cons,
        List.forall_mem_cons]
      simp only [get?_declare_eq_none_iff]
      constructor
      · rintro ⟨⟨hrepeated, hdeclared⟩, hrest, hfresh⟩
        refine ⟨hrepeated, ⟨?_, hrest⟩, hdeclared, fun name hname => (hfresh name hname).1⟩
        intro hmem
        exact (hfresh declared hmem).2 rfl
      · rintro ⟨hrepeated, ⟨hnew, hrest⟩, hdeclared, hfresh⟩
        refine ⟨⟨hrepeated, hdeclared⟩, hrest, fun name hname => ⟨hfresh name hname, ?_⟩⟩
        rintro rfl
        exact hnew hname

theorem repeated_ofList_eq_nil_iff (declarations : List (String × AttributeEntry)) :
    (ofList declarations).repeated = [] ↔ (declarations.map Prod.fst).Nodup := by
  rw [ofList, repeated_foldl_declare_eq_nil_iff]
  have hempty : empty.repeated = [] := rfl
  simp [hempty]

/-! ## Declarations in any order -/

theorem ext_get? {m m' : AttributeMap} (hrepeated : m.repeated = m'.repeated)
    (hget : ∀ name, m.get? name = m'.get? name) : m = m' := by
  have hmembers : m.members = m'.members := Table.ext_get? hget
  obtain ⟨_, _⟩ := m
  obtain ⟨_, _⟩ := m'
  cases hmembers
  cases hrepeated
  rfl

/-- Declarations with distinct names make the same map in any order. -/
theorem ofList_eq_of_perm {declarations declarations' : List (String × AttributeEntry)}
    (hnames : (declarations.map Prod.fst).Nodup) (h : declarations.Perm declarations') :
    ofList declarations = ofList declarations' := by
  have hnames' : (declarations'.map Prod.fst).Nodup := (h.map Prod.fst).nodup_iff.1 hnames
  refine ext_get? ?_ ?_
  · rw [(repeated_ofList_eq_nil_iff _).2 hnames, (repeated_ofList_eq_nil_iff _).2 hnames']
  · intro name
    rw [get?_ofList, get?_ofList]
    apply Option.ext
    intro entry
    rw [Table.lookup_eq_some_iff_mem hnames, Table.lookup_eq_some_iff_mem hnames', h.mem_iff]

end AttributeMap

end KernelTyping
