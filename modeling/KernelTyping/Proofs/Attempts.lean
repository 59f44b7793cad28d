import KernelTyping.Proofs.Closure

set_option autoImplicit false

/-! # Runs of registrations with failures

A registration that fails does not end a run: the builder stays as it is and the next one is
tried. Which registrations of a run succeed (`Builder.accepted`) can be told from the run
itself: an attempt succeeds if its item declares nothing twice and no item accepted before it
has its key (`attempt_eq_none_iff`), so of all items that claim a key the first one is accepted
(`mem_accepted_iff`). The accepted items are all that the builder holds in the end
(`holds_attemptAll`), and all that a registry made from it lists (`listing_perm_accepted`).
-/

namespace KernelTyping

/-! ## Claims -/

/-- Whether a registration claims a key: it is for this key and declares nothing twice. -/
def Registration.claims (item : Registration) (key : Key) : Bool :=
  item.repeated.isEmpty && item.key = key

theorem Registration.claims_iff (item : Registration) (key : Key) :
    item.claims key = true ↔ item.repeated = [] ∧ item.key = key := by
  simp [claims]

namespace Builder

/-! ## One attempt -/

/-- The error of an attempt is the reason for which its item is refused. -/
theorem attempt_eq_some_iff (b : Builder) (item : Registration) (e : RegistryError) :
    (b.attempt item).2 = some e ↔ Refusal (fun key => b.contents.has key = true) item e := by
  rw [← register_eq_error_iff, attempt]
  cases b.register item <;> simp

theorem attempt_eq_none_iff (b : Builder) (item : Registration) :
    (b.attempt item).2 = none ↔ item.repeated = [] ∧ b.contents.has item.key = false := by
  have hrefused : (∃ e, (b.attempt item).2 = some e) ↔
      item.repeated ≠ [] ∨ b.contents.has item.key = true := by
    simp only [attempt_eq_some_iff]
    exact exists_refusal_iff _ item
  rw [← Option.not_isSome_iff_eq_none, Option.isSome_iff_exists, hrefused]
  simp

/-- An attempt that fails changes nothing. -/
theorem attempt_of_failure {b : Builder} {item : Registration} {e : RegistryError}
    (h : (b.attempt item).2 = some e) : (b.attempt item).1 = b := by
  revert h
  rw [attempt]
  cases b.register item <;> simp

/-- After an attempt the builder holds what it held before, and the item if that was new. -/
theorem holds_attempt (b : Builder) (item other : Registration) :
    (b.attempt item).1.contents.Holds other ↔
      ((b.attempt item).2 = none ∧ other = item) ∨ b.contents.Holds other := by
  rw [attempt]
  cases h : b.register item with
  | ok next => simpa using holds_register h other
  | error e => simp

theorem has_attempt (b : Builder) (item : Registration) (key : Key) :
    (b.attempt item).1.contents.has key = true ↔
      ((b.attempt item).2 = none ∧ key = item.key) ∨ b.contents.has key = true := by
  rw [attempt]
  cases h : b.register item with
  | ok next => simpa using has_register h key
  | error e => simp

/-- Builders that agree on the key of an item attempt it with the same outcome. -/
theorem attempt_congr {b c : Builder} {item : Registration}
    (h : b.contents.has item.key = c.contents.has item.key) :
    (b.attempt item).2 = (c.attempt item).2 := by
  apply Option.ext
  intro e
  rw [attempt_eq_some_iff, attempt_eq_some_iff]
  constructor
  · intro hrefused
    exact hrefused.congr fun htaken => h ▸ htaken
  · intro hrefused
    exact hrefused.congr fun htaken => h ▸ htaken

/-! ## Runs of attempts -/

/-- The builder after a run of attempts, the first one first. -/
def attemptAll (b : Builder) (items : List Registration) : Builder :=
  items.foldl (fun b item => (b.attempt item).1) b

/-- The items of a run whose attempts succeed, in order. -/
def accepted (b : Builder) : List Registration → List Registration
  | [] => []
  | item :: rest =>
    (if (b.attempt item).2.isNone then [item] else []) ++ (b.attempt item).1.accepted rest

theorem attemptAll_cons (b : Builder) (item : Registration) (rest : List Registration) :
    b.attemptAll (item :: rest) = (b.attempt item).1.attemptAll rest := rfl

theorem accepted_cons_of_success {b : Builder} {item : Registration}
    (h : (b.attempt item).2 = none) (rest : List Registration) :
    b.accepted (item :: rest) = item :: (b.attempt item).1.accepted rest := by
  simp [accepted, h]

theorem accepted_cons_of_failure {b : Builder} {item : Registration} {e : RegistryError}
    (h : (b.attempt item).2 = some e) (rest : List Registration) :
    b.accepted (item :: rest) = b.accepted rest := by
  simp [accepted, h, attempt_of_failure h]

theorem mem_accepted_cons (b : Builder) (item other : Registration) (rest : List Registration) :
    other ∈ b.accepted (item :: rest) ↔
      ((b.attempt item).2 = none ∧ other = item) ∨ other ∈ (b.attempt item).1.accepted rest := by
  cases h : (b.attempt item).2 <;> simp [accepted, h]

/-- After a run the builder holds what it held before and what was accepted. -/
theorem holds_attemptAll (b : Builder) (items : List Registration) (other : Registration) :
    (b.attemptAll items).contents.Holds other ↔
      other ∈ b.accepted items ∨ b.contents.Holds other := by
  induction items generalizing b with
  | nil => simp [attemptAll, accepted]
  | cons item rest ih =>
      calc (b.attemptAll (item :: rest)).contents.Holds other
          ↔ other ∈ (b.attempt item).1.accepted rest
              ∨ (b.attempt item).1.contents.Holds other := by
            rw [attemptAll_cons, ih]
        _ ↔ other ∈ (b.attempt item).1.accepted rest
              ∨ ((b.attempt item).2 = none ∧ other = item) ∨ b.contents.Holds other := by
            rw [holds_attempt]
        _ ↔ other ∈ b.accepted (item :: rest) ∨ b.contents.Holds other := by
            rw [mem_accepted_cons, or_left_comm, or_assoc]

/-- Of the items of a run that claim a key which is new the first one is accepted. -/
theorem mem_accepted_iff (b : Builder) (items : List Registration) (other : Registration) :
    other ∈ b.accepted items ↔
      b.contents.has other.key = false
        ∧ items.find? (fun item => item.claims other.key) = some other := by
  induction items generalizing b with
  | nil => simp [accepted]
  | cons item rest ih =>
      rw [List.find?_cons]
      cases houtcome : (b.attempt item).2 with
      | none =>
          obtain ⟨hrepeated, hfresh⟩ := (b.attempt_eq_none_iff item).1 houtcome
          rw [accepted_cons_of_success houtcome, List.mem_cons, ih]
          by_cases hkey : item.key = other.key
          · -- The item takes the key, so nothing after it is accepted under this key.
            have hclaims : item.claims other.key = true :=
              (item.claims_iff other.key).2 ⟨hrepeated, hkey⟩
            have htaken : (b.attempt item).1.contents.has other.key = true :=
              (b.has_attempt item other.key).2 (.inl ⟨houtcome, hkey.symm⟩)
            rw [hclaims, htaken, ← hkey]
            simp [hfresh, eq_comm]
          · have hclaims : item.claims other.key = false := by simp [Registration.claims, hkey]
            have hne : other ≠ item := fun heq => hkey (heq ▸ rfl)
            have hsame : (b.attempt item).1.contents.has other.key = b.contents.has other.key := by
              rw [Bool.eq_iff_iff, has_attempt]
              exact or_iff_right fun h => hkey h.2.symm
            rw [hclaims, hsame]
            simp [hne]
      | some e =>
          rw [accepted_cons_of_failure houtcome, ih]
          by_cases hclaims : item.claims other.key = true
          · -- An item that claims its key and is refused finds the key in use.
            obtain ⟨hrepeated, hkey⟩ := (item.claims_iff other.key).1 hclaims
            have htaken : b.contents.has other.key = true := by
              rw [← hkey, ← Bool.not_eq_false]
              intro hfresh
              have hnone := (b.attempt_eq_none_iff item).2 ⟨hrepeated, hfresh⟩
              rw [houtcome] at hnone
              cases hnone
            simp [htaken]
          · simp [hclaims]

/-- No two accepted items have one key. -/
theorem nodup_keys_accepted (b : Builder) (items : List Registration) :
    ((b.accepted items).map Registration.key).Nodup := by
  induction items generalizing b with
  | nil => exact List.nodup_nil
  | cons item rest ih =>
      cases houtcome : (b.attempt item).2 with
      | none =>
          rw [accepted_cons_of_success houtcome, List.map_cons, List.nodup_cons]
          refine ⟨?_, ih _⟩
          intro hmem
          obtain ⟨other, hother, hkey⟩ := List.mem_map.1 hmem
          have hfresh : (b.attempt item).1.contents.has other.key = false :=
            ((mem_accepted_iff _ rest other).1 hother).1
          have htaken : (b.attempt item).1.contents.has other.key = true :=
            (b.has_attempt item other.key).2 (.inl ⟨houtcome, hkey⟩)
          rw [hfresh] at htaken
          cases htaken
      | some e =>
          rw [accepted_cons_of_failure houtcome]
          exact ih b

/-- Items under other keys have no part in what is accepted under some keys. Of the two builders
`c` goes through the whole run, and they need to agree only on these keys. -/
theorem accepted_filter {b c : Builder} (keys : Key → Bool)
    (h : ∀ key, keys key = true → b.contents.has key = c.contents.has key)
    (items : List Registration) :
    b.accepted (items.filter fun item => keys item.key)
      = (c.accepted items).filter fun item => keys item.key := by
  induction items generalizing b c with
  | nil => rfl
  | cons item rest ih =>
      cases hkeys : keys item.key with
      | false =>
          have hagree : ∀ key, keys key = true →
              b.contents.has key = (c.attempt item).1.contents.has key := by
            intro key hkey
            have hne : key ≠ item.key := by
              rintro rfl
              rw [hkeys] at hkey
              cases hkey
            rw [h key hkey, Bool.eq_iff_iff, has_attempt]
            exact (or_iff_right fun hitem => hne hitem.2).symm
          have hrest := ih hagree
          cases houtcome : (c.attempt item).2 <;> simp [accepted, hkeys, houtcome, hrest]
      | true =>
          have houtcome : (b.attempt item).2 = (c.attempt item).2 :=
            attempt_congr (h item.key hkeys)
          have hagree : ∀ key, keys key = true →
              (b.attempt item).1.contents.has key = (c.attempt item).1.contents.has key := by
            intro key hkey
            rw [Bool.eq_iff_iff, has_attempt, has_attempt, houtcome, h key hkey]
          have hrest := ih hagree
          cases hc : (c.attempt item).2 <;> simp [accepted, hkeys, houtcome, hc, hrest]

/-- The keys that a run takes in a new builder. -/
theorem has_attemptAll_iff (items : List Registration) (key : Key) :
    (empty.attemptAll items).contents.has key = true ↔
      ∃ other ∈ empty.accepted items, other.key = key := by
  rw [Registry.has_iff]
  constructor
  · rintro ⟨other, hkey, hholds⟩
    have hmem := (holds_attemptAll empty items other).1 hholds
    exact ⟨other, hmem.resolve_right (not_holds_contents_empty other), hkey⟩
  · rintro ⟨other, hmem, hkey⟩
    exact ⟨other, hkey, (holds_attemptAll empty items other).2 (.inl hmem)⟩

end Builder

/-! ## What a registry lists -/

namespace Registry

/-- All that a registry lists: its typing rules, its namespaces and its global names. -/
def listing (r : Registry) : List Registration :=
  r.rules.map (fun entry => .rule entry.1 entry.2) ++
    r.namespaces.map (fun entry => .attributes entry.1 entry.2) ++
    r.globals.map (fun entry => .global entry.1 entry.2)

/-- What is listed is what can be looked up. -/
theorem mem_listing_iff (r : Registry) (item : Registration) : item ∈ r.listing ↔ r.Holds item := by
  cases item with
  | rule id rule =>
      obtain ⟨text⟩ := id
      show _ ↔ r.ruleTable.get? text = some rule
      rw [← r.ruleTable.mem_entries_iff]
      simp [listing, rules]
  | attributes ns members =>
      obtain ⟨text⟩ := ns
      show _ ↔ r.namespaceTable.get? text = some members
      rw [← r.namespaceTable.mem_entries_iff]
      simp [listing, namespaces]
  | global name ty =>
      show _ ↔ r.globalTable.get? name = some ty
      rw [← r.globalTable.mem_entries_iff]
      simp [listing, globals]

theorem ascending_rules (r : Registry) : r.rules.Pairwise fun a b => a.1.text < b.1.text :=
  List.pairwise_map.2 r.ruleTable.ascending

theorem ascending_namespaces (r : Registry) :
    r.namespaces.Pairwise fun a b => a.1.text < b.1.text :=
  List.pairwise_map.2 r.namespaceTable.ascending

theorem ascending_globals (r : Registry) : r.globals.Pairwise fun a b => a.1 < b.1 :=
  r.globalTable.ascending

/-- Nothing is listed twice. -/
theorem nodup_listing (r : Registry) : r.listing.Nodup := by
  have hrules : (r.rules.map fun entry => Registration.rule entry.1 entry.2).Nodup := by
    refine List.pairwise_map.2 (r.ascending_rules.imp ?_)
    intro a b hlt heq
    obtain ⟨hid, -⟩ := Registration.rule.inj heq
    exact String.lt_irrefl _ (hid ▸ hlt)
  have hnamespaces :
      (r.namespaces.map fun entry => Registration.attributes entry.1 entry.2).Nodup := by
    refine List.pairwise_map.2 (r.ascending_namespaces.imp ?_)
    intro a b hlt heq
    obtain ⟨hns, -⟩ := Registration.attributes.inj heq
    exact String.lt_irrefl _ (hns ▸ hlt)
  have hglobals : (r.globals.map fun entry => Registration.global entry.1 entry.2).Nodup := by
    refine List.pairwise_map.2 (r.ascending_globals.imp ?_)
    intro a b hlt heq
    obtain ⟨hname, -⟩ := Registration.global.inj heq
    exact String.lt_irrefl _ (hname ▸ hlt)
  -- Registrations of two kinds are never the same.
  refine List.nodup_append.2 ⟨List.nodup_append.2 ⟨hrules, hnamespaces, ?_⟩, hglobals, ?_⟩
  · intro item hitem other hother
    obtain ⟨_, -, rfl⟩ := List.mem_map.1 hitem
    obtain ⟨_, -, rfl⟩ := List.mem_map.1 hother
    simp
  · intro item hitem other hother
    obtain ⟨_, -, rfl⟩ := List.mem_map.1 hother
    rcases List.mem_append.1 hitem with hitem | hitem <;>
      obtain ⟨_, -, rfl⟩ := List.mem_map.1 hitem <;> simp

end Registry

namespace Builder

/-- A registry lists what was accepted, and each item once. -/
theorem listing_perm_accepted (items : List Registration) :
    (empty.attemptAll items).contents.listing.Perm (empty.accepted items) := by
  have hnodup : (empty.accepted items).Nodup := by
    refine (List.pairwise_map.1 (nodup_keys_accepted empty items)).imp ?_
    intro a b hne heq
    exact hne (heq ▸ rfl)
  rw [List.perm_ext_iff_of_nodup (Registry.nodup_listing _) hnodup]
  intro item
  rw [Registry.mem_listing_iff, holds_attemptAll]
  exact or_iff_left (not_holds_contents_empty item)

/-- **The first registration wins, and a failure changes nothing.** After any run of attempts
in a new builder, the next attempt succeeds just if its item declares nothing twice and has the
key of no item accepted so far; otherwise the error is the reason for which it is refused, and
the builder stays as it is. What is accepted under some keys depends on no item under other
keys. A registry made after the run lists just what was accepted, each item once and each kind
in ascending order, and under a key it holds the first item of the run that claims the key. -/
theorem firstWins_attemptAll (items : List Registration) :
    (∀ item, ((empty.attemptAll items).attempt item).2 = none ↔
        item.repeated = [] ∧ ∀ other ∈ empty.accepted items, other.key ≠ item.key)
      ∧ (∀ item e, ((empty.attemptAll items).attempt item).2 = some e ↔
        Refusal (fun key => ∃ other ∈ empty.accepted items, other.key = key) item e)
      ∧ (∀ item e, ((empty.attemptAll items).attempt item).2 = some e →
        ((empty.attemptAll items).attempt item).1 = empty.attemptAll items)
      ∧ (∀ keys : Key → Bool, empty.accepted (items.filter fun item => keys item.key)
        = (empty.accepted items).filter fun item => keys item.key)
      ∧ ∀ r, (empty.attemptAll items).build = .ok r →
        r.listing.Perm (empty.accepted items)
          ∧ (r.rules.Pairwise fun a b => a.1.text < b.1.text)
          ∧ (r.namespaces.Pairwise fun a b => a.1.text < b.1.text)
          ∧ (r.globals.Pairwise fun a b => a.1 < b.1)
          ∧ (∀ key, r.has key = true ↔ ∃ other ∈ empty.accepted items, other.key = key)
          ∧ ∀ item, r.Holds item ↔
            items.find? (fun other => other.claims item.key) = some item := by
  have htaken : ∀ key, (empty.attemptAll items).contents.has key = true ↔
      ∃ other ∈ empty.accepted items, other.key = key := has_attemptAll_iff items
  refine ⟨?_, ?_, ?_, ?_, ?_⟩
  · intro item
    rw [attempt_eq_none_iff, ← Bool.not_eq_true, htaken]
    simp
  · intro item e
    simp only [attempt_eq_some_iff, htaken]
  · intro item e h
    exact attempt_of_failure h
  · intro keys
    exact accepted_filter keys (fun _ _ => rfl) items
  · intro r hbuild
    obtain ⟨-, rfl⟩ := (build_eq_ok_iff _ r).1 hbuild
    refine ⟨listing_perm_accepted items, Registry.ascending_rules _,
      Registry.ascending_namespaces _, Registry.ascending_globals _, htaken, ?_⟩
    intro item
    have hnew : empty.contents.has item.key = false := has_contents_empty item.key
    rw [holds_attemptAll, or_iff_left (not_holds_contents_empty item), mem_accepted_iff]
    exact and_iff_right hnew

-- A map that is refused for a repeated member leaves its namespace to the next one.
example :
    let twice : Registration := .attributes ⟨"m"⟩ (.ofList [("x", .type .unit), ("x", .type .str)])
    let once : Registration := .attributes ⟨"m"⟩ (.ofList [("x", .type .str)])
    (empty.attempt twice).2 = some (.duplicateMember ⟨"m"⟩ "x")
      ∧ (empty.accepted [twice, once, once, twice]).map (fun item => (item.key, item.repeated))
        = [(.scope ⟨"m"⟩, [])] := by
  decide +kernel

end Builder

end KernelTyping
