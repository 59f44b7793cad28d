import KernelTyping.Proofs.Closure

set_option autoImplicit false

/-! # Registrations in order

Registrations are grounded if each refers only to itself and to what comes before it
(`Grounded`). Such registrations keep the contents of a builder closed wherever they stop
(`Registry.Closed.registerAll`).
-/

namespace KernelTyping

/-! ## References to what comes before -/

/-- The keys that a registration refers to. -/
def Registration.targets (item : Registration) : List Key := item.heldTypes.filterMap Ty.target?

/-- The key of a registration and the keys that it refers to. -/
def Registration.links (item : Registration) : Key × List Key := (item.key, item.targets)

/-- Each entry refers only to its own key, to keys of entries before it and to given keys. -/
def Grounded (known : List Key) : List (Key × List Key) → Prop
  | [] => True
  | (key, targets) :: rest =>
    (∀ target ∈ targets, target ∈ key :: known) ∧ Grounded (key :: known) rest

instance Grounded.decidable (known : List Key) :
    (entries : List (Key × List Key)) → Decidable (Grounded known entries)
  | [] => inferInstanceAs (Decidable True)
  | (key, targets) :: rest =>
    have : Decidable (Grounded (key :: known) rest) := Grounded.decidable (key :: known) rest
    inferInstanceAs
      (Decidable ((∀ target ∈ targets, target ∈ key :: known) ∧ Grounded (key :: known) rest))

/-! ## Closed contents stay closed -/

theorem Builder.closed_empty : Builder.empty.contents.Closed := by
  intro item hholds
  exact absurd hholds (Builder.not_holds_contents_empty item)

namespace Registry

theorem closed_iff (r : Registry) :
    r.Closed ↔ ∀ item : Registration, r.Holds item → ∀ key ∈ item.targets, r.has key = true := by
  constructor
  · intro h item hholds key hkey
    obtain ⟨ty, hty, htarget⟩ := List.mem_filterMap.1 hkey
    exact h item hholds ty hty key htarget
  · intro h item hholds ty hty key htarget
    exact h item hholds key (List.mem_filterMap.2 ⟨ty, hty, htarget⟩)

/-- One registration keeps the contents closed if it refers only to itself and to what is
held. -/
theorem Closed.register {b b' : Builder} {item : Registration} (h : b.contents.Closed)
    (hitem : b.register item = .ok b')
    (htargets : ∀ key ∈ item.targets, key = item.key ∨ b.contents.has key = true) :
    b'.contents.Closed := by
  rw [closed_iff]
  intro other hother key hkey
  rw [Builder.has_register hitem]
  rcases (Builder.holds_register hitem other).1 hother with rfl | hheld
  · exact htargets key hkey
  · exact .inr ((closed_iff _).1 h other hheld key hkey)

/-- Grounded registrations keep the contents closed, wherever they stop. -/
theorem Closed.registerAll {items : List Registration} {b : Builder} {known : List Key}
    (h : b.contents.Closed) (hknown : ∀ key ∈ known, b.contents.has key = true)
    (hgrounded : Grounded known (items.map Registration.links)) :
    (b.registerAll items).1.contents.Closed := by
  induction items generalizing b known with
  | nil => exact h
  | cons item rest ih =>
      cases hitem : b.register item with
      | error e =>
          rw [Builder.registerAll_cons_of_error hitem]
          exact h
      | ok next =>
          obtain ⟨htargets, hrest⟩ := hgrounded
          rw [Builder.registerAll_cons_of_ok hitem]
          have hnext : next.contents.Closed := by
            refine h.register hitem ?_
            intro key hkey
            rcases List.mem_cons.1 (htargets key hkey) with rfl | hmem
            · exact .inl rfl
            · exact .inr (hknown key hmem)
          -- From here on the key of this registration can be referred to as well.
          have hknown' : ∀ key ∈ item.key :: known, next.contents.has key = true := by
            intro key hkey
            rw [Builder.has_register hitem]
            rcases List.mem_cons.1 hkey with rfl | hmem
            · exact .inl rfl
            · exact .inr (hknown key hmem)
          exact ih hnext hknown' hrest

end Registry

end KernelTyping
