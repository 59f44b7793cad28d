import KernelTyping.Proofs.Stripping

set_option autoImplicit false

/-! # Overloads of a table

A table takes the first signature whose parameters are the stripped arguments
(`firstMatchIndex_eq_some_iff`), so a signature can stand in a table and never be taken. One with
a literal among its parameters is dead, since no stripped argument is a literal, and so is one
behind another with the same parameters. All others are taken, each for its own parameters
(`firstMatch_reaches`).
-/

namespace KernelTyping

/-! ## Parameters without literals -/

theorem stripLiterals_eq_self_iff_not_mem (params : List Ty) :
    stripLiterals params = params ↔ ∀ base value, Ty.literal base value ∉ params := by
  rw [stripLiterals_eq_self_iff, ← Bool.not_eq_true, any_isLiteral_iff]
  simp

/-! ## The first signature that fits -/

/-- Whether a position is the first in a table at which a signature has these parameters. -/
structure FirstAt (cases : List Signature) (params : List Ty) (i : Nat) : Prop where
  found : ∃ sig, cases[i]? = some sig ∧ sig.params = params
  earlier : ∀ j < i, ∀ other, cases[j]? = some other → other.params ≠ params

/-- A table takes the first signature whose parameters are the stripped arguments. -/
theorem firstMatchIndex_eq_some_iff (cases : List Signature) (args : List Ty) (i : Nat) :
    firstMatchIndex cases args = some i ↔ FirstAt cases (stripLiterals args) i := by
  rw [firstMatchIndex, List.findIdx?_eq_some_iff_getElem]
  simp only [Signature.accepts_iff]
  constructor
  · rintro ⟨hi, hparams, hearlier⟩
    refine ⟨⟨cases[i], List.getElem?_eq_getElem hi, hparams⟩, ?_⟩
    intro j hj other hother
    obtain ⟨_, rfl⟩ := List.getElem?_eq_some_iff.1 hother
    exact hearlier j hj
  · rintro ⟨⟨sig, hsig, hparams⟩, hearlier⟩
    obtain ⟨hi, rfl⟩ := List.getElem?_eq_some_iff.1 hsig
    refine ⟨hi, hparams, ?_⟩
    intro j hj
    have hbound : j < cases.length := Nat.lt_trans hj hi
    exact hearlier j hj cases[j] (List.getElem?_eq_getElem hbound)

theorem firstMatch_eq_none_iff (cases : List Signature) (args : List Ty) :
    firstMatch cases args = none ↔ ∀ sig ∈ cases, sig.params ≠ stripLiterals args := by
  simp only [firstMatch, List.find?_eq_none, Signature.accepts_iff, ne_eq]

/-- The signature that is taken stands at the position that is found. -/
theorem firstMatch_eq_bind (cases : List Signature) (args : List Ty) :
    firstMatch cases args = (firstMatchIndex cases args).bind fun i => cases[i]? := by
  induction cases with
  | nil => rfl
  | cons sig rest ih =>
      rw [firstMatch, firstMatchIndex, List.find?_cons, List.findIdx?_cons]
      cases sig.accepts args with
      | true => rfl
      | false =>
          show firstMatch rest args = ((firstMatchIndex rest args).map (· + 1)).bind _
          rw [ih, Option.bind_map]
          rfl

/-- A signature without literals is not missed by a call on its own parameters: it is taken, or
an earlier one with the same parameters. -/
theorem exists_firstMatch_of_mem {cases : List Signature} {sig : Signature} (hsig : sig ∈ cases)
    (hliteral : ∀ base value, Ty.literal base value ∉ sig.params) :
    ∃ taken ∈ cases, firstMatch cases sig.params = some taken ∧ taken.params = sig.params := by
  have hstripped : stripLiterals sig.params = sig.params :=
    (stripLiterals_eq_self_iff_not_mem sig.params).2 hliteral
  cases htaken : firstMatch cases sig.params with
  | none =>
      have hnone := (firstMatch_eq_none_iff cases sig.params).1 htaken
      exact absurd hstripped.symm (hnone sig hsig)
  | some taken =>
      have hparams : taken.params = stripLiterals sig.params := params_of_firstMatch htaken
      exact ⟨taken, List.mem_of_find?_eq_some htaken, rfl, hparams.trans hstripped⟩

/-! ## Signatures that are reached -/

/-- A position is reached just if it is the first with its parameters and no literal is among
these. -/
theorem exists_firstMatchIndex_iff {cases : List Signature} {i : Nat} {sig : Signature}
    (hsig : cases[i]? = some sig) :
    (∃ args, firstMatchIndex cases args = some i) ↔
      stripLiterals sig.params = sig.params ∧ FirstAt cases sig.params i := by
  simp only [firstMatchIndex_eq_some_iff]
  constructor
  · rintro ⟨args, hfirst⟩
    -- The stripped arguments can only be the parameters of the signature at the position.
    obtain ⟨found, hfound, hparams⟩ := hfirst.found
    obtain rfl : sig = found := Option.some.inj (hsig.symm.trans hfound)
    rw [hparams]
    exact ⟨stripLiterals_stripLiterals args, hfirst⟩
  · rintro ⟨hstripped, hfirst⟩
    exact ⟨sig.params, by rwa [hstripped]⟩

/-- **Which signatures of a table are ever taken.** Arguments are answered by the signature at the
least position at which the parameters are the stripped arguments, and by none just if there is
no such position; so arguments that become the same once they are stripped are answered alike. A
signature of the table is taken for some arguments just if none of its parameters is a literal
and none before it has the same parameters, and it is then taken for its own parameters. -/
theorem firstMatch_reaches (cases : List Signature) :
    (∀ args i, firstMatchIndex cases args = some i ↔
        (∃ sig, cases[i]? = some sig ∧ sig.params = stripLiterals args)
          ∧ ∀ j < i, ∀ other, cases[j]? = some other → other.params ≠ stripLiterals args)
      ∧ (∀ args, firstMatch cases args = (firstMatchIndex cases args).bind fun i => cases[i]?)
      ∧ (∀ args, firstMatch cases args = none ↔
        ∀ sig ∈ cases, sig.params ≠ stripLiterals args)
      ∧ (∀ args args', stripLiterals args = stripLiterals args' →
        firstMatchIndex cases args = firstMatchIndex cases args'
          ∧ firstMatch cases args = firstMatch cases args')
      ∧ ∀ i sig, cases[i]? = some sig →
        ((∃ args, firstMatchIndex cases args = some i) ↔
          (∀ base value, Ty.literal base value ∉ sig.params)
            ∧ ∀ j < i, ∀ other, cases[j]? = some other → other.params ≠ sig.params)
          ∧ ((∃ args, firstMatchIndex cases args = some i) →
            firstMatchIndex cases sig.params = some i
              ∧ firstMatch cases sig.params = some sig) := by
  refine ⟨?_, firstMatch_eq_bind cases, firstMatch_eq_none_iff cases, ?_, ?_⟩
  · intro args i
    rw [firstMatchIndex_eq_some_iff]
    exact ⟨fun h => ⟨h.found, h.earlier⟩, fun h => ⟨h.1, h.2⟩⟩
  · intro args args' heq
    have hindex : firstMatchIndex cases args = firstMatchIndex cases args' := by
      apply Option.ext
      intro i
      rw [firstMatchIndex_eq_some_iff, firstMatchIndex_eq_some_iff, heq]
    exact ⟨hindex, by rw [firstMatch_eq_bind, firstMatch_eq_bind, hindex]⟩
  · intro i sig hsig
    refine ⟨?_, ?_⟩
    · rw [exists_firstMatchIndex_iff hsig, stripLiterals_eq_self_iff_not_mem]
      refine and_congr_right fun _ => ⟨fun h => h.earlier, fun h => ⟨⟨sig, hsig, rfl⟩, h⟩⟩
    · intro h
      obtain ⟨hstripped, hfirst⟩ := (exists_firstMatchIndex_iff hsig).1 h
      have hindex : firstMatchIndex cases sig.params = some i := by
        rw [firstMatchIndex_eq_some_iff, hstripped]
        exact hfirst
      exact ⟨hindex, by rw [firstMatch_eq_bind, hindex]; exact hsig⟩

-- The second signature stands behind another with its parameters, and the third has a literal.
example :
    let cases : List Signature :=
      [⟨[.scalar .int64], .unit⟩, ⟨[.scalar .int64], .str⟩, ⟨[Ty.intLiteral 1], .unit⟩]
    cases.map (fun sig => firstMatchIndex cases sig.params) = [some 0, some 0, some 0] := by
  decide +kernel

end KernelTyping
