import KernelTyping.Text.EditDistance

set_option autoImplicit false

/-! # Edit scripts

An edit script is a list of edits, each of a single character, that are made one after the
other. The edit distance of two texts is the length of a shortest script that turns one into
the other (`distance_eq_shortest`). Between the two stands `fromEnds`, which says how the
distance depends on the last characters: the rows that are filled hold its values, whatever was
in them before (`isRow_fillAll`), there is a script of that length (`turnsInto_fromEnds`), and
no edit brings two texts nearer by more than one (`fromEnds_le_of_apply`).
-/

namespace KernelTyping.EditDistance

/-! ## Scripts -/

/-- An edit of a single character. -/
inductive Edit where
  | insert (place : Nat) (c : Char)
  | delete (place : Nat)
  | replace (place : Nat) (c : Char)
  deriving DecidableEq

namespace Edit

/-- Where an edit is made. -/
def place : Edit → Nat
  | .insert place _ | .delete place | .replace place _ => place

/-- How many characters are taken away there. -/
def removed : Edit → Nat
  | .insert _ _ => 0
  | .delete _ | .replace _ _ => 1

/-- The characters that are put there. -/
def added : Edit → List Char
  | .insert _ c | .replace _ c => [c]
  | .delete _ => []

/-- The text after an edit, if there is something to take away at its place. A character can
be inserted before every character and at the end. -/
def apply (edit : Edit) (text : List Char) : Option (List Char) :=
  if edit.place + edit.removed ≤ text.length then
    some (text.take edit.place ++ edit.added ++ text.drop (edit.place + edit.removed))
  else none

end Edit

/-- The text after the edits of a script, the first one first. -/
def applyAll : List Edit → List Char → Option (List Char)
  | [], text => some text
  | edit :: rest, text => (edit.apply text).bind (applyAll rest)

/-- Whether one text can be turned into another by so many edits. -/
def TurnsInto (count : Nat) (a b : List Char) : Prop :=
  ∃ script : List Edit, script.length = count ∧ applyAll script a = some b

/-- Whether two texts are so many edits apart: by so many one can be turned into the other,
and by no fewer. -/
def Apart (a b : List Char) (count : Nat) : Prop :=
  TurnsInto count a b ∧ ∀ count', TurnsInto count' a b → count ≤ count'

/-- What one edit does, seen from both sides of its place. -/
theorem Edit.apply_cases {edit : Edit} {text text' : List Char}
    (h : edit.apply text = some text') :
    ∃ before after,
      (∃ c, text = before ++ after ∧ text' = before ++ c :: after)
        ∨ (∃ c, text = before ++ c :: after ∧ text' = before ++ after)
        ∨ ∃ c d, text = before ++ c :: after ∧ text' = before ++ d :: after := by
  obtain ⟨hplace, heq⟩ := Option.ite_none_right_eq_some.1 h
  have htext' : text' = text.take edit.place ++ edit.added
      ++ text.drop (edit.place + edit.removed) := (Option.some.inj heq).symm
  have htaken (place : Nat) (hlt : place < text.length) :
      text = text.take place ++ text[place] :: text.drop (place + 1) := by
    rw [List.getElem_cons_drop, List.take_append_drop]
  refine ⟨text.take edit.place, text.drop (edit.place + edit.removed), ?_⟩
  cases edit with
  | insert place c =>
      have hnothing : text = text.take place ++ text.drop place :=
        (List.take_append_drop place text).symm
      exact .inl ⟨c, hnothing, by simp [htext', added]⟩
  | delete place => exact .inr (.inl ⟨_, htaken place hplace, by simp [htext', added]⟩)
  | replace place c => exact .inr (.inr ⟨_, c, htaken place hplace, by simp [htext', added]⟩)

/-- An edit does not see what stands behind the text. -/
theorem Edit.apply_append {edit : Edit} {text text' : List Char}
    (h : edit.apply text = some text') (tail : List Char) :
    edit.apply (text ++ tail) = some (text' ++ tail) := by
  obtain ⟨hplace, heq⟩ := Option.ite_none_right_eq_some.1 h
  obtain rfl := Option.some.inj heq
  have hplace' : edit.place + edit.removed ≤ (text ++ tail).length := by
    rw [List.length_append]
    omega
  rw [apply, if_pos hplace', List.take_append_of_le_length (by omega),
    List.drop_append_of_le_length hplace]
  simp only [List.append_assoc]

theorem applyAll_append_text {script : List Edit} {a b : List Char}
    (h : applyAll script a = some b) (tail : List Char) :
    applyAll script (a ++ tail) = some (b ++ tail) := by
  induction script generalizing a with
  | nil =>
      obtain rfl := Option.some.inj h
      rfl
  | cons edit rest ih =>
      obtain ⟨next, hedit, hrest⟩ := Option.bind_eq_some_iff.1 h
      rw [applyAll, Edit.apply_append hedit tail]
      exact ih hrest

theorem applyAll_append (first second : List Edit) (text : List Char) :
    applyAll (first ++ second) text = (applyAll first text).bind (applyAll second) := by
  induction first generalizing text with
  | nil => rfl
  | cons edit rest ih =>
      show (edit.apply text).bind (applyAll (rest ++ second)) = _
      rw [applyAll, Option.bind_assoc, funext ih]

namespace TurnsInto

variable {count : Nat} {a b : List Char}

theorem refl (text : List Char) : TurnsInto 0 text text := ⟨[], rfl, rfl⟩

/-- What both texts end in needs no edit. -/
theorem append (h : TurnsInto count a b) (tail : List Char) :
    TurnsInto count (a ++ tail) (b ++ tail) := by
  obtain ⟨script, hlength, happly⟩ := h
  exact ⟨script, hlength, applyAll_append_text happly tail⟩

/-- Goes on with one more edit. -/
theorem step (h : TurnsInto count a b) {edit : Edit} {b' : List Char}
    (hedit : edit.apply b = some b') : TurnsInto (count + 1) a b' := by
  obtain ⟨script, rfl, happly⟩ := h
  refine ⟨script ++ [edit], List.length_append, ?_⟩
  rw [applyAll_append, happly]
  show (edit.apply b).bind (applyAll []) = some b'
  rw [hedit]
  rfl

theorem insert_last (h : TurnsInto count a b) (d : Char) : TurnsInto (count + 1) a (b ++ [d]) := by
  have hedit : (Edit.insert b.length d).apply b = some (b ++ [d]) := by
    simp [Edit.apply, Edit.place, Edit.removed, Edit.added]
  exact h.step hedit

theorem delete_last (h : TurnsInto count a b) (c : Char) : TurnsInto (count + 1) (a ++ [c]) b := by
  have hedit : (Edit.delete b.length).apply (b ++ [c]) = some b := by
    simp [Edit.apply, Edit.place, Edit.removed, Edit.added]
  exact (h.append [c]).step hedit

theorem replace_last (h : TurnsInto count a b) (c d : Char) :
    TurnsInto (count + 1) (a ++ [c]) (b ++ [d]) := by
  have hedit : (Edit.replace b.length d).apply (b ++ [c]) = some (b ++ [d]) := by
    simp [Edit.apply, Edit.place, Edit.removed, Edit.added]
  exact (h.append [c]).step hedit

end TurnsInto

/-! ## What becomes of the last characters -/

/-- The distance of two texts that are given from their ends, the last character first: the
last character of the first text is deleted, or that of the second is inserted, or one stands
for the other. -/
def fromEnds : List Char → List Char → Nat
  | [], b => b.length
  | c :: a, [] => (c :: a).length
  | c :: a, d :: b =>
    min (min (fromEnds a (d :: b) + 1) (fromEnds (c :: a) b + 1))
      (fromEnds a b + if c = d then 0 else 1)
  termination_by a b => a.length + b.length

@[simp] theorem fromEnds_nil_left (b : List Char) : fromEnds [] b = b.length := by
  rw [fromEnds]

@[simp] theorem fromEnds_nil_right (a : List Char) : fromEnds a [] = a.length := by
  cases a <;> rw [fromEnds]

theorem fromEnds_cons_cons (c : Char) (a : List Char) (d : Char) (b : List Char) :
    fromEnds (c :: a) (d :: b) =
      min (min (fromEnds a (d :: b) + 1) (fromEnds (c :: a) b + 1))
        (fromEnds a b + if c = d then 0 else 1) := by
  rw [fromEnds]

theorem fromEnds_self (a : List Char) : fromEnds a a = 0 := by
  induction a with
  | nil => simp
  | cons c a ih =>
      rw [fromEnds_cons_cons, ih, if_pos rfl]
      omega

/-! ## There is a script -/

/-- One text can be turned into the other by as many edits as their distance. -/
theorem turnsInto_fromEnds (a b : List Char) :
    TurnsInto (fromEnds a b) a.reverse b.reverse := by
  induction a generalizing b with
  | nil =>
      rw [fromEnds_nil_left]
      induction b with
      | nil => exact .refl []
      | cons d b ih =>
          rw [List.reverse_cons]
          exact ih.insert_last d
  | cons c a iha =>
      rw [List.reverse_cons]
      induction b with
      | nil =>
          have ha := iha []
          rw [fromEnds_nil_right] at ha ⊢
          exact ha.delete_last c
      | cons d b ihb =>
          have hdelete := (iha (d :: b)).delete_last c
          have hinsert := ihb.insert_last d
          have hreplace : TurnsInto (fromEnds a b + if c = d then 0 else 1)
              (a.reverse ++ [c]) (b.reverse ++ [d]) := by
            by_cases hcd : c = d
            · subst hcd
              rw [if_pos rfl]
              exact (iha b).append [c]
            · rw [if_neg hcd]
              exact (iha b).replace_last c d
          rw [List.reverse_cons] at hdelete ⊢
          -- The least of the three is one of the three.
          have hleast : fromEnds (c :: a) (d :: b) = fromEnds a (d :: b) + 1
              ∨ fromEnds (c :: a) (d :: b) = fromEnds (c :: a) b + 1
              ∨ fromEnds (c :: a) (d :: b) = fromEnds a b + if c = d then 0 else 1 := by
            rw [fromEnds_cons_cons]
            omega
          rcases hleast with h | h | h <;> rw [h]
          · exact hdelete
          · exact hinsert
          · exact hreplace

/-! ## No script is shorter -/

theorem fromEnds_cons_left_le (c : Char) (a b : List Char) :
    fromEnds (c :: a) b ≤ fromEnds a b + 1 := by
  cases b with
  | nil => simp
  | cons d b => rw [fromEnds_cons_cons]; omega

theorem fromEnds_cons_right_le (a : List Char) (d : Char) (b : List Char) :
    fromEnds a (d :: b) ≤ fromEnds a b + 1 := by
  cases a with
  | nil => simp
  | cons c a => rw [fromEnds_cons_cons]; omega

theorem fromEnds_le_cons_left (c : Char) (a b : List Char) :
    fromEnds a b ≤ fromEnds (c :: a) b + 1 := by
  induction b with
  | nil => simp; omega
  | cons d b ih =>
      have h := fromEnds_cons_right_le a d b
      rw [fromEnds_cons_cons]
      omega

theorem fromEnds_replace_le (c c' : Char) (a b : List Char) :
    fromEnds (c :: a) b ≤ fromEnds (c' :: a) b + 1 := by
  induction b with
  | nil => simp
  | cons d b ih =>
      rw [fromEnds_cons_cons, fromEnds_cons_cons]
      split <;> split <;> omega

/-- Two texts that are near to each other stay so with one more character. -/
theorem fromEnds_cons_le_of_near {a a' : List Char}
    (h : ∀ b, fromEnds a b ≤ fromEnds a' b + 1) (c : Char) (b : List Char) :
    fromEnds (c :: a) b ≤ fromEnds (c :: a') b + 1 := by
  induction b with
  | nil =>
      have hnil := h []
      simp only [fromEnds_nil_right, List.length_cons] at hnil ⊢
      omega
  | cons d b ih =>
      have hlong := h (d :: b)
      have hshort := h b
      rw [fromEnds_cons_cons, fromEnds_cons_cons]
      omega

theorem fromEnds_append_le_of_near {a a' : List Char}
    (h : ∀ b, fromEnds a b ≤ fromEnds a' b + 1) (ending b : List Char) :
    fromEnds (ending ++ a) b ≤ fromEnds (ending ++ a') b + 1 := by
  induction ending generalizing b with
  | nil => exact h b
  | cons c ending ih => exact fromEnds_cons_le_of_near ih c b

/-- No edit brings a text nearer to another one by more than one. -/
theorem fromEnds_le_of_apply {edit : Edit} {text text' : List Char}
    (h : edit.apply text = some text') (b : List Char) :
    fromEnds text.reverse b ≤ fromEnds text'.reverse b + 1 := by
  obtain ⟨before, after, ⟨c, rfl, rfl⟩ | ⟨c, rfl, rfl⟩ | ⟨c, d, rfl, rfl⟩⟩ := Edit.apply_cases h
  · have hnear := fromEnds_append_le_of_near (fromEnds_le_cons_left c before.reverse)
      after.reverse b
    simpa using hnear
  · have hnear := fromEnds_append_le_of_near (fromEnds_cons_left_le c before.reverse)
      after.reverse b
    simpa using hnear
  · have hnear := fromEnds_append_le_of_near (fromEnds_replace_le c d before.reverse)
      after.reverse b
    simpa using hnear

theorem fromEnds_le_length {script : List Edit} {a b : List Char}
    (h : applyAll script a = some b) : fromEnds a.reverse b.reverse ≤ script.length := by
  induction script generalizing a with
  | nil =>
      obtain rfl := Option.some.inj h
      rw [fromEnds_self]
      exact Nat.zero_le _
  | cons edit rest ih =>
      obtain ⟨next, hedit, hrest⟩ := Option.bind_eq_some_iff.1 h
      have hnext := ih hrest
      have hstep := fromEnds_le_of_apply hedit b.reverse
      rw [List.length_cons]
      omega

/-! ## The rows -/

/-- Whether a row holds the distances from the beginning `done.reverse` of the first text to
the beginnings of `b` with at most `j` characters. What stands behind is left open. -/
def FilledTo (done b : List Char) (j : Nat) (row : Vector Nat (b.length + 1)) : Prop :=
  ∀ (k : Nat) (hk : k < b.length + 1), k ≤ j → row[k] = fromEnds done (b.take k).reverse

/-- Whether a row holds the distances from the beginning `done.reverse` of the first text to
all beginnings of `b`. -/
def IsRow (done b : List Char) (row : Vector Nat (b.length + 1)) : Prop :=
  FilledTo done b b.length row

/-- Without a first character there are only insertions. -/
theorem isRow_startRows (b : List Char) : IsRow [] b (startRows b).last := by
  intro k hk hle
  simp [startRows, hle]

/-- One more entry of a row is filled. It follows from the entry before it, and from the two
entries above these. -/
theorem FilledTo.set {c d : Char} {done b rest : List Char} {j : Nat}
    {above row : Vector Nat (b.length + 1)} (habove : IsRow done b above)
    (hrow : FilledTo (c :: done) b j row) (hrest : b.drop j = d :: rest)
    (hj : j + 1 < b.length + 1) :
    FilledTo (c :: done) b (j + 1)
      (row.set (j + 1)
        (min (min (above[j + 1] + 1) (row[j] + 1)) (above[j] + if c = d then 0 else 1))) := by
  have hlast : (b.take (j + 1)).reverse = d :: (b.take j).reverse := by
    have hd : b[j]? = some d := by
      rw [← List.head?_drop, hrest]
      rfl
    rw [List.take_add_one, hd]
    simp
  intro k hk hle
  rw [Vector.getElem_set]
  split
  case isTrue heq =>
    subst heq
    rw [hlast, fromEnds_cons_cons, ← hlast, ← habove (j + 1) hj (by omega),
      ← habove j (by omega) (by omega), ← hrow j (by omega) (Nat.le_refl j)]
  case isFalse hne => exact hrow k hk (by omega)

/-- A row is filled to its end, whatever it held behind the entries that were filled first. -/
theorem isRow_fillFrom {c : Char} {done b : List Char} {above : Vector Nat (b.length + 1)}
    (habove : IsRow done b above) {rest : List Char} {j : Nat} (hrest : b.drop j = rest)
    (h : j + rest.length < b.length + 1) {row : Vector Nat (b.length + 1)}
    (hrow : FilledTo (c :: done) b j row) :
    IsRow (c :: done) b (fillFrom c above j rest h row) := by
  induction rest generalizing j row with
  | nil =>
      have hlength : b.length ≤ j := List.drop_eq_nil_iff.1 hrest
      intro k hk hle
      exact hrow k hk (by omega)
  | cons d rest ih =>
      have hj : j + 1 < b.length + 1 := by rw [List.length_cons] at h; omega
      have hrest' : b.drop (j + 1) = rest := by rw [← List.tail_drop, hrest, List.tail_cons]
      exact ih hrest' _ (hrow.set habove hrest hj)

/-- One character more of the first text: the rows change places, and nothing is left of what
the next row held. -/
theorem isRow_fillNext {done b : List Char} {rows : Rows (b.length + 1)}
    (h : IsRow done b rows.last) (c : Char) :
    IsRow (c :: done) b (fillNext b done.length c rows).last := by
  -- The entry of the empty beginning is put in front, whatever the row holds.
  have hzero : FilledTo (c :: done) b 0 (rows.next.set 0 (done.length + 1)) := by
    intro k hk hle
    obtain rfl := Nat.le_zero.1 hle
    simp
  have hrest : b.drop 0 = b := rfl
  exact isRow_fillFrom h hrest _ hzero

/-- After all characters the row is that of the whole first text. -/
theorem isRow_fillAll {done b : List Char} (a : List Char) {rows : Rows (b.length + 1)}
    (h : IsRow done b rows.last) :
    IsRow (a.reverse ++ done) b (fillAll b done.length a rows).last := by
  induction a generalizing done rows with
  | nil => exact h
  | cons c a ih =>
      have hrest := ih (isRow_fillNext h c)
      rwa [List.reverse_cons, List.append_assoc]

/-- The last entry of the last row, whatever was in the row that is filled first. -/
theorem lastEntry_fillAll (a b : List Char) (next : Vector Nat (b.length + 1)) :
    (fillAll b 0 a ⟨(startRows b).last, next⟩).lastEntry = fromEnds a.reverse b.reverse := by
  have hstart : IsRow [] b (Rows.mk (startRows b).last next).last := isRow_startRows b
  have hrow := isRow_fillAll a hstart
  have hlast := hrow b.length (Nat.lt_succ_self _) (Nat.le_refl _)
  rwa [List.append_nil, List.take_length] at hlast

/-! ## The distance -/

theorem distance_eq_fromEnds (a b : List Char) : distance a b = fromEnds a.reverse b.reverse :=
  lastEntry_fillAll a b (startRows b).next

theorem turnsInto_distance (a b : List Char) : TurnsInto (distance a b) a b := by
  have h := turnsInto_fromEnds a.reverse b.reverse
  rwa [List.reverse_reverse, List.reverse_reverse, ← distance_eq_fromEnds] at h

theorem distance_le_length {script : List Edit} {a b : List Char}
    (h : applyAll script a = some b) : distance a b ≤ script.length := by
  rw [distance_eq_fromEnds]
  exact fromEnds_le_length h

/-- Two texts are as many edits apart as their distance says. -/
theorem apart_iff (a b : List Char) (count : Nat) : Apart a b count ↔ distance a b = count := by
  have hleast : ∀ count', TurnsInto count' a b → distance a b ≤ count' := by
    rintro _ ⟨script, rfl, happly⟩
    exact distance_le_length happly
  constructor
  · rintro ⟨hturns, hmin⟩
    exact Nat.le_antisymm (hleast count hturns) (hmin _ (turnsInto_distance a b))
  · rintro rfl
    exact ⟨turnsInto_distance a b, hleast⟩

/-- **The edit distance is the length of a shortest script.** Filling two rows in turn gives,
for any two texts, the number of edits of a script that turns the first text into the second,
and no script with fewer edits does so. What a row held before it is filled has no part in
it. -/
theorem distance_eq_shortest (a b : List Char) :
    (∃ script : List Edit, script.length = distance a b ∧ applyAll script a = some b)
      ∧ (∀ script : List Edit, applyAll script a = some b → distance a b ≤ script.length)
      ∧ ∀ next : Vector Nat (b.length + 1),
        (fillAll b 0 a ⟨(startRows b).last, next⟩).lastEntry = distance a b := by
  refine ⟨turnsInto_distance a b, ?_, ?_⟩
  · intro script happly
    exact distance_le_length happly
  · intro next
    rw [lastEntry_fillAll, distance_eq_fromEnds]

example : distance "threadidx".toList "threadIdx".toList = 1 := by decide +kernel

end KernelTyping.EditDistance
