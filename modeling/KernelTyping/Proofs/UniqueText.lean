import KernelTyping.Proofs.Delimiting
import KernelTyping.Signature

set_option autoImplicit false

/-! # Types are told apart by their texts

If no namespace and no intrinsic in a type has a closing parenthesis in its text
(`Ty.Enclosed`), the text of the type marks its own end (`Ty.distinguishes_chars`): its first
character tells the kind of the type, and each kind brings the characters that end its parts.
So different types, signatures and argument lists have different texts (`text_eq_iff`), and the
constants in them may be any strings.
-/

namespace KernelTyping

/-! ## Constants -/

namespace LiteralValue

/-- Whether a constant is written without quotes and parentheses. -/
def Bare (value : LiteralValue) : Prop := '"' ∉ value.chars ∧ ')' ∉ value.chars

theorem bare_or_str (value : LiteralValue) : value.Bare ∨ ∃ s, value = .str s := by
  cases value with
  | int i =>
      exact .inl ⟨Decimal.not_mem_integer (by decide) (by decide) i.toInt,
        Decimal.not_mem_integer (by decide) (by decide) i.toInt⟩
  | bool b => cases b <;> exact .inl ⟨by decide, by decide⟩
  | str s => exact .inr ⟨s, rfl⟩

theorem not_bare_str (s : String) : ¬ (str s).Bare := by
  intro h
  exact h.1 List.mem_cons_self

/-- The letter `e`, with which both truth values end, is in no numeral. -/
theorem chars_int_ne_bool (i : Int64) (b : Bool) : (int i).chars ≠ (bool b).chars := by
  have hnumeral : 'e' ∉ (int i).chars := Decimal.not_mem_integer (by decide) (by decide) i.toInt
  have htruth : 'e' ∈ (bool b).chars := by cases b <;> decide
  intro h
  exact hnumeral (h ▸ htruth)

theorem Bare.chars_inj {v w : LiteralValue} (hv : v.Bare) (hw : w.Bare)
    (h : v.chars = w.chars) : v = w := by
  cases v with
  | int i =>
      cases w with
      | int j => rw [Int64.toInt_inj.1 (Decimal.integer_inj.1 h)]
      | bool b => exact absurd h (chars_int_ne_bool i b)
      | str s => exact absurd hw (not_bare_str s)
  | bool b =>
      cases w with
      | int j => exact absurd h.symm (chars_int_ne_bool j b)
      | bool b' => cases b <;> cases b' <;> first | rfl | exact absurd h (by decide)
      | str s => exact absurd hw (not_bare_str s)
  | str s => exact absurd hv (not_bare_str s)

/-- A bare constant does not begin with a quote, nor does the parenthesis behind it. -/
theorem Bare.ne_quoted {v : LiteralValue} (hv : v.Bare) (x y : List Char) (s : String) :
    v.chars ++ ')' :: x ≠ (str s).chars ++ y := by
  intro h
  have hquote : (str s).chars ++ y = '"' :: (s.toList.flatMap Quoted.escape ++ ['"'] ++ y) := rfl
  rw [hquote] at h
  have hnot := hv.1
  cases hchars : v.chars with
  | nil =>
      rw [hchars] at h
      exact absurd (List.cons.inj h).1 (by decide)
  | cons c rest =>
      rw [hchars] at h hnot
      exact hnot ((List.cons.inj h).1 ▸ List.mem_cons_self)

/-- A constant ends with the parenthesis behind it, also if there are others inside its
quotes. -/
theorem selfDelimiting_chars : SelfDelimiting fun value : LiteralValue => value.chars ++ [')'] := by
  intro v w
  rcases v.bare_or_str with hv | ⟨s, rfl⟩
  · rcases w.bare_or_str with hw | ⟨t, rfl⟩
    · exact .of_stop hv.2 hw.2 (hv.chars_inj hw)
    · intro x y h
      simp only [List.append_assoc, List.singleton_append] at h
      exact absurd h (hv.ne_quoted _ _ t)
  · intro x y h
    simp only [List.append_assoc, List.singleton_append] at h
    rcases w.bare_or_str with hw | ⟨t, rfl⟩
    · exact absurd h.symm (hw.ne_quoted _ _ s)
    · obtain ⟨hst, hrest⟩ := Quoted.selfDelimiting_quoted s.toList t.toList _ _ h
      rw [String.toList_inj.1 hst]
      exact ⟨rfl, (List.cons.inj hrest).2⟩

end LiteralValue

/-! ## Scalars -/

theorem Scalar.selfDelimiting_name : SelfDelimiting fun s : Scalar => s.name.toList := by
  have hbegins : ∀ s ∈ all, ∀ t ∈ all, s.name.toList <+: t.name.toList → s = t := by decide
  intro s t
  refine .of_beginning ?_
  rintro (h | h)
  · exact hbegins s s.mem_all t t.mem_all h
  · exact (hbegins t t.mem_all s s.mem_all h).symm

namespace Ty

/-! ## The text of each kind of type -/

theorem chars_tuple (elems : List Ty) : (tuple elems).chars = tupleChars (elems.map chars) := by
  rw [← charsEach_eq_map]
  rfl

theorem chars_array (elem : Ty) (ndim : UInt32) :
    (array elem ndim).chars = "array(".toList ++ elem.chars ++ [',', ' ']
      ++ Decimal.natural ndim.toNat ++ ['d', ',', ' ', layoutLetter, ')'] := rfl

theorem chars_literal (base : Ty) (value : LiteralValue) :
    (literal base value).chars = "Literal[".toList ++ base.chars ++ [']', '('] ++ value.chars
      ++ [')'] := rfl

theorem chars_numberClass (of : Ty) :
    (numberClass of).chars = "class(".toList ++ of.chars ++ [')'] := rfl

theorem chars_scope (id : NamespaceId) :
    (scope id).chars = "Module(".toList ++ id.text.toList ++ [')'] := rfl

theorem chars_intrinsic (id : IntrinsicId) :
    (intrinsic id).chars = "Function(".toList ++ id.text.toList ++ [')'] := rfl

/-! ## Kinds of types -/

/-- The kinds of types, one for each way of building a type. -/
inductive Kind where
  | scalar
  | str
  | unit
  | tuple
  | array
  | literal
  | numberClass
  | scope
  | intrinsic

/-- The kind of a type. -/
def kind : Ty → Kind
  | .scalar _ => .scalar
  | .str => .str
  | .unit => .unit
  | .tuple _ => .tuple
  | .array _ _ => .array
  | .literal _ _ => .literal
  | .numberClass _ => .numberClass
  | .scope _ => .scope
  | .intrinsic _ => .intrinsic

/-- The kind of the types whose texts begin with a character; it is that of the scalars if the
character stands for no other kind. -/
def Kind.ofInitial : Char → Kind
  | 's' => .str
  | 'n' => .unit
  | '(' => .tuple
  | 'a' => .array
  | 'L' => .literal
  | 'c' => .numberClass
  | 'M' => .scope
  | 'F' => .intrinsic
  | _ => .scalar

theorem exists_tupleChars_eq (texts : List (List Char)) :
    ∃ rest, tupleChars texts = '(' :: rest := by
  rcases texts with _ | ⟨first, _ | ⟨second, rest⟩⟩ <;> exact ⟨_, rfl⟩

/-- The first character of a text tells the kind of the type, and it closes no parenthesis. -/
theorem exists_initial (ty : Ty) :
    ∃ c rest, ty.chars = c :: rest ∧ c ≠ ')' ∧ Kind.ofInitial c = ty.kind := by
  cases ty with
  | scalar s =>
      rcases s with ⟨width, sign⟩ | width | _
      · cases width <;> cases sign <;> exact ⟨_, _, rfl, by decide, rfl⟩
      · cases width <;> exact ⟨_, _, rfl, by decide, rfl⟩
      · exact ⟨_, _, rfl, by decide, rfl⟩
  | tuple elems =>
      obtain ⟨rest, htuple⟩ := exists_tupleChars_eq (charsEach elems)
      exact ⟨'(', rest, htuple, by decide, rfl⟩
  | _ => exact ⟨_, _, rfl, by decide, rfl⟩

theorem distinguishes_of_kind_ne {a b : Ty} (h : a.kind ≠ b.kind) : Distinguishes chars a b := by
  intro x y hxy
  obtain ⟨c, rest, ha, -, hc⟩ := a.exists_initial
  obtain ⟨d, rest', hb, -, hd⟩ := b.exists_initial
  rw [ha, hb] at hxy
  have hcd : c = d := (List.cons.inj hxy).1
  have hkind : a.kind = b.kind := by rw [← hc, ← hd, hcd]
  exact absurd hkind h

/-! ## Lists of types -/

/-- What stands behind the first text of a listing in parentheses, if the others are those of
the given types. -/
def behindFirst (others : List Ty) : List Char :=
  others.flatMap (fun ty => [',', ' '] ++ ty.chars) ++ [')']

theorem listChars_cons (first : Ty) (others : List Ty) :
    listChars (first :: others) = '(' :: (first.chars ++ behindFirst others) := by
  rw [listChars, Listing.parenthesized, Listing.commaSeparated, List.map_cons,
    Listing.intercalate_cons, List.flatMap_map, behindFirst, List.append_assoc]

theorem distinguishes_behindFirst {as bs : List Ty}
    (h : ∀ a ∈ as, ∀ b ∈ bs, Distinguishes chars a b) : Distinguishes behindFirst as bs := by
  refine .flatMap (fun ty => ⟨',', _, rfl, by decide⟩) ?_
  intro a ha b hb x y hxy
  exact h a ha b hb x y (List.cons.inj (List.cons.inj hxy).2).2

/-- The empty listing is closed where another one begins with a type. -/
theorem listChars_nil_append_ne (first : Ty) (others : List Ty) (x y : List Char) :
    listChars [] ++ x ≠ listChars (first :: others) ++ y := by
  obtain ⟨c, rest, hfirst, hc, -⟩ := first.exists_initial
  rw [listChars_cons, hfirst]
  intro h
  exact hc (List.cons.inj (List.cons.inj h).2).1.symm

theorem distinguishes_listChars {as bs : List Ty}
    (h : ∀ a ∈ as, ∀ b ∈ bs, Distinguishes chars a b) : Distinguishes listChars as bs := by
  have hcons : ∀ first others, listChars (first :: others)
      = ['('] ++ (first.chars ++ (behindFirst others ++ [])) := by
    intro first others
    rw [listChars_cons, List.append_nil, List.singleton_append]
  refine .of_cons hcons listChars_nil_append_ne h (distinguishes_behindFirst ?_)
  intro a ha b hb
  exact h a (List.mem_of_mem_tail ha) b (List.mem_of_mem_tail hb)

/-! ## Tuples -/

theorem chars_tuple_singleton (only : Ty) :
    (tuple [only]).chars = '(' :: (only.chars ++ [',', ')']) := rfl

/-- Apart from the comma behind a single element a tuple is written like an argument list. -/
theorem chars_tuple_of_length_ne_one {elems : List Ty} (h : elems.length ≠ 1) :
    (tuple elems).chars = listChars elems := by
  rcases elems with _ | ⟨first, _ | ⟨second, rest⟩⟩
  · rfl
  · exact absurd rfl h
  · rw [chars_tuple]
    rfl

/-- The comma behind a single element is followed by a parenthesis, any other one by a space. -/
theorem chars_tuple_singleton_append_ne {a : Ty} {bs : List Ty} (hbs : bs.length ≠ 1)
    (h : ∀ b ∈ bs, Distinguishes chars a b) (x y : List Char) :
    (tuple [a]).chars ++ x ≠ (tuple bs).chars ++ y := by
  rw [chars_tuple_of_length_ne_one hbs, chars_tuple_singleton]
  intro hxy
  rcases bs with _ | ⟨b, _ | ⟨second, rest⟩⟩
  · obtain ⟨c, rest, ha, hc, -⟩ := a.exists_initial
    rw [ha] at hxy
    exact hc (List.cons.inj (List.cons.inj hxy).2).1
  · exact hbs rfl
  · simp only [listChars_cons, List.cons_append, List.append_assoc] at hxy
    obtain ⟨rfl, hbehind⟩ := h b List.mem_cons_self _ _ (List.cons.inj hxy).2
    simp [behindFirst] at hbehind

theorem distinguishes_tuple {as bs : List Ty}
    (h : ∀ a ∈ as, ∀ b ∈ bs, Distinguishes chars a b) :
    Distinguishes chars (tuple as) (tuple bs) := by
  intro x y hxy
  by_cases has : as.length = 1
  · obtain ⟨a, rfl⟩ := List.length_eq_one_iff.1 has
    by_cases hbs : bs.length = 1
    · obtain ⟨b, rfl⟩ := List.length_eq_one_iff.1 hbs
      simp only [chars_tuple_singleton, List.cons_append, List.append_assoc] at hxy
      obtain ⟨rfl, hrest⟩ := h a List.mem_cons_self b List.mem_cons_self _ _ (List.cons.inj hxy).2
      exact ⟨rfl, by simpa using hrest⟩
    · exact absurd hxy (chars_tuple_singleton_append_ne hbs (h a List.mem_cons_self) x y)
  · by_cases hbs : bs.length = 1
    · obtain ⟨b, rfl⟩ := List.length_eq_one_iff.1 hbs
      have hsymm : ∀ a ∈ as, Distinguishes chars b a := fun a ha =>
        (h a ha b List.mem_cons_self).symm
      exact absurd hxy.symm (chars_tuple_singleton_append_ne has hsymm y x)
    · simp only [chars_tuple_of_length_ne_one has, chars_tuple_of_length_ne_one hbs] at hxy
      obtain ⟨rfl, hrest⟩ := distinguishes_listChars h x y hxy
      exact ⟨rfl, hrest⟩

/-! ## Other types -/

/-- The rank of an array ends with the letter behind it. -/
theorem distinguishes_array {elem elem' : Ty} (h : Distinguishes chars elem elem')
    (ndim ndim' : UInt32) : Distinguishes chars (array elem ndim) (array elem' ndim') := by
  intro x y hxy
  have hletter : 'd'.isDigit = false := by decide
  simp only [chars_array, List.append_assoc, List.append_cancel_left_eq] at hxy
  obtain ⟨rfl, hbehind⟩ := h _ _ hxy
  simp only [List.append_cancel_left_eq] at hbehind
  obtain ⟨hrank, hrest⟩ := append_stop_inj (Decimal.not_mem_natural hletter ndim.toNat)
    (Decimal.not_mem_natural hletter ndim'.toNat) hbehind
  rw [UInt32.toNat_inj.1 (Decimal.natural_inj.1 hrank)]
  exact ⟨rfl, List.append_cancel_left hrest⟩

theorem distinguishes_literal {base base' : Ty} (h : Distinguishes chars base base')
    (value value' : LiteralValue) :
    Distinguishes chars (literal base value) (literal base' value') := by
  intro x y hxy
  simp only [chars_literal, List.append_assoc, List.append_cancel_left_eq] at hxy
  obtain ⟨rfl, hbehind⟩ := h _ _ hxy
  simp only [List.append_cancel_left_eq] at hbehind
  rw [← List.append_assoc, ← List.append_assoc] at hbehind
  obtain ⟨rfl, hrest⟩ := LiteralValue.selfDelimiting_chars value value' x y hbehind
  exact ⟨rfl, hrest⟩

theorem distinguishes_numberClass {of of' : Ty} (h : Distinguishes chars of of') :
    Distinguishes chars (numberClass of) (numberClass of') := by
  intro x y hxy
  simp only [chars_numberClass, List.append_assoc, List.append_cancel_left_eq] at hxy
  obtain ⟨rfl, hbehind⟩ := h _ _ hxy
  exact ⟨rfl, List.append_cancel_left hbehind⟩

theorem distinguishes_scope {id id' : NamespaceId} (h : ')' ∉ id.text.toList)
    (h' : ')' ∉ id'.text.toList) : Distinguishes chars (scope id) (scope id') := by
  intro x y hxy
  simp only [chars_scope, List.append_assoc, List.append_cancel_left_eq] at hxy
  obtain ⟨htext, hrest⟩ := append_stop_inj h h' hxy
  obtain rfl : id = id' := congrArg NamespaceId.mk (String.toList_inj.1 htext)
  exact ⟨rfl, hrest⟩

theorem distinguishes_intrinsic {id id' : IntrinsicId} (h : ')' ∉ id.text.toList)
    (h' : ')' ∉ id'.text.toList) : Distinguishes chars (intrinsic id) (intrinsic id') := by
  intro x y hxy
  simp only [chars_intrinsic, List.append_assoc, List.append_cancel_left_eq] at hxy
  obtain ⟨htext, hrest⟩ := append_stop_inj h h' hxy
  obtain rfl : id = id' := congrArg IntrinsicId.mk (String.toList_inj.1 htext)
  exact ⟨rfl, hrest⟩

/-! ## Texts of namespaces and intrinsics -/

mutual

/-- The texts of the namespaces and the intrinsics in a type. -/
def idTexts : Ty → List String
  | .scalar _ => []
  | .str => []
  | .unit => []
  | .tuple elems => idTextsEach elems
  | .array elem _ => elem.idTexts
  | .literal base _ => base.idTexts
  | .numberClass of => of.idTexts
  | .scope id => [id.text]
  | .intrinsic id => [id.text]

/-- The texts of the namespaces and the intrinsics in a list of types. -/
def idTextsEach : List Ty → List String
  | [] => []
  | ty :: rest => ty.idTexts ++ idTextsEach rest

end

theorem mem_idTextsEach_iff (text : String) (types : List Ty) :
    text ∈ idTextsEach types ↔ ∃ ty ∈ types, text ∈ ty.idTexts := by
  induction types with
  | nil => simp [idTextsEach]
  | cons ty rest ih => simp [idTextsEach, ih]

/-- Whether no text of a namespace or an intrinsic in a type closes a parenthesis. -/
def Enclosed (ty : Ty) : Prop := ∀ text ∈ ty.idTexts, ')' ∉ text.toList

instance (ty : Ty) : Decidable ty.Enclosed :=
  inferInstanceAs (Decidable (∀ text ∈ ty.idTexts, ')' ∉ text.toList))

theorem Enclosed.elem_of_tuple {elems : List Ty} (h : (tuple elems).Enclosed) :
    ∀ elem ∈ elems, elem.Enclosed := by
  intro elem helem text htext
  exact h text ((mem_idTextsEach_iff text elems).2 ⟨elem, helem, htext⟩)

/-! ## Types -/

/-- What holds for each way of building a type, if it holds for the types inside, holds for all
types. -/
@[elab_as_elim]
theorem induct {motive : Ty → Prop} (scalar : ∀ s, motive (.scalar s)) (str : motive .str)
    (unit : motive .unit)
    (tuple : ∀ elems, (∀ elem ∈ elems, motive elem) → motive (.tuple elems))
    (array : ∀ elem ndim, motive elem → motive (.array elem ndim))
    (literal : ∀ base value, motive base → motive (.literal base value))
    (numberClass : ∀ of, motive of → motive (.numberClass of))
    (scope : ∀ id, motive (.scope id)) (intrinsic : ∀ id, motive (.intrinsic id)) (ty : Ty) :
    motive ty := by
  refine @Ty.rec motive (fun elems => ∀ elem ∈ elems, motive elem) scalar str unit tuple array
    literal numberClass scope intrinsic ?nil ?cons ty
  case nil =>
    intro elem helem
    cases helem
  case cons =>
    intro first rest hfirst hrest elem helem
    rcases List.mem_cons.1 helem with rfl | hmem
    · exact hfirst
    · exact hrest elem hmem

/-- The text of a type marks its own end, if that of no identifier in it closes a
parenthesis. -/
theorem distinguishes_chars {a b : Ty} (ha : a.Enclosed) (hb : b.Enclosed) :
    Distinguishes chars a b := by
  -- Types of two kinds are told apart by the first character, so only those of one kind are left.
  induction a using Ty.induct generalizing b with
  | scalar s =>
      cases b with
      | scalar t =>
          intro x y h
          obtain ⟨rfl, hxy⟩ := Scalar.selfDelimiting_name s t x y h
          exact ⟨rfl, hxy⟩
      | _ => exact distinguishes_of_kind_ne nofun
  | str =>
      cases b with
      | str => exact .refl
      | _ => exact distinguishes_of_kind_ne nofun
  | unit =>
      cases b with
      | unit => exact .refl
      | _ => exact distinguishes_of_kind_ne nofun
  | tuple elems ih =>
      cases b with
      | tuple elems' =>
          refine distinguishes_tuple ?_
          intro a helem b helem'
          exact ih a helem (ha.elem_of_tuple a helem) (hb.elem_of_tuple b helem')
      | _ => exact distinguishes_of_kind_ne nofun
  | array elem ndim ih =>
      cases b with
      | array elem' ndim' => exact distinguishes_array (ih (b := elem') ha hb) ndim ndim'
      | _ => exact distinguishes_of_kind_ne nofun
  | literal base value ih =>
      cases b with
      | literal base' value' => exact distinguishes_literal (ih (b := base') ha hb) value value'
      | _ => exact distinguishes_of_kind_ne nofun
  | numberClass of ih =>
      cases b with
      | numberClass of' => exact distinguishes_numberClass (ih ha hb)
      | _ => exact distinguishes_of_kind_ne nofun
  | scope id =>
      cases b with
      | scope id' =>
          exact distinguishes_scope (ha id.text List.mem_cons_self) (hb id'.text List.mem_cons_self)
      | _ => exact distinguishes_of_kind_ne nofun
  | intrinsic id =>
      cases b with
      | intrinsic id' =>
          exact distinguishes_intrinsic (ha id.text List.mem_cons_self)
            (hb id'.text List.mem_cons_self)
      | _ => exact distinguishes_of_kind_ne nofun

end Ty

/-! ## Signatures -/

/-- Whether no text of a namespace or an intrinsic in a signature closes a parenthesis. -/
def Signature.Enclosed (sig : Signature) : Prop :=
  (∀ param ∈ sig.params, param.Enclosed) ∧ sig.ret.Enclosed

instance (sig : Signature) : Decidable sig.Enclosed :=
  inferInstanceAs (Decidable ((∀ param ∈ sig.params, param.Enclosed) ∧ sig.ret.Enclosed))

theorem Signature.distinguishes_chars {s t : Signature} (hs : s.Enclosed) (ht : t.Enclosed) :
    Distinguishes Signature.chars s t := by
  intro x y h
  obtain ⟨params, ret⟩ := s
  obtain ⟨params', ret'⟩ := t
  have hparams : Distinguishes Ty.listChars params params' :=
    Ty.distinguishes_listChars fun a ha b hb => Ty.distinguishes_chars (hs.1 a ha) (ht.1 b hb)
  have hret : Distinguishes Ty.chars ret ret' := Ty.distinguishes_chars hs.2 ht.2
  simp only [chars, List.append_assoc] at h
  obtain ⟨rfl, hbehind⟩ := hparams _ _ h
  obtain ⟨rfl, hxy⟩ := hret x y (List.append_cancel_left hbehind)
  exact ⟨rfl, hxy⟩

/-- **Texts of types are unambiguous.** Two types with the same text are the same type, two
signatures with the same text the same signature, and two argument lists with the same text the
same list, as long as no namespace and no intrinsic in them has a closing parenthesis in its
text. What the constants in them are does not matter. -/
theorem text_eq_iff :
    (∀ a b : Ty, a.Enclosed → b.Enclosed → (a.text = b.text ↔ a = b))
      ∧ (∀ s t : Signature, s.Enclosed → t.Enclosed → (s.text = t.text ↔ s = t))
      ∧ (∀ as bs : List Ty, (∀ a ∈ as, a.Enclosed) → (∀ b ∈ bs, b.Enclosed) →
        (Ty.listText as = Ty.listText bs ↔ as = bs)) := by
  refine ⟨?_, ?_, ?_⟩
  · intro a b ha hb
    refine ⟨fun h => ?_, congrArg Ty.text⟩
    exact (Ty.distinguishes_chars ha hb).eq_of_write_eq (String.ofList_inj.1 h)
  · intro s t hs ht
    refine ⟨fun h => ?_, congrArg Signature.text⟩
    exact (Signature.distinguishes_chars hs ht).eq_of_write_eq (String.ofList_inj.1 h)
  · intro as bs has hbs
    refine ⟨fun h => ?_, congrArg Ty.listText⟩
    have helems : ∀ a ∈ as, ∀ b ∈ bs, Distinguishes Ty.chars a b := by
      intro a ha b hb
      exact Ty.distinguishes_chars (has a ha) (hbs b hb)
    exact (Ty.distinguishes_listChars helems).eq_of_write_eq (String.ofList_inj.1 h)

/-- Commas, quotes and parentheses in a constant do not pass for those of the types around it. -/
theorem text_ne_of_delimiters_in_constants :
    (Ty.tuple [.strLiteral "a\"), (b", .scope ⟨"cuda"⟩]).text
        ≠ (Ty.tuple [.strLiteral "a", .strLiteral "b", .scope ⟨"cuda"⟩]).text
      ∧ (Signature.mk [.strLiteral ") -> none"] .str).text ≠ (Signature.mk [] .str).text
      ∧ Ty.listText [.strLiteral "3), 3"] ≠ Ty.listText [.intLiteral 3, .intLiteral 3] := by
  refine ⟨?_, ?_, ?_⟩
  · intro h
    exact absurd ((text_eq_iff.1 _ _ (by decide) (by decide)).1 h) (by decide)
  · intro h
    exact absurd ((text_eq_iff.2.1 _ _ (by decide) (by decide)).1 h) (by decide)
  · intro h
    exact absurd ((text_eq_iff.2.2 _ _ (by decide) (by decide)).1 h) (by decide)

-- A parenthesis in the text of a namespace can pass for the end of a type.
example : Ty.listText [.scope ⟨"a), Module(b"⟩] = Ty.listText [.scope ⟨"a"⟩, .scope ⟨"b"⟩] := by
  decide

end KernelTyping
