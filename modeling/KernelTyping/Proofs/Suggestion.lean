import KernelTyping.Proofs.EditScripts
import KernelTyping.Report

set_option autoImplicit false

/-! # Names that were perhaps meant

The report of a missing member suggests a name that is not far from the one that was asked for.
Going through the names once, with a name replaced only by a nearer one, ends at the first of
the nearest (`nearestOf_nearest?`), and the names of a namespace stand in ascending order. So
the name that is suggested is the first of the nearest members, and one is suggested just if a
member is near enough (`suggestion?_eq_some_iff`).
-/

namespace KernelTyping

open EditDistance (distance Apart)

/-! ## The nearest of several names -/

/-- What is known of the best name so far: it is among the names that were gone through, those
before it are farther from the one asked for, and those behind it are no nearer. -/
def NearestOf (asked : String) (names : List String) : Option Nearby → Prop
  | none => names = []
  | some best =>
    best.distance = distance asked.toList best.name.toList
      ∧ ∃ before after, names = before ++ best.name :: after
        ∧ (∀ other ∈ before, best.distance < distance asked.toList other.toList)
        ∧ ∀ other ∈ after, best.distance ≤ distance asked.toList other.toList

/-- One more name is gone through. -/
theorem NearestOf.better {asked : String} {names : List String} {best : Option Nearby}
    (h : NearestOf asked names best) (candidate : String) :
    NearestOf asked (names ++ [candidate]) (Nearby.better asked best candidate) := by
  cases best with
  | none =>
      obtain rfl : names = [] := h
      exact ⟨rfl, [], [], rfl, by simp, by simp⟩
  | some best =>
      obtain ⟨hdistance, before, after, rfl, hbefore, hafter⟩ := h
      by_cases hnearer : distance asked.toList candidate.toList < best.distance
      · rw [Nearby.better]
        simp only [if_pos hnearer]
        refine ⟨rfl, before ++ best.name :: after, [], rfl, ?_, by simp⟩
        intro other hother
        rcases List.mem_append.1 hother with hmem | hmem
        · exact Nat.lt_trans hnearer (hbefore other hmem)
        · rcases List.mem_cons.1 hmem with rfl | hmem
          · exact hdistance ▸ hnearer
          · exact Nat.lt_of_lt_of_le hnearer (hafter other hmem)
      · rw [Nearby.better]
        simp only [if_neg hnearer]
        refine ⟨hdistance, before, after ++ [candidate], by simp, hbefore, ?_⟩
        intro other hother
        rcases List.mem_append.1 hother with hmem | hmem
        · exact hafter other hmem
        · obtain rfl := List.mem_singleton.1 hmem
          exact Nat.le_of_not_lt hnearer

theorem NearestOf.foldl {asked : String} {seen : List String} {best : Option Nearby}
    (h : NearestOf asked seen best) (names : List String) :
    NearestOf asked (seen ++ names) (names.foldl (Nearby.better asked) best) := by
  induction names generalizing seen best with
  | nil => rwa [List.append_nil]
  | cons name rest ih =>
      have hrest := ih (h.better name)
      rwa [List.append_assoc] at hrest

/-- The names are gone through to the end. -/
theorem nearestOf_nearest? (asked : String) (names : List String) :
    NearestOf asked names (nearest? asked names) := by
  have hstart : NearestOf asked [] none := rfl
  exact hstart.foldl names

/-! ## The suggestion -/

/-- Whether a name comes before all others in the order by distance, and then by name. -/
def FirstNearest (asked : String) (names : List String) (name : String) : Prop :=
  name ∈ names ∧ ∀ other ∈ names,
    distance asked.toList name.toList < distance asked.toList other.toList
      ∨ distance asked.toList name.toList = distance asked.toList other.toList ∧ name ≤ other

theorem FirstNearest.unique {asked : String} {names : List String} {name name' : String}
    (h : FirstNearest asked names name) (h' : FirstNearest asked names name') : name = name' := by
  rcases h.2 name' h'.1 with hlt | ⟨heq, hle⟩
  · rcases h'.2 name h.1 with hlt' | ⟨heq', -⟩ <;> omega
  · rcases h'.2 name h.1 with hlt' | ⟨-, hle'⟩
    · omega
    · exact String.le_antisymm hle hle'

/-- In ascending order the first of the nearest names is the first by name too. -/
theorem NearestOf.firstNearest {asked : String} {names : List String} {best : Nearby}
    (h : NearestOf asked names (some best)) (hascending : names.Pairwise fun a b => a < b) :
    FirstNearest asked names best.name := by
  obtain ⟨hdistance, before, after, rfl, hbefore, hafter⟩ := h
  refine ⟨by simp, ?_⟩
  intro other hother
  rw [← hdistance]
  rcases List.mem_append.1 hother with hmem | hmem
  · exact .inl (hbefore other hmem)
  · rcases List.mem_cons.1 hmem with rfl | hmem
    · exact .inr ⟨hdistance, String.le_refl _⟩
    · have hlt : best.name < other := by
        have hbehind := (List.pairwise_append.1 hascending).2.1
        exact (List.pairwise_cons.1 hbehind).1 other hmem
      rcases Nat.lt_or_eq_of_le (hafter other hmem) with hnearer | hsame
      · exact .inl hnearer
      · exact .inr ⟨hsame, String.not_lt.1 (String.lt_asymm hlt)⟩

theorem suggestion?_eq_some_iff {asked : String} {names : List String}
    (hascending : names.Pairwise fun a b => a < b) (name : String) :
    suggestion? asked names = some name ↔
      FirstNearest asked names name ∧ distance asked.toList name.toList ≤ 3 := by
  have hnearest := nearestOf_nearest? asked names
  rw [suggestion?]
  cases hbest : nearest? asked names with
  | none =>
      rw [hbest] at hnearest
      obtain rfl : names = [] := hnearest
      simp [FirstNearest]
  | some best =>
      rw [hbest] at hnearest
      have hfirst := hnearest.firstNearest hascending
      have hdistance := hnearest.1
      show (if best.distance ≤ 3 then some best.name else none) = some name ↔ _
      rw [Option.ite_none_right_eq_some, Option.some_inj, hdistance]
      constructor
      · rintro ⟨hnear, rfl⟩
        exact ⟨hfirst, hnear⟩
      · rintro ⟨hname, hnear⟩
        obtain rfl := hfirst.unique hname
        exact ⟨hnear, rfl⟩

/-- There is a suggestion just if some name is near enough. -/
theorem exists_suggestion?_iff {asked : String} {names : List String}
    (hascending : names.Pairwise fun a b => a < b) :
    (∃ name, suggestion? asked names = some name) ↔
      ∃ name ∈ names, distance asked.toList name.toList ≤ 3 := by
  constructor
  · rintro ⟨name, h⟩
    obtain ⟨hfirst, hnear⟩ := (suggestion?_eq_some_iff hascending name).1 h
    exact ⟨name, hfirst.1, hnear⟩
  · rintro ⟨name, hmem, hnear⟩
    have hnearest := nearestOf_nearest? asked names
    cases hbest : nearest? asked names with
    | none =>
        rw [hbest] at hnearest
        obtain rfl : names = [] := hnearest
        cases hmem
    | some best =>
        rw [hbest] at hnearest
        have hfirst := hnearest.firstNearest hascending
        refine ⟨best.name, (suggestion?_eq_some_iff hascending _).2 ⟨hfirst, ?_⟩⟩
        -- The nearest name is no farther than one that is near enough.
        rcases hfirst.2 name hmem with hlt | ⟨heq, -⟩ <;> omega

-- Of two names that are as near, the first is suggested.
example : suggestion? "warpsiz" ["laneid", "warpsize", "warpsizz"] = some "warpsize" := by
  decide +kernel

/-! ## The report of a missing member -/

/-- Whether the help of a diagnostic suggests a name. -/
def Diagnostic.Suggests (d : Diagnostic) (name : String) : Prop :=
  d.help = some ("did you mean `" ++ name ++ "`?")

namespace Registry

theorem suggests_unknownAttribute_iff (r : Registry) (ns : NamespaceId) (asked name : String) :
    (r.unknownAttribute ns asked).Suggests name ↔
      ∃ attributes, r.attributes? ns = some attributes
        ∧ FirstNearest asked attributes.names name
        ∧ distance asked.toList name.toList ≤ 3 := by
  show Option.map _ ((r.attributes? ns).bind _) = some _ ↔ _
  simp only [Option.map_eq_some_iff, Option.bind_eq_some_iff, String.append_left_inj,
    String.append_right_inj, exists_eq_right,
    suggestion?_eq_some_iff (AttributeMap.pairwise_names _)]

/-- A member is found just if its name is among those of its namespace. -/
theorem exists_resolveAttribute_iff (r : Registry) (ns : NamespaceId) (name : String) :
    (∃ ty, r.resolveAttribute ns name = some ty) ↔
      ∃ attributes, r.attributes? ns = some attributes ∧ name ∈ attributes.names := by
  simp only [resolveAttribute_eq_some_iff, AttributeMap.mem_names_iff]
  constructor
  · rintro ⟨_, attributes, entry, hns, hentry, -⟩
    exact ⟨attributes, hns, entry, hentry⟩
  · rintro ⟨attributes, hns, entry, hentry⟩
    exact ⟨entry.ty, attributes, entry, hns, hentry, rfl⟩

/-- The help of the report is a suggestion, and there is one just if a member is near
enough. -/
theorem help_unknownAttribute_iff (r : Registry) (ns : NamespaceId) (asked : String) :
    (∃ help, (r.unknownAttribute ns asked).help = some help) ↔
      ∃ attributes, r.attributes? ns = some attributes
        ∧ ∃ name ∈ attributes.names, distance asked.toList name.toList ≤ 3 := by
  show (∃ help, Option.map _ ((r.attributes? ns).bind _) = some help) ↔ _
  cases r.attributes? ns with
  | none => simp
  | some attributes =>
      rw [← Option.isSome_iff_exists, Option.isSome_map, Option.isSome_iff_exists]
      simpa using exists_suggestion?_iff attributes.pairwise_names

theorem exists_suggests_of_help {r : Registry} {ns : NamespaceId} {asked help : String}
    (h : (r.unknownAttribute ns asked).help = some help) :
    ∃ name, help = "did you mean `" ++ name ++ "`?"
      ∧ (r.unknownAttribute ns asked).Suggests name := by
  obtain ⟨name, -, rfl⟩ := Option.map_eq_some_iff.1 h
  exact ⟨name, rfl, h⟩

theorem requireAttribute_eq (r : Registry) (ns : NamespaceId) (name : String) :
    r.requireAttribute ns name =
      match r.resolveAttribute ns name with
      | some ty => .ok ty
      | none => .error (.single (r.unknownAttribute ns name)) := by
  rw [requireAttribute, answerRequiredAttribute, Noted.value_bind]
  show Noted.value (match r.resolveAttribute ns name with | some ty => _ | none => _) = _
  cases r.resolveAttribute ns name <;> rfl

/-- **The name that is suggested is the best one.** The report of a member has help just if its
namespace is registered and has a member at most three edits apart from the one asked for. The
help suggests a member: no other one is fewer edits apart, and of those that are as few it is
the first in the order of code points. A member that has to exist is found just if it resolves;
if it does not, the failure is the report alone, and a name suggested there is another one, and
resolves. -/
theorem unknownAttribute_suggests_best (r : Registry) (ns : NamespaceId) (asked : String) :
    ((∃ help, (r.unknownAttribute ns asked).help = some help) ↔
        ∃ attributes, r.attributes? ns = some attributes
          ∧ ∃ name ∈ attributes.names, ∃ count ≤ 3, Apart asked.toList name.toList count)
      ∧ (∀ help, (r.unknownAttribute ns asked).help = some help →
        ∃ name attributes count, help = "did you mean `" ++ name ++ "`?"
          ∧ r.attributes? ns = some attributes ∧ name ∈ attributes.names
          ∧ Apart asked.toList name.toList count
          ∧ ∀ other ∈ attributes.names, ∀ count', Apart asked.toList other.toList count' →
            count < count' ∨ count = count' ∧ name ≤ other)
      ∧ (∀ ty, r.requireAttribute ns asked = .ok ty ↔ r.resolveAttribute ns asked = some ty)
      ∧ (∀ e, r.requireAttribute ns asked = .error e ↔
        r.resolveAttribute ns asked = none ∧ e.diagnostics = [r.unknownAttribute ns asked])
      ∧ (r.unknownAttribute ns asked).category = .unknownAttribute
      ∧ ∀ e d name, r.requireAttribute ns asked = .error e → d ∈ e.diagnostics →
        d.Suggests name → name ≠ asked ∧ ∃ ty, r.resolveAttribute ns name = some ty := by
  have hok : ∀ ty, r.requireAttribute ns asked = .ok ty ↔
      r.resolveAttribute ns asked = some ty := by
    intro ty
    rw [requireAttribute_eq]
    cases r.resolveAttribute ns asked <;> simp
  have herror : ∀ e, r.requireAttribute ns asked = .error e ↔
      r.resolveAttribute ns asked = none ∧ e.diagnostics = [r.unknownAttribute ns asked] := by
    rintro ⟨diagnostics⟩
    rw [requireAttribute_eq]
    cases r.resolveAttribute ns asked <;> simp [DiagnosticError.single, eq_comm]
  refine ⟨?_, ?_, hok, herror, rfl, ?_⟩
  · simp only [EditDistance.apart_iff, exists_eq_right']
    exact r.help_unknownAttribute_iff ns asked
  · intro help hhelp
    obtain ⟨name, htext, hsuggests⟩ := exists_suggests_of_help hhelp
    obtain ⟨attributes, hns, hfirst, -⟩ := (r.suggests_unknownAttribute_iff ns asked name).1
      hsuggests
    refine ⟨name, attributes, distance asked.toList name.toList, htext, hns, hfirst.1,
      (EditDistance.apart_iff _ _ _).2 rfl, ?_⟩
    intro other hother count' hcount'
    obtain rfl := (EditDistance.apart_iff _ _ _).1 hcount'
    exact hfirst.2 other hother
  · intro e d name he hd hsuggests
    obtain ⟨hnone, hdiagnostics⟩ := (herror e).1 he
    rw [hdiagnostics, List.mem_singleton] at hd
    obtain ⟨attributes, hns, hfirst, -⟩ := (r.suggests_unknownAttribute_iff ns asked name).1
      (hd ▸ hsuggests)
    have hresolves : ∃ ty, r.resolveAttribute ns name = some ty :=
      (r.exists_resolveAttribute_iff ns name).2 ⟨attributes, hns, hfirst.1⟩
    refine ⟨?_, hresolves⟩
    -- The name asked for does not resolve, the one suggested does.
    rintro rfl
    obtain ⟨ty, hty⟩ := hresolves
    rw [hnone] at hty
    cases hty

end Registry

end KernelTyping
