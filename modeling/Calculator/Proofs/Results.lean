import Mathlib.Data.List.Forall2

/-!
# Results of computations

What a computation that may fail comes to, by what its parts come to.  A row of computations has
results exactly if each of them has one (`mapM_eq_ok_iff`), and otherwise it fails as the first one
that fails (`mapM_eq_error_iff`).
-/

namespace Calculator

variable {α β ε ε' : Type} {r : Except ε α} {f : α → Except ε β}

/-! ### One computation -/

theorem map_eq_ok {g : α → β} {b : β} : r.map g = .ok b ↔ ∃ a, r = .ok a ∧ g a = b := by
  cases r <;> simp [Except.map]

theorem map_eq_error {g : α → β} {e : ε} : r.map g = .error e ↔ r = .error e := by
  cases r <;> simp [Except.map]

theorem bind_eq_ok {b : β} : r.bind f = .ok b ↔ ∃ a, r = .ok a ∧ f a = .ok b := by
  cases r <;> simp [Except.bind]

theorem bind_eq_error {e : ε} :
    r.bind f = .error e ↔ r = .error e ∨ ∃ a, r = .ok a ∧ f a = .error e := by
  cases r <;> simp [Except.bind]

theorem mapError_eq_ok {g : ε → ε'} {a : α} : r.mapError g = .ok a ↔ r = .ok a := by
  cases r <;> simp [Except.mapError]

theorem mapError_eq_error {g : ε → ε'} {e : ε'} :
    r.mapError g = .error e ↔ ∃ e', r = .error e' ∧ g e' = e := by
  cases r <;> simp [Except.mapError]

/-! ### Rows of computations -/

/-- The results of a row are those of its elements. -/
theorem mapM_eq_ok_iff {row : List α} {bs : List β} :
    row.mapM f = .ok bs ↔ List.Forall₂ (fun a b => f a = .ok b) row bs := by
  induction row generalizing bs with
  | nil =>
    rw [List.mapM_nil, List.forall₂_nil_left_iff]
    constructor
    · intro h
      cases h
      rfl
    · rintro rfl
      rfl
  | cons a row ih =>
    rw [List.mapM_cons, List.forall₂_cons_left_iff]
    constructor
    · intro h
      cases ha : f a with
      | error e =>
        rw [ha] at h
        cases h
      | ok b =>
        rw [ha] at h
        cases hrow : row.mapM f with
        | error e =>
          rw [hrow] at h
          cases h
        | ok rest =>
          rw [hrow] at h
          cases h
          exact ⟨b, rest, rfl, ih.mp hrow, rfl⟩
    · rintro ⟨b, rest, ha, hrest, rfl⟩
      rw [ha]
      show Except.bind (row.mapM f) _ = _
      rw [ih.mpr hrest]
      rfl

/-- A row has results if each of its elements has one. -/
theorem exists_mapM_eq_ok_iff {row : List α} :
    (∃ bs, row.mapM f = .ok bs) ↔ ∀ a ∈ row, ∃ b, f a = .ok b := by
  constructor
  · rintro ⟨bs, h⟩
    have hall := mapM_eq_ok_iff.mp h
    clear h
    induction hall with
    | nil => exact List.forall_mem_nil _
    | cons hb _ ih => exact List.forall_mem_cons.mpr ⟨⟨_, hb⟩, ih⟩
  · intro h
    induction row with
    | nil => exact ⟨[], rfl⟩
    | cons a row ih =>
      obtain ⟨⟨b, hb⟩, hrow⟩ := List.forall_mem_cons.mp h
      obtain ⟨bs, hbs⟩ := ih hrow
      exact ⟨b :: bs, mapM_eq_ok_iff.mpr (.cons hb (mapM_eq_ok_iff.mp hbs))⟩

/-- Every result of a row is that of one of its elements. -/
theorem exists_of_mem_mapM {row : List α} {bs : List β} {b : β} (h : row.mapM f = .ok bs)
    (hb : b ∈ bs) : ∃ a ∈ row, f a = .ok b := by
  have hall := mapM_eq_ok_iff.mp h
  clear h
  induction hall with
  | nil => cases hb
  | cons hfirst _ ih =>
    rcases List.mem_cons.mp hb with rfl | hrest
    · exact ⟨_, List.mem_cons_self .., hfirst⟩
    · obtain ⟨a, ha, hab⟩ := ih hrest
      exact ⟨a, List.mem_cons_of_mem _ ha, hab⟩

theorem mapM_eq_error_of_append {as : List α} {a : α} {bs : List α} {e : ε}
    (has : ∀ b ∈ as, ∃ c, f b = .ok c) (ha : f a = .error e) :
    (as ++ a :: bs).mapM f = .error e := by
  induction as with
  | nil =>
    rw [List.nil_append, List.mapM_cons, ha]
    rfl
  | cons b as ih =>
    obtain ⟨⟨c, hc⟩, has⟩ := List.forall_mem_cons.mp has
    rw [List.cons_append, List.mapM_cons, hc]
    show Except.bind ((as ++ a :: bs).mapM f) _ = _
    rw [ih has]
    rfl

/-- A row of computations fails as the first one that fails. -/
theorem mapM_eq_error_iff {row : List α} {e : ε} :
    row.mapM f = .error e ↔
      ∃ as a bs, row = as ++ a :: bs ∧ (∀ b ∈ as, ∃ c, f b = .ok c) ∧ f a = .error e := by
  constructor
  · intro h
    induction row with
    | nil =>
      rw [List.mapM_nil] at h
      cases h
    | cons a row ih =>
      rw [List.mapM_cons] at h
      cases ha : f a with
      | error e' =>
        rw [ha] at h
        cases h
        exact ⟨[], a, row, rfl, List.forall_mem_nil _, ha⟩
      | ok c =>
        rw [ha] at h
        cases hrow : row.mapM f with
        | ok cs =>
          rw [hrow] at h
          cases h
        | error e' =>
          rw [hrow] at h
          cases h
          obtain ⟨as, b, bs, rfl, has, hb⟩ := ih hrow
          exact ⟨a :: as, b, bs, rfl, List.forall_mem_cons.mpr ⟨⟨c, ha⟩, has⟩, hb⟩
  · rintro ⟨as, a, bs, rfl, has, ha⟩
    exact mapM_eq_error_of_append has ha

end Calculator
