import Calculator.Error.Notice

/-!
# The text of a notice

The text of a notice is written down twice at most: when its error is made, and when an excerpt is
added to an error that has a position and none yet.  After that nothing is left to add
(`IsSettled`), and at all times the text is the one that the error would be shown with
(`IsCurrent`).  `notice_kept` puts both together for every error that can be made.
-/

namespace Calculator

namespace Notice

variable {n : Notice}

/-! ### One source -/

/-- Whether the text of a notice is that of its error. -/
def IsCurrent (n : Notice) : Prop :=
  n.text = n.error.text

/-- Whether no source can add anything to a notice. -/
def IsSettled (n : Notice) : Prop :=
  n.error.excerpt.isSome ∨ n.error.pos = none

theorem isCurrent_ofError (e : Error) : (ofError e).IsCurrent :=
  rfl

/-- A notice is settled, or there is a position whose excerpt it is still to be given. -/
theorem isSettled_or (n : Notice) :
    n.IsSettled ∨ ∃ pos, n.error.pos = some pos ∧ n.error.excerpt = none := by
  unfold IsSettled
  cases n.error.excerpt with
  | some excerpt => exact .inl (.inl rfl)
  | none =>
    cases n.error.pos with
    | some pos => exact .inr ⟨pos, rfl, rfl⟩
    | none => exact .inl (.inr rfl)

theorem attachSource_of_isSettled (h : n.IsSettled) (source : String) :
    n.attachSource source = n := by
  unfold attachSource
  split
  next pos hpos hnone => simp [IsSettled, hpos, hnone] at h
  next => rfl

theorem attachSource_of_pos {pos : Nat} (hpos : n.error.pos = some pos)
    (hnone : n.error.excerpt = none) (source : String) :
    n.attachSource source = ofError { n.error with excerpt := some ⟨source, pos⟩ } := by
  unfold attachSource
  rw [hpos, hnone]

/-- A source that is attached to a notice is attached to its error. -/
theorem error_attachSource (n : Notice) (source : String) :
    (n.attachSource source).error = n.error.attachSource source := by
  obtain ⟨⟨cause, pos, excerpt⟩, text⟩ := n
  cases pos <;> cases excerpt <;> rfl

theorem IsCurrent.attachSource (h : n.IsCurrent) (source : String) :
    (n.attachSource source).IsCurrent := by
  rcases n.isSettled_or with hsettled | ⟨pos, hpos, hnone⟩
  · rwa [attachSource_of_isSettled hsettled]
  · rw [attachSource_of_pos hpos hnone]
    exact isCurrent_ofError _

theorem isSettled_attachSource (n : Notice) (source : String) :
    (n.attachSource source).IsSettled := by
  rcases n.isSettled_or with hsettled | ⟨pos, hpos, hnone⟩
  · rwa [attachSource_of_isSettled hsettled]
  · rw [attachSource_of_pos hpos hnone]
    exact .inl rfl

/-- A source changes a notice unless this is settled. -/
theorem attachSource_eq_self_iff (n : Notice) (source : String) :
    n.attachSource source = n ↔ n.IsSettled := by
  constructor
  · intro h
    rw [← h]
    exact n.isSettled_attachSource source
  · exact fun h => attachSource_of_isSettled h source

/-! ### Several sources -/

theorem IsCurrent.attachSources (h : n.IsCurrent) (sources : List String) :
    (n.attachSources sources).IsCurrent := by
  induction sources generalizing n with
  | nil => exact h
  | cons source sources ih => exact ih (h.attachSource source)

theorem attachSources_of_isSettled (h : n.IsSettled) (sources : List String) :
    n.attachSources sources = n := by
  induction sources with
  | nil => rfl
  | cons source sources ih =>
    show (n.attachSource source).attachSources sources = n
    rw [attachSource_of_isSettled h, ih]

/-- Only the first source counts. -/
theorem attachSources_cons (n : Notice) (source : String) (sources : List String) :
    n.attachSources (source :: sources) = n.attachSource source :=
  attachSources_of_isSettled (n.isSettled_attachSource source) sources

/-- A notice is settled with its first source, if it is not settled before. -/
theorem isSettled_attachSources_iff (n : Notice) (sources : List String) :
    (n.attachSources sources).IsSettled ↔ sources ≠ [] ∨ n.IsSettled := by
  cases sources with
  | nil => simp [attachSources]
  | cons source sources =>
    rw [attachSources_cons]
    exact iff_of_true (n.isSettled_attachSource source) (.inl (List.cons_ne_nil _ _))

/-- The error is left as it was made, but for the excerpt of the first source at its position. -/
theorem error_attachSources (n : Notice) (sources : List String) :
    (n.attachSources sources).error =
      { n.error with
        excerpt := n.error.excerpt.or
          (n.error.pos.bind fun pos => sources.head?.map (⟨·, pos⟩)) } := by
  cases sources with
  | nil => simp [attachSources]
  | cons source sources =>
    rw [attachSources_cons, error_attachSource]
    obtain ⟨⟨cause, pos, excerpt⟩, text⟩ := n
    cases pos <;> cases excerpt <;> rfl

/-- **A notice is kept up to date**: whatever error is made, and whatever sources are attached to
its notice one after the other, the error has the excerpt that it was made with, or else the one of
the first source at its position, if it has a position and there is a source; its cause with the
message and the detail, and its position are those it was made with; and the text that is written
down is the message, followed by the excerpt in a line of its own if there is one.  Only the first
source can change the notice, and it does so unless there is an excerpt already or no position. -/
theorem notice_kept (m : Error.Making) (sources : List String) :
    let n := (ofError m.error).attachSources sources
    n.error.excerpt = m.error.excerpt.or
        (m.error.pos.bind fun pos => sources.head?.map (⟨·, pos⟩)) ∧
      n.error.cause = m.error.cause ∧ n.error.message = m.error.message ∧
      n.error.cause.detail = m.error.cause.detail ∧ n.error.pos = m.error.pos ∧
      n.text = (match n.error.excerpt with
        | none => m.error.message
        | some excerpt => m.error.message ++ "\n" ++ excerpt.format) ∧
      ∀ source, n.attachSource source = n ↔
        sources ≠ [] ∨ m.error.excerpt.isSome ∨ m.error.pos = none := by
  intro n
  have herror : n.error = { m.error with
      excerpt := m.error.excerpt.or
        (m.error.pos.bind fun pos => sources.head?.map (⟨·, pos⟩)) } :=
    error_attachSources (ofError m.error) sources
  have hcause : n.error.cause = m.error.cause := by rw [herror]
  have hmessage : n.error.message = m.error.message := congrArg Error.Cause.message hcause
  refine ⟨by rw [herror], hcause, hmessage, by rw [hcause], by rw [herror], ?_, fun source => ?_⟩
  · have hcurrent : n.text = n.error.text := (isCurrent_ofError m.error).attachSources sources
    rw [hcurrent, Error.text, hmessage]
    cases n.error.excerpt <;> rfl
  · exact (n.attachSource_eq_self_iff source).trans (isSettled_attachSources_iff _ sources)

end Notice

end Calculator
