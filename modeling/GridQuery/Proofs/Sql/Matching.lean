import Mathlib.Data.List.Infix

/-! Patterns with wildcards, as databases match texts with them, and the texts that fit a pattern
between two wildcards. -/
namespace GridQuery.Sql

/-- Whether a text fits a pattern, in which a percent sign stands for any run of characters, an
underscore for any one character, and every other character for itself. -/
def isLike : List Char → List Char → Bool
  | [], text => text.isEmpty
  | '%' :: rest, text => text.tails.any (isLike rest)
  | _ :: _, [] => false
  | mark :: rest, c :: later => (mark = '_' ∨ mark = c) && isLike rest later

theorem isLike_nil_iff {text : List Char} : isLike [] text = true ↔ text = [] :=
  List.isEmpty_iff

theorem isLike_run_iff {rest text : List Char} :
    isLike ('%' :: rest) text = true ↔
      ∃ skipped later, text = skipped ++ later ∧ isLike rest later = true := by
  simp only [isLike, List.any_eq_true, List.mem_tails]
  constructor
  · rintro ⟨later, ⟨skipped, whole⟩, fits⟩
    exact ⟨skipped, later, whole.symm, fits⟩
  · rintro ⟨skipped, later, whole, fits⟩
    exact ⟨later, ⟨skipped, whole.symm⟩, fits⟩

theorem isLike_cons_iff {mark : Char} (single : mark ≠ '%') {rest text : List Char} :
    isLike (mark :: rest) text = true ↔
      ∃ c later, text = c :: later ∧ (mark = '_' ∨ mark = c) ∧ isLike rest later = true := by
  cases text with
  | nil => simp [isLike]
  | cons c later => simp [isLike]

/-- A text fits two patterns, one behind the other, if it parts into texts that fit them. -/
theorem isLike_append_iff {first second text : List Char} :
    isLike (first ++ second) text = true ↔
      ∃ front back, text = front ++ back ∧ isLike first front = true ∧
        isLike second back = true := by
  induction first generalizing text with
  | nil =>
    constructor
    · intro fits
      exact ⟨[], text, rfl, rfl, fits⟩
    · rintro ⟨front, back, rfl, empty, fits⟩
      rw [isLike_nil_iff.mp empty]
      exact fits
  | cons mark rest ih =>
    by_cases run : mark = '%'
    · subst run
      rw [List.cons_append, isLike_run_iff]
      constructor
      · rintro ⟨skipped, later, rfl, fits⟩
        obtain ⟨front, back, rfl, fitsRest, fitsSecond⟩ := ih.mp fits
        refine ⟨skipped ++ front, back, by simp, ?_, fitsSecond⟩
        exact isLike_run_iff.mpr ⟨skipped, front, rfl, fitsRest⟩
      · rintro ⟨front, back, rfl, fitsFirst, fitsSecond⟩
        obtain ⟨skipped, later, rfl, fitsRest⟩ := isLike_run_iff.mp fitsFirst
        exact ⟨skipped, later ++ back, by simp, ih.mpr ⟨later, back, rfl, fitsRest, fitsSecond⟩⟩
    · rw [List.cons_append, isLike_cons_iff run]
      constructor
      · rintro ⟨c, later, rfl, same, fits⟩
        obtain ⟨front, back, rfl, fitsRest, fitsSecond⟩ := ih.mp fits
        refine ⟨c :: front, back, rfl, ?_, fitsSecond⟩
        exact (isLike_cons_iff run).mpr ⟨c, front, rfl, same, fitsRest⟩
      · rintro ⟨front, back, rfl, fitsFirst, fitsSecond⟩
        obtain ⟨c, later, rfl, same, fitsRest⟩ := (isLike_cons_iff run).mp fitsFirst
        exact ⟨c, later ++ back, rfl, same, ih.mpr ⟨later, back, rfl, fitsRest, fitsSecond⟩⟩

theorem isLike_run (text : List Char) : isLike ['%'] text = true :=
  isLike_run_iff.mpr ⟨text, [], by simp, rfl⟩

/-- Every text fits itself, for a wildcard stands for its own sign among others. -/
theorem isLike_self (text : List Char) : isLike text text = true := by
  induction text with
  | nil => rfl
  | cons c rest ih =>
    by_cases run : c = '%'
    · subst run
      exact isLike_run_iff.mpr ⟨['%'], rest, rfl, ih⟩
    · exact (isLike_cons_iff run).mpr ⟨c, rest, rfl, .inr rfl, ih⟩

/-- Without wildcards a pattern is fit by itself alone. -/
theorem isLike_iff_eq {pattern : List Char} (plain : ∀ c ∈ pattern, c ≠ '%' ∧ c ≠ '_')
    {text : List Char} : isLike pattern text = true ↔ text = pattern := by
  refine ⟨fun fits => ?_, fun same => same ▸ isLike_self text⟩
  induction pattern generalizing text with
  | nil => exact isLike_nil_iff.mp fits
  | cons mark rest ih =>
    obtain ⟨⟨single, literal⟩, others⟩ := List.forall_mem_cons.mp plain
    obtain ⟨c, later, rfl, same, fitsRest⟩ := (isLike_cons_iff single).mp fits
    rw [same.resolve_left literal, ih others fitsRest]

/-- Between two wildcards a pattern is fit by the texts that hold one that fits it. -/
theorem isLike_between_runs_iff {pattern text : List Char} :
    isLike ('%' :: (pattern ++ ['%'])) text = true ↔
      ∃ held, held <:+: text ∧ isLike pattern held = true := by
  rw [isLike_run_iff]
  constructor
  · rintro ⟨skipped, later, rfl, fits⟩
    obtain ⟨held, rest, rfl, fitsPattern, _⟩ := isLike_append_iff.mp fits
    exact ⟨held, ⟨skipped, rest, by simp⟩, fitsPattern⟩
  · rintro ⟨held, ⟨skipped, rest, rfl⟩, fits⟩
    refine ⟨skipped, held ++ rest, by simp, ?_⟩
    exact isLike_append_iff.mpr ⟨held, rest, rfl, fits, isLike_run rest⟩

end GridQuery.Sql
