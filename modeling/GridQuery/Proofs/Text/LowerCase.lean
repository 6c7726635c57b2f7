import GridQuery.Text.CaseMap

/-! Lower case brings in no control characters: one that stands in the lower case of a text has
stood in the text. -/
namespace GridQuery.Text

/-- The control characters, null apart. -/
def IsControl (c : Char) : Prop := 0 < c.toNat ∧ c.toNat < 0x20

instance : DecidablePred IsControl := fun c =>
  inferInstanceAs (Decidable (0 < c.toNat ∧ c.toNat < 0x20))

theorem IsControl.ne_ofNat {c : Char} (control : IsControl c) {point : Nat}
    (printed : 0x20 ≤ point) : c ≠ Char.ofNat point := by
  rintro rfl
  obtain ⟨positive, small⟩ := control
  unfold Char.ofNat at positive small
  by_cases valid : point.isValidChar
  · rw [dif_pos valid] at small
    exact absurd printed (Nat.not_le.mpr small)
  · -- A number that is no code point makes a null character.
    rw [dif_neg valid] at positive
    exact absurd positive (Nat.lt_irrefl 0)

theorem printed_of_mem_lowerExpansions :
    ∀ entry ∈ lowerExpansions, ∀ point ∈ entry.2, 0x20 ≤ point := by
  decide

theorem printed_of_mem_lowerRuns :
    ∀ run ∈ lowerRuns, (0x20 : Int) ≤ run.first + run.shift := by
  decide +kernel

theorem CaseRun.le_of_image? {run : CaseRun} {point image : Nat}
    (maps : run.image? point = some image) : (run.first + run.shift : Int) ≤ image := by
  rw [image?] at maps
  split at maps
  next inside =>
    cases maps
    omega
  next => cases maps

theorem toLower_eq_of_isControl {c : Char} (control : IsControl c.toLower) : c.toLower = c := by
  unfold Char.toLower at control ⊢
  split at control
  next upper =>
    have last : c.val.toNat ≤ 'Z'.toNat := UInt32.le_iff_toNat_le.mp upper.2
    have within : c.val.toNat + 0x20 < 2 ^ 32 :=
      Nat.lt_of_le_of_lt (Nat.add_le_add_right last _) (by decide)
    have shifted : (c.val + 0x20).toNat = c.val.toNat + 0x20 := by
      rw [UInt32.toNat_add]
      exact Nat.mod_eq_of_lt within
    have small : (c.val + 0x20).toNat < 0x20 := control.2
    omega
  next other => rw [dif_neg other]

theorem eq_of_mem_lowerChar {c d : Char} (control : IsControl c) (member : c ∈ lowerChar d) :
    c = d := by
  rw [lowerChar] at member
  split at member
  · have same := List.mem_singleton.mp member
    rw [same, toLower_eq_of_isControl (same ▸ control)]
  · rw [mapCase] at member
    split at member
    next points found =>
      obtain ⟨point, inPoints, same⟩ := List.mem_map.mp member
      obtain ⟨before, after, whole, _⟩ := List.lookup_eq_some_iff.mp found
      have entry : (d.toNat, points) ∈ lowerExpansions := by simp [whole]
      have printed := printed_of_mem_lowerExpansions _ entry point inPoints
      exact absurd same.symm (control.ne_ofNat printed)
    next =>
      split at member
      next point found =>
        obtain ⟨run, inRuns, maps⟩ := List.exists_of_findSome?_eq_some found
        have printed := printed_of_mem_lowerRuns run inRuns
        have above := CaseRun.le_of_image? maps
        exact absurd (List.mem_singleton.mp member) (control.ne_ofNat (by omega))
      next => exact List.mem_singleton.mp member

theorem mem_of_mem_lowerFrom {c : Char} (control : IsControl c) {text before : List Char}
    (member : c ∈ lowerFrom before text) : c ∈ text := by
  induction text generalizing before with
  | nil => simp [lowerFrom] at member
  | cons d rest ih =>
    rw [lowerFrom] at member
    rcases List.mem_append.mp member with here | later
    · refine List.mem_cons.mpr (.inl ?_)
      split at here
      next =>
        -- Neither form of the small sigma is a control character.
        have small : c = 'ς' ∨ c = 'σ' := by
          split at here
          · exact .inl (List.mem_singleton.mp here)
          · exact .inr (List.mem_singleton.mp here)
        rcases small with rfl | rfl <;> exact absurd control (by decide)
      next => exact eq_of_mem_lowerChar control here
    · exact List.mem_cons_of_mem _ (ih later)

/-- A control character in the lower case of a text stands in the text. -/
theorem mem_of_mem_lowercase {c : Char} (control : IsControl c) {text : String}
    (member : c ∈ (lowercase text).toList) : c ∈ text.toList := by
  rw [lowercase, String.toList_ofList] at member
  exact mem_of_mem_lowerFrom control member

end GridQuery.Text
