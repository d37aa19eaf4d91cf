/-!
Splitting text at a separator. There is always at least one piece, no piece holds the
separator, and putting the separator back between the pieces gives the text again.
-/

namespace SqlDialects.Text

def splitAt (separator : Char) : List Char → List (List Char)
  | [] => [[]]
  | character :: rest =>
      if character = separator then [] :: splitAt separator rest
      else
        match splitAt separator rest with
        | [] => [[character]]
        | piece :: pieces => (character :: piece) :: pieces

theorem splitAt_ne_nil (separator : Char) : ∀ text, splitAt separator text ≠ []
  | [] => by simp [splitAt]
  | character :: rest => by
      simp only [splitAt]
      split
      · simp
      · split <;> simp

theorem intercalate_splitAt (separator : Char) (text : List Char) :
    [separator].intercalate (splitAt separator text) = text := by
  induction text with
  | nil => simp [splitAt]
  | cons character rest ih =>
      simp only [splitAt]
      have someSplit := splitAt_ne_nil separator rest
      split
      · next same =>
          subst same
          cases pieces : splitAt character rest with
          | nil => exact absurd pieces someSplit
          | cons piece others =>
              rw [pieces] at ih
              simp [List.intercalate_cons_cons, ih]
      · cases pieces : splitAt separator rest with
        | nil => exact absurd pieces someSplit
        | cons piece others =>
            rw [pieces] at ih
            cases others with
            | nil => simpa using ih
            | cons next others =>
                simp only [List.intercalate_cons_cons, List.cons_append] at ih ⊢
                rw [ih]

theorem separator_not_mem_of_mem_splitAt (separator : Char) (text : List Char) :
    ∀ piece ∈ splitAt separator text, separator ∉ piece := by
  induction text with
  | nil => simp [splitAt]
  | cons character rest ih =>
      simp only [splitAt]
      split
      · simpa using ih
      · next different =>
          cases pieces : splitAt separator rest with
          | nil => simpa using fun same => different same.symm
          | cons piece others =>
              rw [pieces] at ih
              intro candidate member
              rcases List.mem_cons.mp member with same | later
              · subst same
                simp only [List.mem_cons, not_or]
                exact ⟨fun same => different same.symm, ih piece (by simp)⟩
              · exact ih candidate (by simp [later])

theorem splitAt_eq_splitOn (separator : Char) (text : List Char) :
    splitAt separator text = text.splitOn separator := by
  have split := List.splitOn_intercalate separator
    (separator_not_mem_of_mem_splitAt separator text) (splitAt_ne_nil separator text)
  rw [intercalate_splitAt] at split
  exact split.symm

def pieces (separator : Char) (text : String) : List String :=
  (splitAt separator text.toList).map String.ofList

end SqlDialects.Text
