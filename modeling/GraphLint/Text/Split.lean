import GraphLint.Text.Blank
/-! # Splitting a text

A text is cut at every occurrence of one character, so it has one part more than it has occurrences.
Joining the parts again loses nothing. -/
namespace GraphLint.Text

/-- The parts of a text between occurrences of a separator. -/
def splitAt (separator : Char) : Text → List Text
  | [] => [[]]
  | c :: t =>
    if c = separator then [] :: splitAt separator t
    else
      match splitAt separator t with
      | [] => [[c]]
      | part :: rest => (c :: part) :: rest

/-- The text that has these parts. -/
def joinWith (separator : Char) : List Text → Text
  | [] => []
  | [part] => part
  | part :: rest => part ++ separator :: joinWith separator rest

theorem splitAt_ne_nil (separator : Char) (t : Text) : splitAt separator t ≠ [] := by
  cases t with
  | nil => simp [splitAt]
  | cons c t =>
    rw [splitAt]
    split
    · simp
    · split <;> simp

/-- Cutting a text loses nothing. -/
theorem joinWith_splitAt (separator : Char) (t : Text) :
    joinWith separator (splitAt separator t) = t := by
  induction t with
  | nil => rfl
  | cons c t ih =>
    rw [splitAt]
    split
    · rename_i hc
      cases h : splitAt separator t with
      | nil => exact absurd h (splitAt_ne_nil separator t)
      | cons part rest =>
        rw [h] at ih
        simp [joinWith, hc, ih]
    · cases h : splitAt separator t with
      | nil => exact absurd h (splitAt_ne_nil separator t)
      | cons part rest =>
        rw [h] at ih
        cases rest with
        | nil => simpa [joinWith] using ih
        | cons next rest =>
          simp only [joinWith] at ih ⊢
          rw [← ih]
          rfl

end GraphLint.Text
