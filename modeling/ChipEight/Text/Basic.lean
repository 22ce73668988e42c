/-
# ChipEight.Text.Basic -- text as a list of characters

Every reader and printer of the library works on `Text`, the list of the characters of a text in
reading order, so that all of them are functions by recursion on that list.

Two ways to take text apart live here, and they differ on purpose:

* `splitOn` keeps every piece between two separators, the empty ones too, so there is always one
  piece more than there are separators;
* `cut` looks at the first separator only.

`joinWith` is the way back: `joinWith_splitOn` says that nothing but the separators is taken away.
-/

namespace ChipEight

/-- The characters of a text in reading order. -/
abbrev Text := List Char

namespace Text

/-! ## Taking text apart -/

/-- The pieces between the separators, empty pieces included. -/
def splitOn (sep : Char) : Text → List Text
  | [] => [[]]
  | c :: cs =>
    if c = sep then [] :: splitOn sep cs
    else match splitOn sep cs with
      | [] => [[c]]
      | piece :: pieces => (c :: piece) :: pieces

/-- The text before the first separator, and the text after it if there is a separator. -/
def cut (sep : Char) : Text → Text × Option Text
  | [] => ([], none)
  | c :: cs =>
    if c = sep then ([], some cs)
    else ((c :: (cut sep cs).1), (cut sep cs).2)

/-- What follows `start`, if the text starts with it. -/
def after? : (start : Text) → Text → Option Text
  | [], s => some s
  | _ :: _, [] => none
  | p :: ps, c :: cs => if p = c then after? ps cs else none

/-! ## Putting text together -/

/-- The texts one after another, with `sep` between neighbours. -/
def joinWith (sep : Text) : List Text → Text
  | [] => []
  | [t] => t
  | t :: u :: ts => t ++ sep ++ joinWith sep (u :: ts)

/-- One text, each of `lines` ended by a line feed. -/
def unlines (lines : List Text) : Text :=
  lines.flatMap fun line => line ++ ['\n']

/-- The text with blanks added behind it until it has `width` characters. -/
def padRight (width : Nat) (s : Text) : Text :=
  s ++ List.replicate (width - s.length) ' '

/-- The text with zeros put before it until it has `width` characters. -/
def zeroPad (width : Nat) (s : Text) : Text :=
  List.replicate (width - s.length) '0' ++ s

/-! ## Small facts -/

theorem splitOn_ne_nil (sep : Char) (s : Text) : splitOn sep s ≠ [] := by
  cases s with
  | nil => simp [splitOn]
  | cons c cs =>
    unfold splitOn
    split
    · simp
    · split <;> simp

theorem joinWith_cons (sep t : Text) {ts : List Text} (h : ts ≠ []) :
    joinWith sep (t :: ts) = t ++ sep ++ joinWith sep ts := by
  cases ts with
  | nil => exact absurd rfl h
  | cons u us => rfl

/-- Splitting takes away the separators and nothing else. -/
theorem joinWith_splitOn (sep : Char) (s : Text) : joinWith [sep] (splitOn sep s) = s := by
  induction s with
  | nil => rfl
  | cons c cs ih =>
    unfold splitOn
    split
    · rename_i h
      rw [joinWith_cons _ _ (splitOn_ne_nil sep cs), ih, h]
      rfl
    · split
      · rename_i h
        exact absurd h (splitOn_ne_nil sep cs)
      · rename_i piece pieces h
        rw [h] at ih
        cases pieces with
        | nil => simpa [joinWith] using ih
        | cons u us => simpa [joinWith] using ih

/-- A piece never holds the separator. -/
theorem not_mem_of_mem_splitOn {sep : Char} {s piece : Text} (h : piece ∈ splitOn sep s) :
    sep ∉ piece := by
  induction s generalizing piece with
  | nil =>
    simp only [splitOn, List.mem_singleton] at h
    simp [h]
  | cons c cs ih =>
    unfold splitOn at h
    split at h
    · rcases List.mem_cons.mp h with rfl | h
      · simp
      · exact ih h
    · rename_i hc
      split at h
      · simp only [List.mem_singleton] at h
        subst h
        simpa using Ne.symm hc
      · rename_i p ps hs
        rcases List.mem_cons.mp h with rfl | h
        · have := ih (hs ▸ List.mem_cons_self)
          simp [this, Ne.symm hc]
        · exact ih (hs ▸ List.mem_cons_of_mem p h)

@[simp] theorem length_padRight (width : Nat) (s : Text) :
    (padRight width s).length = max width s.length := by
  simp only [padRight, List.length_append, List.length_replicate]
  omega

@[simp] theorem length_zeroPad (width : Nat) (s : Text) :
    (zeroPad width s).length = max width s.length := by
  simp only [zeroPad, List.length_append, List.length_replicate]
  omega

end Text

end ChipEight
