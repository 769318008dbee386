namespace MeshTalk.Library

/-! # Lines of a stream

A stream arrives in pieces and is cut at a separator.  What follows the last
separator waits for the next piece, so that it does not matter where the pieces end.
-/

variable [DecidableEq α] {separator : α} {text more line : List α}

/-- The complete lines, and what follows the last separator. -/
def cut (separator : α) : List α → List (List α) × List α
  | [] => ([], [])
  | item :: rest =>
      if item = separator then ([] :: (cut separator rest).1, (cut separator rest).2)
      else match (cut separator rest).1 with
        | [] => ([], item :: (cut separator rest).2)
        | line :: lines => ((item :: line) :: lines, (cut separator rest).2)

theorem cut_separator {rest : List α} :
    cut separator (separator :: rest) = ([] :: (cut separator rest).1, (cut separator rest).2) := if_pos rfl

theorem cut_of_none {item : α} {rest : List α} (other : item ≠ separator) (none : (cut separator rest).1 = []) :
    cut separator (item :: rest) = ([], item :: (cut separator rest).2) := by
  simp only [cut, if_neg other, none]

theorem cut_of_some {item : α} {rest : List α} {lines : List (List α)} (other : item ≠ separator)
    (some : (cut separator rest).1 = line :: lines) :
    cut separator (item :: rest) = ((item :: line) :: lines, (cut separator rest).2) := by
  simp only [cut, if_neg other, some]

/-- The rest of one piece is the beginning of the next. -/
theorem cut_append : cut separator (text ++ more) =
    ((cut separator text).1 ++ (cut separator ((cut separator text).2 ++ more)).1,
      (cut separator ((cut separator text).2 ++ more)).2) := by
  induction text with
  | nil => rfl
  | cons item rest ih =>
      by_cases same : item = separator
      · subst same
        rw [List.cons_append, cut_separator, cut_separator, ih]
        rfl
      · cases lines : (cut separator rest).1 with
        | nil =>
            rw [lines, List.nil_append] at ih
            rw [List.cons_append, cut_of_none same lines, List.cons_append, List.nil_append, cut, cut, if_neg same, if_neg same, ih]
        | cons first others =>
            have longer : (cut separator (rest ++ more)).1 =
                first :: (others ++ (cut separator ((cut separator rest).2 ++ more)).1) := by
              rw [ih, lines]
              rfl
            rw [List.cons_append, cut_of_some same longer, cut_of_some same lines, ih]
            rfl

/-- What a reader of lines has when another piece has come. -/
def feed (separator : α) (handle : σ → List α → σ) (reader : List α × σ) (piece : List α) : List α × σ :=
  ((cut separator (reader.1 ++ piece)).2, (cut separator (reader.1 ++ piece)).1.foldl handle reader.2)

variable {handle : σ → List α → σ} {reader : List α × σ}

/-- Where a piece ends makes no difference. -/
theorem feed_append {piece next : List α} : feed separator handle (feed separator handle reader piece) next =
    feed separator handle reader (piece ++ next) := by
  simp only [feed, ← List.append_assoc]
  rw [@cut_append _ _ separator (reader.1 ++ piece) next, List.foldl_append]

end MeshTalk.Library
