/-!
# Splitting texts

`splitBy` cuts a text at every character of a class, so that `n` cuts give `n + 1` parts, empty ones
included. `lines` cuts after line feeds: a carriage return just before a line feed belongs to the
line's end, and a text that ends in a line feed has no further empty line.
-/

namespace HidAccess.Text

def splitBy (cut : Char → Bool) : List Char → List (List Char)
  | [] => [[]]
  | c :: cs =>
    if cut c then [] :: splitBy cut cs
    else match splitBy cut cs with
      | [] => [[c]]
      | part :: parts => (c :: part) :: parts

def splitAt (sep : Char) (cs : List Char) : List (List Char) := splitBy (· == sep) cs

def splitFirst? (sep : Char) : List Char → Option (List Char × List Char)
  | [] => none
  | c :: cs =>
    if c == sep then some ([], cs)
    else (splitFirst? sep cs).map fun (before, after) => (c :: before, after)

/-- A line without the carriage return that precedes its line feed. -/
def dropReturn : List Char → List Char
  | [] => []
  | ['\r'] => []
  | c :: cs => c :: dropReturn cs

/-- The lines among the parts between line feeds: the last part had no line feed after it. -/
def closeLines : List (List Char) → List (List Char)
  | [] => []
  | [last] => if last.isEmpty then [] else [last]
  | part :: parts => dropReturn part :: closeLines parts

def lines (cs : List Char) : List (List Char) := closeLines (splitAt '\n' cs)

def dropStart? : (start cs : List Char) → Option (List Char)
  | [], cs => some cs
  | _ :: _, [] => none
  | s :: start, c :: cs => if s == c then dropStart? start cs else none

def dropStarts (start : List Char) (cs : List Char) : List Char :=
  go cs.length cs
where
  go : Nat → List Char → List Char
    | 0, cs => cs
    | fuel + 1, cs =>
      match dropStart? start cs with
      | some rest => if start.isEmpty then cs else go fuel rest
      | none => cs

theorem splitBy_ne_nil (cut : Char → Bool) (cs : List Char) : splitBy cut cs ≠ [] := by
  cases cs with
  | nil => simp [splitBy]
  | cons c cs =>
    rw [splitBy]
    split
    · simp
    · split <;> simp

theorem splitAt_of_not_mem {sep : Char} {cs : List Char} (h : sep ∉ cs) : splitAt sep cs = [cs] := by
  induction cs with
  | nil => rfl
  | cons c cs ih =>
    rw [List.mem_cons, not_or] at h
    have hc : (c == sep) = false := beq_false_of_ne (Ne.symm h.1)
    have hcs : splitBy (· == sep) cs = [cs] := ih h.2
    simp [splitAt, splitBy, hc, hcs]

theorem splitAt_append_cons {sep : Char} {cs : List Char} (h : sep ∉ cs) (rest : List Char) :
    splitAt sep (cs ++ sep :: rest) = cs :: splitAt sep rest := by
  induction cs with
  | nil => simp [splitAt, splitBy]
  | cons c cs ih =>
    rw [List.mem_cons, not_or] at h
    have hc : (c == sep) = false := beq_false_of_ne (Ne.symm h.1)
    have hcs : splitBy (· == sep) (cs ++ sep :: rest) = cs :: splitBy (· == sep) rest := ih h.2
    simp [splitAt, splitBy, hc, hcs]

theorem dropStart?_append (start cs : List Char) : dropStart? start (start ++ cs) = some cs := by
  induction start with
  | nil => rfl
  | cons s start ih => simpa [dropStart?] using ih

theorem dropStart?_of_head {s : Char} {start cs : List Char} (h : s ∉ cs) :
    dropStart? (s :: start) cs = none := by
  cases cs with
  | nil => rfl
  | cons c cs =>
    have hc : (s == c) = false := by
      apply beq_false_of_ne
      rintro rfl
      exact h List.mem_cons_self
    simp [dropStart?, hc]

theorem dropStarts_go_of_none {start cs : List Char} (h : dropStart? start cs = none) (fuel : Nat) :
    dropStarts.go start fuel cs = cs := by
  cases fuel with
  | zero => rfl
  | succ fuel => simp [dropStarts.go, h]

theorem dropStarts_append {s : Char} {start cs : List Char} (h : dropStart? (s :: start) cs = none) :
    dropStarts (s :: start) (s :: start ++ cs) = cs := by
  rw [dropStarts, List.cons_append, List.length_cons, dropStarts.go, ← List.cons_append,
    dropStart?_append]
  exact dropStarts_go_of_none h _

theorem dropStart?_eq_some {start cs rest : List Char} (h : dropStart? start cs = some rest) :
    cs = start ++ rest := by
  induction start generalizing cs with
  | nil => simpa [dropStart?] using h
  | cons s start ih =>
    cases cs with
    | nil => simp [dropStart?] at h
    | cons c cs =>
      simp only [dropStart?] at h
      split at h
      · next hsc => rw [ih h, ← eq_of_beq hsc, List.cons_append]
      · simp at h

end HidAccess.Text
