import Mathlib.Data.List.Basic
/-!
# Texts

A text is a list of symbols. It is cut at the first occurrence of a separator,
or into the lines before each line end.
-/
namespace Text
variable {α : Type*} [DecidableEq α]

/-- The text without `suffix` at its end. -/
def trimSuffix (suffix s : List α) : List α :=
  if suffix.isSuffixOf s then s.take (s.length - suffix.length) else s

/-- What stands before and after the first occurrence of `sep`. -/
def cut (sep : List α) : List α → Option (List α × List α)
  | [] => if sep = [] then some ([], []) else none
  | c :: s =>
    if sep.isPrefixOf (c :: s) then some ([], (c :: s).drop sep.length)
    else (cut sep s).map fun r => (c :: r.1, r.2)

def contains (sep s : List α) : Bool := (cut sep s).isSome

def substringBefore (sep s : List α) : List α := match cut sep s with
  | some r => r.1
  | none => s

def substringAfter (sep s : List α) : List α := match cut sep s with
  | some r => r.2
  | none => s

/-- The lines of a text. Nothing after the last line end is no line. -/
def splitLines (lineEnd : α) : List α → List (List α)
  | [] => []
  | c :: s =>
    if c = lineEnd then [] :: splitLines lineEnd s
    else match splitLines lineEnd s with
      | [] => [[c]]
      | l :: ls => (c :: l) :: ls

end Text
