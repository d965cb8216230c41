import Mathlib.Data.List.Basic
/-!
# Plugin options

Keys and values stand in one text, with an equals sign after each key and a
semicolon between the pairs. A backslash takes the next byte as it is.
-/
namespace SingBox.Sip003
open Function List

/-- The values of each key, in order. A key that is not in the map has none. -/
abbrev Args := List UInt8 → List (List UInt8)

def Args.add (args : Args) (key value : List UInt8) : Args := update args key (args key ++ [value])

inductive ParseError
  | finalEscape (s : List UInt8)
  | emptyKey

/-- Nothing if the last byte is an escape. -/
def indexLoop (term : List UInt8) : List UInt8 → Option (Nat × List UInt8)
  | [] => some (0, [])
  | b :: s =>
    if b ∈ term then some (0, [])
    else if b = 92 then
      match s with
      | [] => none
      | b :: s => (indexLoop term s).map fun r => (r.1 + 2, b :: r.2)
    else (indexLoop term s).map fun r => (r.1 + 1, b :: r.2)

def indexUnescaped (s term : List UInt8) : Except ParseError (Nat × List UInt8) :=
  match indexLoop term s with
  | some r => .ok r
  | none => .error (.finalEscape s)

/-- The loop, at the rest `s` of the text. -/
def parseLoop (s : List UInt8) (opts : Args) : Except ParseError Args :=
  if _hs : s = [] then .ok opts
  else
    match indexUnescaped s [61, 59] with
    | .error err => .error err
    | .ok (offset, key) =>
      if key = [] then .error .emptyKey
      else if s[offset]? ≠ some 61 then parseLoop (s.drop (offset + 1)) (opts.add key [49])
      else
        match indexUnescaped (s.drop (offset + 1)) [59] with
        | .error err => .error err
        | .ok (offset', value) => parseLoop ((s.drop (offset + 1)).drop (offset' + 1)) (opts.add key value)
termination_by s.length
decreasing_by all_goals
  have := length_pos_iff.2 _hs
  simp only [length_drop]
  omega

def parsePluginOptions (s : List UInt8) : Except ParseError Args := parseLoop s fun _ => []

/-! ## The escaped text -/

def escape (s : List UInt8) : List UInt8 := s.flatMap fun b => if b ∈ [92, 59, 61] then [92, b] else [b]

def write (pairs : List (List UInt8 × List UInt8)) : List UInt8 :=
  [59].intercalate (pairs.map fun p => escape p.1 ++ 61 :: escape p.2)

/-- The scanner reads an escaped text up to the terminator after it. -/
lemma indexUnescaped_escape {term rest : List UInt8} (hterm : term ⊆ [61, 59]) (hrest : ∀ b ∈ rest.head?, b ∈ term)
    (s : List UInt8) : indexUnescaped (escape s ++ rest) term = .ok ((escape s).length, s) := by
  have hloop : indexLoop term (escape s ++ rest) = some ((escape s).length, s) := by
    induction s with
    | nil =>
      cases rest with
      | nil => rfl
      | cons b rest =>
        rw [escape, flatMap_nil, nil_append, indexLoop.eq_def]
        exact if_pos (hrest b rfl)
    | cons b s ih =>
      have hescape : (92 : UInt8) ∉ term := fun h => by simpa using hterm h
      rw [escape, flatMap_cons, ← escape, append_assoc]
      split
      · simp [indexLoop, hescape, ih]
      next hb =>
        have hb' : b ∉ term := fun h => hb (by rcases mem_pair.1 (hterm h) with rfl | rfl <;> simp)
        have hne : b ≠ 92 := fun h => hb (by simp [h])
        rw [singleton_append, indexLoop.eq_def]
        simp [hb', hne, ih]
  rw [indexUnescaped, hloop]

variable (pairs : List (List UInt8 × List UInt8))

lemma write_cons (p : List UInt8 × List UInt8) : ∃ rest, write (p :: pairs) = escape p.1 ++ 61 :: (escape p.2 ++ rest) ∧
    rest.drop 1 = write pairs ∧ ∀ b ∈ rest.head?, b ∈ [59] := by
  cases pairs with
  | nil => exact ⟨[], by simp [write], rfl, by simp⟩
  | cons q pairs => exact ⟨59 :: write (q :: pairs), by simp [write, intercalate], rfl, by simp⟩

lemma parseLoop_write (hkeys : ∀ p ∈ pairs, p.1 ≠ []) (opts : Args) :
    parseLoop (write pairs) opts = .ok (pairs.foldl (fun opts p => opts.add p.1 p.2) opts) := by
  induction pairs generalizing opts with
  | nil =>
    rw [parseLoop]
    rfl
  | cons p pairs ih =>
    obtain ⟨hp, hkeys⟩ := forall_mem_cons.1 hkeys
    obtain ⟨rest, hwrite, hrest, hterm⟩ := write_cons pairs p
    have hvalue : (escape p.1 ++ 61 :: (escape p.2 ++ rest)).drop ((escape p.1).length + 1) = escape p.2 ++ rest := by
      simp [← drop_drop]
    rw [hwrite, parseLoop, dif_neg (by simp), indexUnescaped_escape (Subset.refl _) (by simp)]
    simp only [hp, if_false, getElem?_append_right (Nat.le_refl _), Nat.sub_self, getElem?_cons_zero, ne_eq,
      not_true_eq_false, hvalue, indexUnescaped_escape (subset_cons_self 61 [59]) hterm]
    rw [← drop_drop, drop_left, hrest]
    exact ih hkeys _

lemma foldl_add (opts : Args) (key : List UInt8) :
    pairs.foldl (fun opts p => opts.add p.1 p.2) opts key = opts key ++ (pairs.filter (·.1 = key)).map Prod.snd := by
  induction pairs generalizing opts with
  | nil => simp
  | cons p pairs ih =>
    rw [foldl_cons, ih]
    by_cases hp : p.1 = key
    · simp [hp, Args.add]
    · simp [hp, Args.add, update_of_ne (Ne.symm hp)]

/-- Pairs that are written with escapes are read back: each key has its values in order, and no other key has any. -/
theorem parse_written_options (hkeys : ∀ p ∈ pairs, p.1 ≠ []) : ∃ opts, parsePluginOptions (write pairs) = .ok opts ∧
    ∀ key, opts key = (pairs.filter (·.1 = key)).map Prod.snd :=
  ⟨_, parseLoop_write pairs hkeys _, fun key => (foldl_add pairs _ key).trans (nil_append _)⟩

theorem parse_written_options_twice : ∃ opts, parsePluginOptions (write [([59], []), ([59], [92, 61])]) = .ok opts ∧
    opts [59] = [[], [92, 61]] := by
  obtain ⟨opts, hparse, hopts⟩ := parse_written_options [([59], []), ([59], [92, 61])] (by simp)
  exact ⟨opts, hparse, hopts [59]⟩

end SingBox.Sip003
