import Mathlib.Data.List.Perm.Subperm
/-!
# Which outbounds are alive

`aliveForTestURL` searches the outbounds a group leads to. The map of checked
tags is never unmarked: what a failed branch has marked leads to nothing alive
but through marked outbounds.
-/
namespace SingBox.Alive
open List

inductive Outbound where
  | loadBalance (all : List String)
  | group (selected : Option String)
  | single

/-- The outbounds by tag, those the manager has, and those with a stored test result. -/
structure Net where
  outbound : String → Outbound
  loaded : String → Bool
  history : String → Bool

section Code
variable (net : Net)

/-- The loop over the members of a load-balance group, with the tags checked so far; `none` at the end of the depth. -/
def anyAlive (alive : List String → String → Option (Bool × List String)) :
    List String → List String → Option (Bool × List String)
  | [], checked => some (false, checked)
  | tag :: rest, checked =>
    match alive checked tag with
    | some (false, checked) => anyAlive alive rest checked
    | found => found

def aliveForTestURL : Nat → List String → String → Option (Bool × List String)
  | 0, _, _ => none
  | depth + 1, checked, tag =>
    if tag ∈ checked then some (false, checked)
    else
      match net.outbound tag with
      | .loadBalance all => anyAlive (aliveForTestURL depth) (all.filter net.loaded) (tag :: checked)
      | .group selected => anyAlive (aliveForTestURL depth) selected.toList (tag :: checked)
      | .single => some (net.history tag, tag :: checked)

def Net.members (tag : String) : List String :=
  match net.outbound tag with
  | .loadBalance all => all.filter net.loaded
  | .group selected => selected.toList
  | .single => []

def Net.Live (tag : String) : Prop := net.outbound tag = .single ∧ net.history tag = true

abbrev Net.Reaches : String → String → Prop := Relation.ReflTransGen fun a b => b ∈ net.members a

end Code

variable {net : Net} {tags checked : List String}

/-- What a search leaves: with an answer yes, something alive in reach; with a no, marked outbounds that are not
alive and lead to marked ones only. -/
structure Searched (net : Net) (tags checked targets : List String) (b : Bool) (checked' : List String) : Prop where
  nodup : checked'.Nodup
  subset : checked' ⊆ tags
  grown : checked ⊆ checked'
  found : b = true → ∃ tag ∈ targets, ∃ leaf, net.Reaches tag leaf ∧ net.Live leaf
  marked : b = false → targets ⊆ checked'
  closed : b = false → ∀ x ∈ checked', x ∈ checked ∨ ¬ net.Live x ∧ net.members x ⊆ checked'

lemma anyAlive_searched {alive : List String → String → Option (Bool × List String)} {n : Nat}
    (halive : ∀ checked tag, checked.Nodup → checked ⊆ tags → n ≤ checked.length → tag ∈ tags →
      ∃ b checked', alive checked tag = some (b, checked') ∧ Searched net tags checked [tag] b checked')
    {targets : List String} (htargets : targets ⊆ tags) (hnodup : checked.Nodup) (hsub : checked ⊆ tags)
    (hn : n ≤ checked.length) :
    ∃ b checked', anyAlive alive targets checked = some (b, checked') ∧
      Searched net tags checked targets b checked' := by
  induction targets generalizing checked with
  | nil => exact ⟨false, checked, rfl, hnodup, hsub, List.Subset.refl _, nofun, by simp, fun _ x hx => .inl hx⟩
  | cons tag targets ih =>
    obtain ⟨htag, htargets⟩ := cons_subset.1 htargets
    obtain ⟨b, mid, hmid, h⟩ := halive checked tag hnodup hsub hn htag
    cases b with
    | true =>
      obtain ⟨_, ht, hleaf⟩ := h.found rfl
      rw [mem_singleton.1 ht] at hleaf
      exact ⟨true, mid, by rw [anyAlive, hmid], h.nodup, h.subset, h.grown,
        fun _ => ⟨tag, mem_cons_self, hleaf⟩, nofun, nofun⟩
    | false =>
      obtain ⟨b, last, hlast, h'⟩ := ih htargets h.nodup h.subset
        (Nat.le_trans hn (hnodup.subperm h.grown).length_le)
      refine ⟨b, last, by rw [anyAlive, hmid]; exact hlast, h'.nodup, h'.subset, List.Subset.trans h.grown h'.grown,
        fun hb => ?_, fun hb => ?_, fun hb x hx => ?_⟩
      · obtain ⟨t, ht, hleaf⟩ := h'.found hb
        exact ⟨t, mem_cons_of_mem _ ht, hleaf⟩
      · exact cons_subset.2 ⟨h'.grown (h.marked rfl mem_cons_self), h'.marked hb⟩
      rcases h'.closed hb x hx with hx | hx
      · exact (h.closed rfl x hx).imp_right fun ⟨hlive, hmembers⟩ => ⟨hlive, List.Subset.trans hmembers h'.grown⟩
      · exact .inr hx

lemma Searched.of_members {tag : String} {b : Bool} {checked' : List String} (hlive : ¬ net.Live tag)
    (h : Searched net tags (tag :: checked) (net.members tag) b checked') :
    Searched net tags checked [tag] b checked' where
  __ := h
  grown := List.Subset.trans (subset_cons_self ..) h.grown
  found hb := by
    obtain ⟨member, hmember, leaf, hreach, hleaf⟩ := h.found hb
    exact ⟨tag, mem_singleton_self _, leaf, hreach.head hmember, hleaf⟩
  marked _ := by simpa using h.grown mem_cons_self
  closed hb x hx := by
    rcases h.closed hb x hx with hx | hx
    · rcases mem_cons.1 hx with rfl | hx
      · exact .inr ⟨hlive, h.marked hb⟩
      · exact .inl hx
    · exact .inr hx

lemma aliveForTestURL_searched (htags : ∀ tag ∈ tags, net.members tag ⊆ tags) {depth : Nat} {tag : String}
    (htag : tag ∈ tags) (hnodup : checked.Nodup) (hsub : checked ⊆ tags) (hdepth : tags.length < depth + checked.length) :
    ∃ b checked', aliveForTestURL net depth checked tag = some (b, checked') ∧
      Searched net tags checked [tag] b checked' := by
  induction depth generalizing checked tag with
  | zero =>
    have := (hnodup.subperm hsub).length_le
    omega
  | succ depth ih =>
    rw [aliveForTestURL]
    split
    next hmem =>
      exact ⟨false, checked, rfl, hnodup, hsub, List.Subset.refl _, nofun, by simpa using hmem, fun _ x hx => .inl hx⟩
    next hmem =>
      have hnodup' : (tag :: checked).Nodup := nodup_cons.2 ⟨hmem, hnodup⟩
      have hsub' : tag :: checked ⊆ tags := cons_subset.2 ⟨htag, hsub⟩
      have hloop (hlive : ¬ net.Live tag) : ∃ b checked', anyAlive (aliveForTestURL net depth) (net.members tag)
          (tag :: checked) = some (b, checked') ∧ Searched net tags checked [tag] b checked' := by
        obtain ⟨b, checked', heq, h⟩ := anyAlive_searched (n := (tag :: checked).length)
          (fun c t hc hcs hn ht => ih ht hc hcs (by simp at hn; omega)) (htags tag htag) hnodup' hsub' (Nat.le_refl _)
        exact ⟨b, checked', heq, h.of_members hlive⟩
      cases hkind : net.outbound tag with
      | loadBalance all => simpa [Net.members, hkind] using hloop (by simp [Net.Live, hkind])
      | group selected => simpa [Net.members, hkind] using hloop (by simp [Net.Live, hkind])
      | single =>
        refine ⟨net.history tag, tag :: checked, rfl, hnodup', hsub', subset_cons_self .., fun hb => ?_, by simp,
          fun hb x hx => ?_⟩
        · exact ⟨tag, mem_singleton_self _, tag, .refl, hkind, hb⟩
        rcases mem_cons.1 hx with rfl | hx
        · exact .inr ⟨by simp [Net.Live, hb], by simp [Net.members, hkind]⟩
        · exact .inl hx

/-- With a depth of more than the number of outbounds the search ends, and it answers yes exactly if an outbound that is
no group and has a test result is in reach. -/
theorem alive_iff_reaches (net : Net) (tags : List String) (htags : ∀ tag ∈ tags, net.members tag ⊆ tags) (tag : String)
    (htag : tag ∈ tags) (depth : Nat) (hdepth : tags.length < depth) :
    ∃ b checked, aliveForTestURL net depth [] tag = some (b, checked) ∧
      (b = true ↔ ∃ leaf, net.Reaches tag leaf ∧ net.Live leaf) := by
  obtain ⟨b, checked, heq, h⟩ := aliveForTestURL_searched htags htag nodup_nil (nil_subset _) (by simpa using hdepth)
  refine ⟨b, checked, heq, fun hb => ?_, fun ⟨leaf, hreach, hleaf⟩ => ?_⟩
  · obtain ⟨_, ht, hleaf⟩ := h.found hb
    rwa [mem_singleton.1 ht] at hleaf
  by_contra hb
  rw [Bool.not_eq_true] at hb
  have hclosed (x : String) (hx : x ∈ checked) := (h.closed hb x hx).resolve_left (by simp)
  -- all in reach is marked
  have hmarked {x : String} (hreach : net.Reaches tag x) : x ∈ checked := by
    induction hreach with
    | refl => exact h.marked hb mem_cons_self
    | tail _ hmember ih => exact (hclosed _ ih).2 hmember
  exact (hclosed leaf (hmarked hreach)).1 hleaf

/-- Two groups that select each other, and a load balance over both and an outbound with a result. -/
def cyclic : Net where
  outbound tag := if tag = "a" then .group (some "b") else if tag = "b" then .group (some "a")
    else if tag = "lb" then .loadBalance ["a", "b", "gone", "leaf"] else .single
  loaded tag := tag ≠ "gone"
  history tag := tag = "leaf"

theorem alive_iff_reaches_cyclic : ∃ b checked, aliveForTestURL cyclic 5 [] "lb" = some (b, checked) ∧
    (b = true ↔ ∃ leaf, cyclic.Reaches "lb" leaf ∧ cyclic.Live leaf) :=
  alive_iff_reaches cyclic ["a", "b", "lb", "leaf"] (by decide +kernel) "lb" (by decide) 5 (by decide)

end SingBox.Alive
