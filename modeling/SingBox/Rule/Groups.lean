import SingBox.Rule.Frame
/-!
# The groups of a default rule

`evaluateGroups` packs into two bit masks what reads plainly on lists: which
groups hold items, and in which of them an item matches.
-/
namespace SingBox

def Group.mask (f : Group → Bool) : UInt8 :=
  (bif f .sourceAddress then 1 else 0) ||| (bif f .sourcePort then 2 else 0) |||
    (bif f .destinationAddress then 4 else 0) ||| (bif f .destinationPort then 8 else 0)

namespace Group

lemma forall_iff {p : Group → Prop} :
    (∀ g, p g) ↔ p .sourceAddress ∧ p .sourcePort ∧ p .destinationAddress ∧ p .destinationPort :=
  ⟨fun h => ⟨h _, h _, h _, h _⟩, fun ⟨h₁, h₂, h₃, h₄⟩ g => by cases g <;> assumption⟩

variable (f f' : Group → Bool)

lemma exists_bits :
    ∃ a b c d, f = fun | .sourceAddress => a | .sourcePort => b | .destinationAddress => c | .destinationPort => d :=
  ⟨_, _, _, _, funext fun g => by cases g <;> rfl⟩

lemma mask_or : mask f ||| mask f' = mask fun g => f g || f' g := by
  simp only [mask]
  obtain ⟨a, b, c, d, rfl⟩ := exists_bits f
  obtain ⟨a', b', c', d', rfl⟩ := exists_bits f'
  revert a b c d a' b' c' d'
  decide

lemma mask_or_bit (g : Group) : mask f ||| g.bit = mask (Function.update f g true) := by
  have h : g.bit = mask fun g' => decide (g' = g) := by cases g <;> decide
  rw [h, mask_or]
  congr 1
  funext g'
  by_cases hg : g' = g
  · subst hg; simp
  · simp [hg]

lemma mask_andNot_eq_zero : mask f &&& ~~~mask f' = 0 ↔ ∀ g, f g → f' g := by
  simp only [forall_iff, mask]
  obtain ⟨a, b, c, d, rfl⟩ := exists_bits f
  obtain ⟨a', b', c', d', rfl⟩ := exists_bits f'
  revert a b c d a' b' c' d'
  decide

lemma mask_and_bit_ne_zero (g : Group) : (mask f &&& g.bit != 0) = f g := by
  simp only [mask]
  cases g <;>
  · obtain ⟨a, b, c, d, rfl⟩ := exists_bits f
    revert a b c d
    decide

lemma bit_andNot_mask {f : Group → Bool} {g : Group} (hg : f g = false) : g.bit &&& ~~~mask f = g.bit := by
  simp only [mask]
  cases g <;> rw [hg] <;>
  · obtain ⟨a, b, c, d, rfl⟩ := exists_bits f
    revert a b c d
    decide

end Group

/-- The state that requires the groups of `required` and has the groups of `satisfied`. -/
def RuleGroupMatch.of (required satisfied : Group → Bool) : RuleGroupMatch :=
  ⟨Group.mask required, Group.mask satisfied⟩

namespace RuleGroupMatch
variable (required satisfied : Group → Bool)

lemma of_addIf (c : Bool) (g : Group) (matched : Bool) :
    (if c then (of required satisfied).add g matched else of required satisfied) =
      of (Function.update required g (required g || c)) (Function.update satisfied g (satisfied g || c && matched)) := by
  cases c <;> cases matched <;> simp [of, add, Group.mask_or_bit]

@[simp] lemma of_has (g : Group) : (of required satisfied).has g = satisfied g :=
  Group.mask_and_bit_ne_zero satisfied g

lemma of_done : (of required satisfied).done = true ↔ ∀ g, required g → satisfied g := by
  simp [done, of, Group.mask_andNot_eq_zero]

lemma of_mergeWith (required' satisfied' : Group → Bool) :
    (of required satisfied).mergeWith (of required' satisfied') =
      of (fun g => required g || required' g) (fun g => satisfied g || satisfied' g) := by
  simp [mergeWith, of, Group.mask_or]

end RuleGroupMatch

/-- The items of a group: the destination-IP items are source-address items when the flag says so, and
no items at all in the pre-lookup match. -/
def DefaultItems.groupItems (r : DefaultItems) (md : InboundContext) : Group → List RuleItem
  | .sourceAddress => r.sourceAddressItems ++ if md.ipCidrMatchSource then r.destinationIPCIDRItems else []
  | .sourcePort => r.sourcePortItems
  | .destinationAddress => r.destinationAddressItems ++
      if !md.ignoreDestinationIPCIDRMatch && !md.ipCidrMatchSource then r.destinationIPCIDRItems else []
  | .destinationPort => r.destinationPortItems

lemma groupItems_mem {r : DefaultItems} {md : InboundContext} {g : Group} {i : RuleItem}
    (hi : i ∈ r.groupItems md g) : i ∈ r.allItems := by
  cases g <;> grind [DefaultItems.groupItems, DefaultItems.allItems]

section
variable {α : Type} (f : α → Bool) (c : Bool) (xs ys : List α)

lemma isEmpty_append_if : (!xs.isEmpty || c && !ys.isEmpty) = !(xs ++ if c then ys else []).isEmpty := by
  cases xs <;> cases c <;> simp

lemma any_append_if : (!xs.isEmpty && xs.any f || (c && !ys.isEmpty) && (!(!xs.isEmpty && xs.any f) && ys.any f)) =
      (xs ++ if c then ys else []).any f := by
  cases xs with
  | nil => cases ys <;> cases c <;> simp
  | cons x xs =>
    rw [List.any_append]
    cases ys <;> cases c <;> cases h : (x :: xs).any f <;> simp_all

end

/-- `evaluateGroups` requires the groups that hold items and satisfies those with a matching one. -/
lemma evaluateGroups_groups (env : Env) (r : DefaultItems) (md : InboundContext) : (evaluateGroups env r md).1 =
      .of (fun g => !(r.groupItems md g).isEmpty) (fun g => (r.groupItems md g).any (·.match env md)) := by
  have hzero : ({} : RuleGroupMatch) = .of (fun _ => false) (fun _ => false) := rfl
  have hlen (l : List RuleItem) : (l.length > 0) = ((!l.isEmpty) = true) := by cases l <;> simp
  have hany (l : List RuleItem) : (!l.isEmpty && l.any (·.match env md)) = l.any (·.match env md) := by
    cases l <;> simp
  simp only [evaluateGroups, hzero, hlen, destinationIPCIDRMatchesSource, destinationIPCIDRMatchesDestination,
    Bool.decide_eq_true, RuleGroupMatch.of_addIf, RuleGroupMatch.of_has, matchAnyItem]
  congr 1 <;> funext g <;> cases g
  · exact isEmpty_append_if md.ipCidrMatchSource r.sourceAddressItems r.destinationIPCIDRItems
  · rfl
  · exact isEmpty_append_if (!md.ignoreDestinationIPCIDRMatch && !md.ipCidrMatchSource) r.destinationAddressItems
      r.destinationIPCIDRItems
  · rfl
  · exact any_append_if (·.match env md) md.ipCidrMatchSource r.sourceAddressItems r.destinationIPCIDRItems
  · exact hany r.sourcePortItems
  · exact any_append_if (·.match env md) (!md.ignoreDestinationIPCIDRMatch && !md.ipCidrMatchSource)
      r.destinationAddressItems r.destinationIPCIDRItems
  · exact hany r.destinationPortItems

end SingBox
