import Mathlib.Data.List.FinRange
import Mathlib.Data.List.Induction
import Mathlib.Data.List.Nodup
import Mathlib.Tactic.Lemma
import Tabletop.Grouping

/-!
# Groups of a list

`groupInOrder` goes through a list once and adds each element to the groups it has.  `IsGrouping` says
of groups, without the pass, that they are the list again, sorted by a key: nothing is lost, nothing
is there twice, and nothing has changed places with an element of its own group.  Elements are told
apart by their places in the list, since a list may hold equal elements.

The pass keeps `InGroups`, which speaks of the elements read so far: `InGroups.add` is its step,
`inGroups_groupInOrder` the whole pass, and `InGroups.isGrouping` what follows for the places.
-/

namespace Tabletop

variable {κ α : Type} [DecidableEq κ] {key : α → κ} {k : κ} {a : α} {xs : List α}
  {groups : List (κ × List α)}

/-! ## Groups and places -/

/-- The places of a list whose elements have a key, in order. -/
def placesOf (key : α → κ) (xs : List α) (k : κ) : List (Fin xs.length) :=
  (List.finRange xs.length).filter fun i => key (xs.get i) = k

/-- Whether groups are the elements of a list by a key, in order of first appearance. -/
structure IsGrouping (key : α → κ) (xs : List α) (groups : List (κ × List α)) : Prop where
  /-- No group is empty. -/
  ne_nil : ∀ group ∈ groups, group.2 ≠ []
  /-- No two groups have the same key. -/
  nodup : (groups.map Prod.fst).Nodup
  /-- Groups stand in the order of the first elements with their keys. -/
  ordered : (groups.map Prod.fst).Pairwise fun k k' => (xs.map key).idxOf k < (xs.map key).idxOf k'
  /-- A group holds the elements with its key, in the order of the list. -/
  members : ∀ group ∈ groups, group.2 = (placesOf key xs group.1).map xs.get
  /-- Each place of the list belongs to exactly one group. -/
  placed : ∀ i, ∃! group, group ∈ groups ∧ i ∈ placesOf key xs group.1
  /-- The groups have as many elements as the list. -/
  length_eq : (groups.flatMap Prod.snd).length = xs.length

/-- What a pass keeps that has read the list so far. -/
structure InGroups (key : α → κ) (xs : List α) (groups : List (κ × List α)) : Prop where
  ne_nil : ∀ group ∈ groups, group.2 ≠ []
  ordered : (groups.map Prod.fst).Pairwise fun k k' => (xs.map key).idxOf k < (xs.map key).idxOf k'
  members : ∀ group ∈ groups, group.2 = xs.filter fun a => key a = group.1
  perm : (groups.flatMap Prod.snd).Perm xs

/-! ## One more element -/

/-- A new key goes behind the others, a known one stays where it is. -/
lemma keys_addToGroup (k : κ) (a : α) (groups : List (κ × List α)) :
    (addToGroup k a groups).map Prod.fst =
      if k ∈ groups.map Prod.fst then groups.map Prod.fst else groups.map Prod.fst ++ [k] := by
  induction groups with
  | nil => rfl
  | cons group groups ih =>
      unfold addToGroup
      split
      · rename_i hkey
        simp [← hkey]
      · rename_i hkey
        by_cases hk : k ∈ groups.map Prod.fst <;> simp [ih, hk, Ne.symm hkey]

/-- An element goes behind the others of its key, if there are any, and no other group changes. -/
lemma cases_of_mem_addToGroup {group : κ × List α} (hnodup : (groups.map Prod.fst).Nodup)
    (h : group ∈ addToGroup k a groups) :
    (group ∈ groups ∧ group.1 ≠ k) ∨
      (∃ members, (k, members) ∈ groups ∧ group = (k, members ++ [a])) ∨
      k ∉ groups.map Prod.fst ∧ group = (k, [a]) := by
  -- By induction on the groups: the element stops at the first group of its key, and as no key
  -- comes twice, the groups behind it have other keys.
  induction groups with
  | nil => exact .inr (.inr ⟨List.not_mem_nil, List.mem_singleton.1 h⟩)
  | cons first groups ih =>
      obtain ⟨hfirst, hnodup⟩ := List.nodup_cons.1 hnodup
      unfold addToGroup at h
      split at h <;> rename_i hkey
      · subst hkey
        rcases List.mem_cons.1 h with rfl | h
        · exact .inr (.inl ⟨first.2, List.mem_cons_self, rfl⟩)
        · have hne : group.1 ≠ first.1 := fun heq => hfirst (heq ▸ List.mem_map_of_mem h)
          exact .inl ⟨List.mem_cons_of_mem _ h, hne⟩
      · rcases List.mem_cons.1 h with rfl | h
        · exact .inl ⟨List.mem_cons_self, hkey⟩
        · rcases ih hnodup h with ⟨hmem, hne⟩ | ⟨members, hmem, hgroup⟩ | ⟨hnew, hgroup⟩
          · exact .inl ⟨List.mem_cons_of_mem _ hmem, hne⟩
          · exact .inr (.inl ⟨members, List.mem_cons_of_mem _ hmem, hgroup⟩)
          · refine .inr (.inr ⟨?_, hgroup⟩)
            rw [List.map_cons, List.mem_cons, not_or]
            exact ⟨Ne.symm hkey, hnew⟩

/-- All groups together hold the new element once more. -/
lemma perm_addToGroup (k : κ) (a : α) (groups : List (κ × List α)) :
    ((addToGroup k a groups).flatMap Prod.snd).Perm (groups.flatMap Prod.snd ++ [a]) := by
  induction groups with
  | nil => exact List.Perm.refl _
  | cons group groups ih =>
      unfold addToGroup
      split
      · simp only [List.flatMap_cons, List.append_assoc]
        exact List.perm_append_comm.append_left _
      · simp only [List.flatMap_cons, List.append_assoc]
        exact ih.append_left _

/-! ## The pass over the list -/

lemma groupInOrder_concat (key : α → κ) (xs : List α) (a : α) :
    groupInOrder key (xs ++ [a]) = addToGroup (key a) a (groupInOrder key xs) := by
  rw [groupInOrder, List.foldl_append]
  rfl

lemma filter_concat_of_eq (h : key a = k) :
    (xs ++ [a]).filter (fun a => key a = k) = (xs.filter fun a => key a = k) ++ [a] := by
  rw [List.filter_append, List.filter_cons_of_pos (by simpa using h), List.filter_nil]

lemma filter_concat_of_ne (h : key a ≠ k) :
    (xs ++ [a]).filter (fun a => key a = k) = xs.filter fun a => key a = k := by
  rw [List.filter_append, List.filter_cons_of_neg (by simpa using h), List.filter_nil,
    List.append_nil]

namespace InGroups

lemma nodup (h : InGroups key xs groups) : (groups.map Prod.fst).Nodup :=
  h.ordered.imp fun {_ _} hlt heq => Nat.ne_of_lt hlt (congrArg (xs.map key).idxOf heq)

lemma mem_keys_iff (h : InGroups key xs groups) : k ∈ groups.map Prod.fst ↔ k ∈ xs.map key := by
  constructor
  · intro hk
    obtain ⟨group, hgroup, rfl⟩ := List.mem_map.1 hk
    obtain ⟨a, ha⟩ := List.exists_mem_of_ne_nil _ (h.ne_nil group hgroup)
    rw [h.members group hgroup, List.mem_filter, decide_eq_true_eq] at ha
    exact List.mem_map.2 ⟨a, ha⟩
  · intro hk
    obtain ⟨a, ha, rfl⟩ := List.mem_map.1 hk
    obtain ⟨group, hgroup, hmem⟩ := List.mem_flatMap.1 (h.perm.mem_iff.2 ha)
    rw [h.members group hgroup, List.mem_filter, decide_eq_true_eq] at hmem
    exact List.mem_map.2 ⟨group, hgroup, hmem.2.symm⟩

lemma ordered_add (h : InGroups key xs groups) (a : α) :
    ((addToGroup (key a) a groups).map Prod.fst).Pairwise fun k k' =>
      ((xs ++ [a]).map key).idxOf k < ((xs ++ [a]).map key).idxOf k' := by
  -- The first elements of the keys stay where they are when the list gets longer.
  have hfirst : ∀ {k}, k ∈ groups.map Prod.fst →
      ((xs ++ [a]).map key).idxOf k = (xs.map key).idxOf k := fun hk => by
    rw [List.map_append, List.idxOf_append_of_mem (h.mem_keys_iff.1 hk)]
  have hold : (groups.map Prod.fst).Pairwise fun k k' =>
      ((xs ++ [a]).map key).idxOf k < ((xs ++ [a]).map key).idxOf k' :=
    h.ordered.imp_of_mem fun hk hk' hlt => by rwa [hfirst hk, hfirst hk']
  rw [keys_addToGroup]
  split
  · exact hold
  · rename_i hnew
    refine List.pairwise_append.2 ⟨hold, List.pairwise_singleton _ _, fun k hk k' hk' => ?_⟩
    obtain rfl := List.mem_singleton.1 hk'
    have hlast : ((xs ++ [a]).map key).idxOf (key a) = (xs.map key).length := by
      rw [List.map_append, List.idxOf_append_of_notMem (mt h.mem_keys_iff.2 hnew)]
      simp
    rw [hfirst hk, hlast]
    exact List.idxOf_lt_length_iff.2 (h.mem_keys_iff.1 hk)

/-- The step: one more element in its group. -/
lemma add (h : InGroups key xs groups) (a : α) :
    InGroups key (xs ++ [a]) (addToGroup (key a) a groups) where
  ne_nil group hgroup := by
    rcases cases_of_mem_addToGroup h.nodup hgroup with ⟨hmem, -⟩ | ⟨members, -, rfl⟩ | ⟨-, rfl⟩
    · exact h.ne_nil group hmem
    · exact List.append_ne_nil_of_right_ne_nil _ (List.cons_ne_nil _ _)
    · exact List.cons_ne_nil _ _
  ordered := h.ordered_add a
  members group hgroup := by
    rcases cases_of_mem_addToGroup h.nodup hgroup with
      ⟨hmem, hne⟩ | ⟨members, hmem, rfl⟩ | ⟨hnew, rfl⟩
    · rw [filter_concat_of_ne (Ne.symm hne)]
      exact h.members group hmem
    · rw [filter_concat_of_eq rfl]
      exact congrArg (· ++ [a]) (h.members _ hmem)
    -- A new key is the key of no element so far.
    · have hnone : (xs.filter fun b => key b = key a) = [] := by
        refine List.filter_eq_nil_iff.2 fun b hb hkey => hnew (h.mem_keys_iff.2 ?_)
        exact List.mem_map.2 ⟨b, hb, of_decide_eq_true hkey⟩
      rw [filter_concat_of_eq rfl, hnone, List.nil_append]
  perm := (perm_addToGroup (key a) a groups).trans (h.perm.append_right [a])

end InGroups

lemma inGroups_groupInOrder (key : α → κ) (xs : List α) :
    InGroups key xs (groupInOrder key xs) := by
  -- The pass goes from the left, so the last element is the one that is added to known groups.
  induction xs using List.reverseRecOn with
  | nil => exact ⟨nofun, List.Pairwise.nil, nofun, List.Perm.nil⟩
  | append_singleton xs a ih =>
      rw [groupInOrder_concat]
      exact ih.add a

/-! ## What follows for the places -/

lemma map_get_placesOf (key : α → κ) (xs : List α) (k : κ) :
    (placesOf key xs k).map xs.get = xs.filter fun a => key a = k := by
  have hfilter : ((List.finRange xs.length).map xs.get).filter (fun a => key a = k) =
      (placesOf key xs k).map xs.get := List.filter_map
  rw [← hfilter, List.map_get_finRange]

lemma mem_placesOf_iff {i : Fin xs.length} : i ∈ placesOf key xs k ↔ key (xs.get i) = k := by
  rw [placesOf, List.mem_filter, and_iff_right (List.mem_finRange i), decide_eq_true_eq]

lemma InGroups.isGrouping (h : InGroups key xs groups) : IsGrouping key xs groups where
  ne_nil := h.ne_nil
  nodup := h.nodup
  ordered := h.ordered
  members group hgroup := (h.members group hgroup).trans (map_get_placesOf key xs group.1).symm
  placed i := by
    have hkey : key (xs.get i) ∈ groups.map Prod.fst :=
      h.mem_keys_iff.2 (List.mem_map_of_mem (xs.get_mem i))
    obtain ⟨group, hgroup, hsame⟩ := List.mem_map.1 hkey
    refine ⟨group, ⟨hgroup, mem_placesOf_iff.2 hsame.symm⟩, fun group' ⟨hgroup', hi⟩ => ?_⟩
    exact List.inj_on_of_nodup_map h.nodup hgroup' hgroup
      ((mem_placesOf_iff.1 hi).symm.trans hsame.symm)
  length_eq := h.perm.length_eq

/-- **Grouping keeps everything in place.** -/
lemma isGrouping_groupInOrder (key : α → κ) (xs : List α) :
    IsGrouping key xs (groupInOrder key xs) :=
  (inGroups_groupInOrder key xs).isGrouping

/-! ## Images -/

section Images

variable {β : Type} (f : α → β)

lemma addToGroup_map (k : κ) (a : α) (groups : List (κ × List α)) :
    addToGroup k (f a) (groups.map fun group => (group.1, group.2.map f)) =
      (addToGroup k a groups).map fun group => (group.1, group.2.map f) := by
  induction groups with
  | nil => rfl
  | cons group groups ih =>
      unfold addToGroup
      by_cases hkey : group.1 = k
      · simp [hkey]
      · simp [hkey, ih]

/-- The groups of images by a key are the images of the groups. -/
lemma groupInOrder_map (key : β → κ) (xs : List α) :
    groupInOrder key (xs.map f) =
      (groupInOrder (fun a => key (f a)) xs).map fun group => (group.1, group.2.map f) := by
  induction xs using List.reverseRecOn with
  | nil => rfl
  | append_singleton xs a ih =>
      rw [List.map_append, List.map_singleton, groupInOrder_concat, groupInOrder_concat, ih,
        addToGroup_map]

end Images

end Tabletop
