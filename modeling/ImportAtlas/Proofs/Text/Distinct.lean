import ImportAtlas.Text.Basic
import Mathlib.Data.List.Induction
import Mathlib.Data.List.Nodup

/-!
# First appearances

Of the items of a list each is kept where it first appears.  A further item at the end is kept if it
is new.
-/

namespace ImportAtlas

theorem eraseDups_concat (items : List Text) (item : Text) :
    (items ++ [item]).eraseDups =
      if item ∈ items then items.eraseDups else items.eraseDups ++ [item] := by
  rw [List.eraseDups_append]
  by_cases hmem : item ∈ items
  · have hnone : [item].removeAll items = [] := by simp [List.removeAll, hmem]
    rw [if_pos hmem, hnone]
    simp
  · have hone : [item].removeAll items = [item] := by simp [List.removeAll, hmem]
    rw [if_neg hmem, hone]
    rfl

theorem nodup_eraseDups (items : List Text) : items.eraseDups.Nodup := by
  induction items using List.reverseRecOn with
  | nil => exact List.nodup_nil
  | append_singleton items item ih =>
      rw [eraseDups_concat]
      split
      case isTrue => exact ih
      case isFalse hmem =>
        rw [List.nodup_append]
        refine ⟨ih, List.nodup_singleton item, ?_⟩
        intro other hother last hlast heq
        rw [List.mem_singleton.mp hlast] at heq
        exact hmem (heq ▸ List.mem_eraseDups.mp hother)

theorem pairwise_idxOf_eraseDups (items : List Text) :
    items.eraseDups.Pairwise fun first second => items.idxOf first < items.idxOf second := by
  induction items using List.reverseRecOn with
  | nil => exact List.Pairwise.nil
  | append_singleton items item ih =>
      have hold : items.eraseDups.Pairwise fun first second =>
          (items ++ [item]).idxOf first < (items ++ [item]).idxOf second := by
        apply ih.imp_of_mem
        intro first second hfirst hsecond hlt
        rw [List.idxOf_append_of_mem (List.mem_eraseDups.mp hfirst),
          List.idxOf_append_of_mem (List.mem_eraseDups.mp hsecond)]
        exact hlt
      rw [eraseDups_concat]
      split
      case isTrue => exact hold
      case isFalse hitem =>
        rw [List.pairwise_append]
        refine ⟨hold, List.pairwise_singleton _ _, ?_⟩
        intro first hfirst last hlast
        have hfirst := List.mem_eraseDups.mp hfirst
        rw [List.mem_singleton.mp hlast, List.idxOf_append_of_mem hfirst,
          List.idxOf_append_of_notMem hitem]
        exact Nat.lt_add_right _ (List.idxOf_lt_length_of_mem hfirst)

theorem eraseDups_of_nodup {items : List Text} (h : items.Nodup) : items.eraseDups = items := by
  induction items using List.reverseRecOn with
  | nil => rfl
  | append_singleton items item ih =>
      have hitem : item ∉ items := by
        intro hmem
        exact (List.nodup_append.mp h).right.right item hmem item (List.mem_singleton_self item) rfl
      rw [eraseDups_concat, if_neg hitem, ih (List.nodup_append.mp h).left]

end ImportAtlas
