import Mathlib.Data.List.Induction
import MessageRouting.Json.Basic
import MessageRouting.Table

/-!
# Tables stay sorted

A table that was filled entry by entry lists its names in ascending order, each once. So
its entries are what it answers for their names, and none is listed twice.
-/

namespace MessageRouting

/-! ## Setting an entry -/

theorem mem_of_mem_setEntry {name : String} {value : α} {entries : List (String × α)}
    {entry : String × α} (listed : entry ∈ setEntry name value entries) :
    entry = (name, value) ∨ entry ∈ entries := by
  induction entries with
  | nil => exact Or.inl (List.mem_singleton.mp listed)
  | cons head rest inductionHypothesis =>
      rw [setEntry] at listed
      split at listed
      · exact List.mem_cons.mp listed
      split at listed
      · rcases List.mem_cons.mp listed with new | later
        · exact Or.inl new
        · exact Or.inr (List.mem_cons_of_mem _ later)
      rcases List.mem_cons.mp listed with first | later
      · exact Or.inr (List.mem_cons.mpr (Or.inl first))
      · rcases inductionHypothesis later with new | old
        · exact Or.inl new
        · exact Or.inr (List.mem_cons_of_mem _ old)

theorem pairwise_setEntry {entries : List (String × α)} (name : String) (value : α)
    (sorted : entries.Pairwise fun one other => one.1 < other.1) :
    (setEntry name value entries).Pairwise fun one other => one.1 < other.1 := by
  induction entries with
  | nil => exact List.pairwise_singleton _ _
  | cons head rest inductionHypothesis =>
      obtain ⟨behind, sortedRest⟩ := List.pairwise_cons.mp sorted
      rw [setEntry]
      split
      · rename_i before
        apply List.pairwise_cons.mpr
        refine ⟨fun other listed => ?_, sorted⟩
        rcases List.mem_cons.mp listed with rfl | later
        · exact before
        · exact String.lt_trans before (behind other later)
      split
      · rename_i same
        rw [same]
        exact List.pairwise_cons.mpr ⟨behind, sortedRest⟩
      · rename_i notBefore different
        have after : head.1 < name := by
          apply Classical.byContradiction
          intro notAfter
          exact different (String.le_antisymm notAfter notBefore)
        apply List.pairwise_cons.mpr
        refine ⟨fun other listed => ?_, inductionHypothesis sortedRest⟩
        rcases mem_of_mem_setEntry listed with rfl | old
        · exact after
        · exact behind other old

theorem setEntry_perm {name : String} {entries : List (String × α)}
    (absent : name ∉ entries.map Prod.fst) (value : α) :
    (setEntry name value entries).Perm ((name, value) :: entries) := by
  induction entries with
  | nil => exact List.Perm.refl _
  | cons head rest inductionHypothesis =>
      rw [List.map_cons, List.mem_cons, not_or] at absent
      rw [setEntry]
      split
      · exact List.Perm.refl _
      · rw [if_neg absent.1]
        exact ((inductionHypothesis absent.2).cons head).trans (List.Perm.swap _ _ _)

theorem valueIn?_eq_some_iff {name : String} {value : α} {entries : List (String × α)}
    (sorted : entries.Pairwise fun one other => one.1 < other.1) :
    valueIn? name entries = some value ↔ (name, value) ∈ entries := by
  induction entries with
  | nil => simp [valueIn?]
  | cons head rest inductionHypothesis =>
      obtain ⟨behind, sortedRest⟩ := List.pairwise_cons.mp sorted
      rw [valueIn?, List.mem_cons]
      split
      · rename_i same
        constructor
        · intro held
          rw [Option.some.injEq] at held
          exact Or.inl (Prod.ext same held.symm)
        · rintro (rfl | later)
          · rfl
          · exact absurd (behind _ later) (by rw [same]; exact String.lt_irrefl _)
      · rename_i different
        rw [inductionHypothesis sortedRest]
        constructor
        · exact Or.inr
        · rintro (rfl | later)
          · exact absurd rfl different
          · exact later

namespace Table

variable {table : Table α}

/-- The names are in ascending order. -/
def Sorted (table : Table α) : Prop :=
  table.entries.Pairwise fun one other => one.1 < other.1

theorem sorted_empty : (empty : Table α).Sorted :=
  List.Pairwise.nil

theorem Sorted.set (sorted : table.Sorted) (name : String) (value : α) :
    (table.set name value).Sorted :=
  pairwise_setEntry name value sorted

theorem Sorted.erase (sorted : table.Sorted) (name : String) : (table.erase name).Sorted :=
  List.Pairwise.filter _ sorted

theorem Sorted.get?_eq_some_iff (sorted : table.Sorted) {name : String} {value : α} :
    table.get? name = some value ↔ (name, value) ∈ table.entries :=
  valueIn?_eq_some_iff sorted

theorem Sorted.nodup_names (sorted : table.Sorted) : table.names.Nodup := by
  apply List.pairwise_map.mpr
  apply List.Pairwise.imp _ sorted
  intro one other before same
  rw [same] at before
  exact String.lt_irrefl _ before

end Table

/-! ## Objects -/

namespace Json

/-- The members of an object are those it is made of if these have different names. -/
theorem ofMembers_eq {members : List (String × Json)} (distinct : (members.map Prod.fst).Nodup) :
    ∃ sorted, ofMembers members = object sorted ∧ sorted.Perm members := by
  refine ⟨_, rfl, ?_⟩
  induction members using List.reverseRecOn with
  | nil => exact List.Perm.refl _
  | append_singleton earlier member inductionHypothesis =>
      rw [List.map_append, List.nodup_append] at distinct
      obtain ⟨distinctEarlier, -, apart⟩ := distinct
      have settled := inductionHypothesis distinctEarlier
      rw [List.foldl_append, List.foldl_cons, List.foldl_nil]
      refine (setEntry_perm ?_ member.2).trans ((settled.cons member).trans ?_)
      · intro listed
        exact apart member.1 ((settled.map Prod.fst).mem_iff.mp listed) member.1
          (List.mem_singleton_self _) rfl
      · exact (List.perm_append_singleton member earlier).symm

end Json

end MessageRouting
