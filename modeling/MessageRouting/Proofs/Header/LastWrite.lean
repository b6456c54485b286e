import Mathlib.Data.Finset.Card
import MessageRouting.Header
import MessageRouting.Proofs.Header.SortedTable
import MessageRouting.Proofs.Text.Case

/-!
# The last write of a header

The headers that a run of requests leaves are the finite map from folded names to what was
last written: a lookup under any spelling, the answers to later requests, the listing and the
document say what the last request that touched the folded name left there.
-/

namespace MessageRouting

/-! ## Requests -/

/-- A request to the headers of a message. To collect headers is to start anew with them. -/
inductive HeaderRequest where
  | insert (name : String) (value : Value)
  | remove (name : String)
  | extend (entries : List (String × Value))
  | collect (entries : List (String × Value))
  | clear

def Headers.answer (headers : Headers) : HeaderRequest → Option Value × Headers
  | .insert name value => headers.insert name value
  | .remove name => headers.remove name
  | .extend entries => (none, headers.extend entries)
  | .collect entries => (none, Headers.ofList entries)
  | .clear => (none, Headers.empty)

def Headers.after (headers : Headers) (requests : List HeaderRequest) : Headers :=
  requests.foldl (fun held request => (held.answer request).2) headers

def lastUnder? (key : String) (entries : List (String × Value)) : Option Header :=
  (entries.reverse.find? fun entry => Headers.fold entry.1 == key).map fun entry =>
    ⟨entry.1, entry.2⟩

namespace HeaderRequest

/-- What the request says of a folded name: the header that it leaves there, `some none` where it
leaves none, or nothing. -/
def outcome? (key : String) : HeaderRequest → Option (Option Header)
  | insert name value => if Headers.fold name = key then some (some ⟨name, value⟩) else none
  | remove name => if Headers.fold name = key then some none else none
  | extend entries => (lastUnder? key entries).map some
  | collect entries => some (lastUnder? key entries)
  | clear => some none

def written : HeaderRequest → List String
  | insert name _ => [name]
  | extend entries | collect entries => entries.map Prod.fst
  | remove _ | clear => []

end HeaderRequest

/-- What the last request that says something of a folded name left there. -/
def lastWrite? (requests : List HeaderRequest) (key : String) : Option Header :=
  (requests.reverse.findSome? (HeaderRequest.outcome? key)).join

def heldNames (requests : List HeaderRequest) : Finset String :=
  ((requests.flatMap HeaderRequest.written).map Headers.fold).toFinset.filter fun key =>
    (lastWrite? requests key).isSome = true

/-! ## One request -/

section Entries

variable {key : String}

theorem lastUnder?_concat (earlier : List (String × Value)) (entry : String × Value) :
    lastUnder? key (earlier ++ [entry]) =
      if Headers.fold entry.1 = key then some ⟨entry.1, entry.2⟩ else lastUnder? key earlier := by
  by_cases same : Headers.fold entry.1 = key
  · simp [lastUnder?, same]
  · simp [lastUnder?, same]

theorem of_lastUnder?_eq_some {entries : List (String × Value)} {header : Header}
    (last : lastUnder? key entries = some header) :
    Headers.fold header.name = key ∧ header.name ∈ entries.map Prod.fst := by
  obtain ⟨entry, found, rfl⟩ := Option.map_eq_some_iff.mp last
  have named := List.find?_some found
  have listed := List.mem_reverse.mp (List.mem_of_find?_eq_some found)
  exact ⟨eq_of_beq named, List.mem_map_of_mem listed⟩

end Entries

namespace Headers

variable {headers : Headers}

theorem extend_concat (earlier : List (String × Value)) (entry : String × Value) :
    headers.extend (earlier ++ [entry]) = ((headers.extend earlier).insert entry.1 entry.2).2 := by
  rw [extend, List.foldl_append]
  rfl

theorem table_insert (name : String) (value : Value) (key : String) :
    (headers.insert name value).2.table.get? key =
      if fold name = key then some ⟨name, value⟩ else headers.table.get? key := by
  rw [insert, Table.get?_set]
  simp only [eq_comm]

theorem table_remove (name : String) (key : String) :
    (headers.remove name).2.table.get? key =
      if fold name = key then none else headers.table.get? key := by
  rw [remove, Table.get?_erase]
  simp only [eq_comm]

theorem table_extend (entries : List (String × Value)) (key : String) :
    (headers.extend entries).table.get? key =
      (lastUnder? key entries).or (headers.table.get? key) := by
  induction entries using List.reverseRecOn with
  | nil => rfl
  | append_singleton earlier entry inductionHypothesis =>
      rw [extend_concat, table_insert, inductionHypothesis, lastUnder?_concat]
      split
      · rfl
      · rfl

/-- A request changes the entry of a folded name to what it says of it. -/
theorem table_answer (request : HeaderRequest) (key : String) :
    (headers.answer request).2.table.get? key =
      (request.outcome? key).getD (headers.table.get? key) := by
  cases request with
  | insert name value =>
      rw [answer, table_insert, HeaderRequest.outcome?]
      split
      · rfl
      · rfl
  | remove name =>
      rw [answer, table_remove, HeaderRequest.outcome?]
      split
      · rfl
      · rfl
  | extend entries =>
      rw [answer, table_extend, HeaderRequest.outcome?]
      cases lastUnder? key entries with
      | none => rfl
      | some header => rfl
  | collect entries =>
      rw [answer, ofList, table_extend, HeaderRequest.outcome?]
      exact Option.or_none
  | clear => rfl

theorem sorted_extend (sorted : headers.table.Sorted) (entries : List (String × Value)) :
    (headers.extend entries).table.Sorted := by
  induction entries using List.reverseRecOn with
  | nil => exact sorted
  | append_singleton earlier entry inductionHypothesis =>
      rw [extend_concat]
      exact inductionHypothesis.set _ _

theorem sorted_answer (sorted : headers.table.Sorted) (request : HeaderRequest) :
    (headers.answer request).2.table.Sorted := by
  cases request with
  | insert name value => exact sorted.set _ _
  | remove name => exact sorted.erase _
  | extend entries => exact sorted_extend sorted entries
  | collect entries => exact sorted_extend Table.sorted_empty entries
  | clear => exact Table.sorted_empty

end Headers

/-! ## A run of requests -/

theorem lastWrite?_concat (earlier : List HeaderRequest) (request : HeaderRequest) (key : String) :
    lastWrite? (earlier ++ [request]) key =
      (request.outcome? key).getD (lastWrite? earlier key) := by
  rw [lastWrite?, List.reverse_append, List.reverse_singleton, List.singleton_append,
    List.findSome?_cons]
  cases request.outcome? key with
  | none => rfl
  | some left => rfl

/-- A header is kept under the folded form of its name, and some request wrote it. -/
theorem of_lastWrite?_eq_some {requests : List HeaderRequest} {key : String} {header : Header}
    (last : lastWrite? requests key = some header) :
    Headers.fold header.name = key ∧ header.name ∈ requests.flatMap HeaderRequest.written := by
  obtain ⟨request, listed, left⟩ := List.exists_of_findSome?_eq_some (Option.join_eq_some_iff.mp last)
  have named : Headers.fold header.name = key ∧ header.name ∈ request.written := by
    cases request with
    | insert name value =>
        rw [HeaderRequest.outcome?] at left
        split at left
        · cases left
          rename_i same
          exact ⟨same, List.mem_singleton_self name⟩
        · cases left
    | remove name =>
        rw [HeaderRequest.outcome?] at left
        split at left
        · cases left
        · cases left
    | extend entries =>
        obtain ⟨held, found, same⟩ := Option.map_eq_some_iff.mp left
        cases same
        exact of_lastUnder?_eq_some found
    | collect entries => exact of_lastUnder?_eq_some (Option.some.inj left)
    | clear => cases left
  exact ⟨named.1, List.mem_flatMap.mpr ⟨request, List.mem_reverse.mp listed, named.2⟩⟩

theorem mem_heldNames {requests : List HeaderRequest} {key : String} :
    key ∈ heldNames requests ↔ (lastWrite? requests key).isSome = true := by
  rw [heldNames, Finset.mem_filter, List.mem_toFinset]
  apply and_iff_right_of_imp
  intro held
  obtain ⟨header, last⟩ := Option.isSome_iff_exists.mp held
  obtain ⟨same, written⟩ := of_lastWrite?_eq_some last
  exact List.mem_map.mpr ⟨header.name, written, same⟩

namespace Headers

theorem after_concat (headers : Headers) (earlier : List HeaderRequest) (request : HeaderRequest) :
    headers.after (earlier ++ [request]) = ((headers.after earlier).answer request).2 := by
  rw [after, List.foldl_append]
  rfl

theorem table_after (requests : List HeaderRequest) (key : String) :
    (empty.after requests).table.get? key = lastWrite? requests key := by
  induction requests using List.reverseRecOn with
  | nil => rfl
  | append_singleton earlier request inductionHypothesis =>
      rw [after_concat, table_answer, inductionHypothesis, lastWrite?_concat]

theorem sorted_after (requests : List HeaderRequest) : (empty.after requests).table.Sorted := by
  induction requests using List.reverseRecOn with
  | nil => exact Table.sorted_empty
  | append_singleton earlier request inductionHypothesis =>
      rw [after_concat]
      exact sorted_answer inductionHypothesis request

theorem get?_after (requests : List HeaderRequest) (name : String) :
    (empty.after requests).get? name = (lastWrite? requests (fold name)).map Header.value := by
  rw [get?, table_after]

theorem mem_entries_after {requests : List HeaderRequest} {key : String} {header : Header} :
    (key, header) ∈ (empty.after requests).table.entries ↔
      lastWrite? requests key = some header := by
  rw [← (sorted_after requests).get?_eq_some_iff, table_after]

theorem mem_toList_after {requests : List HeaderRequest} {header : Header} :
    header ∈ (empty.after requests).toList ↔
      lastWrite? requests (fold header.name) = some header := by
  constructor
  · intro listed
    obtain ⟨⟨key, _⟩, held, rfl⟩ := List.mem_map.mp listed
    have last := mem_entries_after.mp held
    rw [(of_lastWrite?_eq_some last).1]
    exact last
  · intro last
    exact List.mem_map.mpr ⟨_, mem_entries_after.mpr last, rfl⟩

theorem fold_names_after (requests : List HeaderRequest) :
    (empty.after requests).names.map fold = (empty.after requests).table.names := by
  rw [names, toList, Table.names, List.map_map, List.map_map]
  apply List.map_congr_left
  rintro ⟨key, header⟩ held
  exact (of_lastWrite?_eq_some (mem_entries_after.mp held)).1

theorem heldNames_eq (requests : List HeaderRequest) :
    heldNames requests = (empty.after requests).table.names.toFinset := by
  ext key
  rw [mem_heldNames, List.mem_toFinset, Table.names, List.mem_map, Option.isSome_iff_exists]
  constructor
  · rintro ⟨header, last⟩
    exact ⟨_, mem_entries_after.mpr last, rfl⟩
  · rintro ⟨⟨_, header⟩, held, rfl⟩
    exact ⟨header, mem_entries_after.mp held⟩

theorem nodup_fold_names_after (requests : List HeaderRequest) :
    ((empty.after requests).names.map fold).Nodup := by
  rw [fold_names_after]
  exact (sorted_after requests).nodup_names

theorem size_after (requests : List HeaderRequest) :
    (empty.after requests).size = (heldNames requests).card := by
  rw [heldNames_eq, List.toFinset_card_of_nodup (sorted_after requests).nodup_names, Table.names,
    List.length_map]
  rfl

/-- Headers of different names are written to a document of as many members. -/
theorem toDocument_eq {headers : Headers} (distinct : headers.names.Nodup) :
    ∃ members, headers.toDocument = .object members ∧
      (members.map Prod.fst).Nodup ∧
      members.Perm (headers.toList.map fun header => (header.name, header.value.toDocument)) := by
  have names : (headers.toList.map fun header => (header.name, header.value.toDocument)).map
      Prod.fst = headers.names := by
    rw [Headers.names, List.map_map]
    rfl
  rw [← names] at distinct
  obtain ⟨members, written, same⟩ := Json.ofMembers_eq distinct
  exact ⟨members, written, (same.map Prod.fst).nodup_iff.mpr distinct, same⟩

@[simp]
theorem fold_fold (name : String) : fold (fold name) = fold name :=
  Text.lower_lower name

end Headers

end MessageRouting
