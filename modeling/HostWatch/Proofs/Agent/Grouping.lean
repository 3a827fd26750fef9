/-
Sections by host key.

Sources are grouped in one walk over all of them. Seen from one key the walk
is simpler: it joins the sections of the sources that have the key, in the
order in which they come, and passes over all others (`get?_groupByHost`).
A source without sections adds nothing to what is joined (`extend_of_isEmpty`),
so a key under which there is nothing and a key that does not occur are the
same to whoever asks for the sections.
-/
import HostWatch.Agent.Sections
import HostWatch.Proofs.SortedMap

namespace HostWatch

/-- Sections stay as they are when those of a source without any are added. -/
theorem HostSections.extend_of_isEmpty {h other : HostSections}
    (hempty : other.isEmpty = true) : h.extend other = h := by
  unfold HostSections.isEmpty SortedMap.isEmpty at hempty
  unfold HostSections.extend
  rw [List.isEmpty_iff.mp hempty]
  rfl

/-- The sections of several sources, joined in order. -/
def HostSections.join (all : List HostSections) : HostSections :=
  all.foldl HostSections.extend ∅

/-- Sources without sections have no part in what is joined. -/
theorem HostSections.join_filter (all : List HostSections) :
    join (all.filter fun h => !h.isEmpty) = join all := by
  unfold join
  generalize (∅ : HostSections) = start
  induction all generalizing start with
  | nil => rfl
  | cons h rest ih =>
      rw [List.foldl_cons]
      cases hempty : h.isEmpty with
      | true =>
          rw [List.filter_cons_of_neg (by simp [hempty]), ih,
            extend_of_isEmpty hempty]
      | false =>
          rw [List.filter_cons_of_pos (by simp [hempty]), List.foldl_cons, ih]

/-- What is grouped under a key: the sections of the sources with the key,
joined in order, and nothing if there is no such source. -/
theorem get?_groupByHost (sources : List (HostKey × HostSections))
    (key : HostKey) :
    (groupByHost sources).get? key =
      match (sources.filter (·.1 = key)).map (·.2) with
      | [] => none
      | all => some (HostSections.join all) := by
  suffices walk : ∀ (sources : List (HostKey × HostSections))
      (grouped : SortedMap HostKey HostSections),
      (sources.foldl (fun acc e =>
          acc.insert e.1 (((acc.get? e.1).getD ∅).extend e.2)) grouped).get? key
        = match (sources.filter (·.1 = key)).map (·.2) with
          | [] => grouped.get? key
          | all =>
            some (all.foldl HostSections.extend ((grouped.get? key).getD ∅))
    from walk sources ∅
  intro sources
  induction sources with
  | nil => intro grouped; rfl
  | cons source rest ih =>
      intro grouped
      rw [List.foldl_cons, ih, SortedMap.get?_insert]
      by_cases hkey : source.1 = key
      · rw [if_pos hkey.symm, List.filter_cons_of_pos (by simpa using hkey),
          List.map_cons, hkey]
        cases (rest.filter (·.1 = key)).map (·.2) with
        | nil => rfl
        | cons next others => rfl
      · rw [if_neg fun h => hkey h.symm,
          List.filter_cons_of_neg (by simpa using hkey)]

/-- What a key has after the walk: the sections of the sources with the key,
joined in order. -/
theorem getD_get?_groupByHost (sources : List (HostKey × HostSections))
    (key : HostKey) :
    ((groupByHost sources).get? key).getD ∅
      = HostSections.join ((sources.filter (·.1 = key)).map (·.2)) := by
  rw [get?_groupByHost]
  cases (sources.filter (·.1 = key)).map (·.2) with
  | nil => rfl
  | cons first others => rfl

end HostWatch
