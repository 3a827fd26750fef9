/-
The laws of the value store.

A working copy that is put back takes the place of one namespace and
leaves every other one alone (`get?_commit`); an empty copy leaves nothing
behind, so a store in which no stored namespace is empty stays like that
(`Compact.commit`). In such a store putting back an unchanged copy is no
change at all (`commit_workingCopy`), which is what makes it harmless that
a clustered service holds a copy of its own while its nodes work on
theirs.

`AgreeFor` says that two stores hold the same for one service of one host,
on whichever nodes. A check reads and writes there and nowhere else, so
this is the relation that two checks are compared by; `AgreeOn` says the
same of all services of a host, for whole runs.
-/
import HostWatch.Proofs.SortedMap
import HostWatch.ValueStore

namespace HostWatch

/-- What is stored of a working copy: nothing, if it is empty. -/
def Namespace.stored (values : Namespace) : Option Namespace :=
  if values.isEmpty then none else some values

namespace ValueStore

-- ==================================================== putting copies back

/-- Stores that hold the same under every key are equal. -/
theorem ext_get? {s s' : ValueStore}
    (h : ∀ key, s.get? key = s'.get? key) : s = s' := by
  obtain ⟨m⟩ := s
  obtain ⟨m'⟩ := s'
  have : m = m' := SortedMap.ext_get? h
  rw [this]

/-- A copy that is put back takes the place of its own namespace only. -/
theorem get?_commit (s : ValueStore) (key key' : NamespaceKey)
    (values : Namespace) :
    (s.commit key values).get? key'
      = if key' = key then values.stored else s.get? key' := by
  unfold commit get? Namespace.stored
  by_cases hv : values.isEmpty = true
  · rw [if_pos hv, if_pos hv, SortedMap.get?_erase]
  · rw [if_neg hv, if_neg hv, SortedMap.get?_insert]

/-- A copy that is taken after one has been put back is that one. -/
theorem workingCopy_commit (s : ValueStore) (key : NamespaceKey)
    (values : Namespace) :
    (s.commit key values).workingCopy key = values := by
  unfold workingCopy
  rw [get?_commit, if_pos rfl]
  unfold Namespace.stored
  split
  case isFalse => rfl
  case isTrue hempty =>
    refine SortedMap.ext_get? fun name => ?_
    rw [SortedMap.isEmpty_iff.mp hempty name]
    rfl

/-- A working copy is read from its own namespace only. -/
theorem workingCopy_congr {s s' : ValueStore} {key : NamespaceKey}
    (h : s.get? key = s'.get? key) :
    s.workingCopy key = s'.workingCopy key := by
  unfold workingCopy
  rw [h]

-- ==================================================== no empty namespaces

/-- No stored namespace is empty. -/
def Compact (s : ValueStore) : Prop :=
  ∀ key values, s.get? key = some values → values.isEmpty = false

/-- What is stored of a working copy is not empty. -/
theorem isEmpty_of_stored {values stored : Namespace}
    (h : values.stored = some stored) :
    stored.isEmpty = false := by
  unfold Namespace.stored at h
  split at h
  case isTrue => cases h
  case isFalse hv =>
    injection h with h
    subst h
    simpa using hv

/-- No commit leaves an empty namespace behind. -/
theorem Compact.commit {s : ValueStore} (h : s.Compact) (key : NamespaceKey)
    (values : Namespace) : (s.commit key values).Compact := by
  intro key' stored hget
  rw [get?_commit] at hget
  split at hget
  · exact isEmpty_of_stored hget
  · exact h key' stored hget

/-- Where no stored namespace is empty, what is stored of an untouched
copy is what it was made from. -/
theorem stored_workingCopy {s : ValueStore} (h : s.Compact)
    (key : NamespaceKey) :
    (s.workingCopy key).stored = s.get? key := by
  unfold workingCopy
  cases hget : s.get? key with
  | none => rfl
  | some values =>
      rw [Option.getD_some]
      unfold Namespace.stored
      rw [h key values hget]
      rfl

/-- Putting an untouched copy back changes nothing. -/
theorem commit_workingCopy {s : ValueStore} (h : s.Compact)
    (key : NamespaceKey) :
    s.commit key (s.workingCopy key) = s := by
  refine ext_get? fun key' => ?_
  rw [get?_commit]
  split
  case isTrue hk => rw [hk, stored_workingCopy h]
  case isFalse => rfl

-- ==================================================== several copies

/-- Puts several working copies back, one after the other. -/
def commitAll (s : ValueStore)
    (copies : List (NamespaceKey × Namespace)) : ValueStore :=
  copies.foldl (fun s copy => s.commit copy.1 copy.2) s

/-- Putting copies back in two parts is putting all of them back. -/
theorem commitAll_append (s : ValueStore)
    (copies more : List (NamespaceKey × Namespace)) :
    s.commitAll (copies ++ more) = (s.commitAll copies).commitAll more :=
  List.foldl_append

/-- Namespaces of which no copy is put back stay as they are. -/
theorem get?_commitAll_of_not_mem {copies : List (NamespaceKey × Namespace)}
    {key : NamespaceKey} :
    ∀ {s : ValueStore}, key ∉ copies.map (·.1) →
      (s.commitAll copies).get? key = s.get? key := by
  induction copies with
  | nil => intro s _; rfl
  | cons copy rest ih =>
      intro s hkey
      rw [List.map_cons, List.mem_cons, not_or] at hkey
      show ((s.commit copy.1 copy.2).commitAll rest).get? key = s.get? key
      rw [ih hkey.2, get?_commit, if_neg hkey.1]

/-- Where no namespace is put back twice, each holds its copy afterwards. -/
theorem get?_commitAll_of_mem {copies : List (NamespaceKey × Namespace)}
    {key : NamespaceKey} {values : Namespace} :
    ∀ {s : ValueStore}, (copies.map (·.1)).Nodup → (key, values) ∈ copies →
      (s.commitAll copies).get? key = values.stored := by
  induction copies with
  | nil => intro s _ hmem; cases hmem
  | cons copy rest ih =>
      intro s hnodup hmem
      rw [List.map_cons, List.nodup_cons] at hnodup
      show ((s.commit copy.1 copy.2).commitAll rest).get? key = values.stored
      rcases List.mem_cons.mp hmem with rfl | hmem
      · rw [get?_commitAll_of_not_mem hnodup.1, get?_commit, if_pos rfl]
      · exact ih hnodup.2 hmem

/-- No sequence of commits leaves an empty namespace behind. -/
theorem Compact.commitAll {copies : List (NamespaceKey × Namespace)} :
    ∀ {s : ValueStore}, s.Compact → (s.commitAll copies).Compact := by
  induction copies with
  | nil => intro s h; exact h
  | cons copy rest ih => intro s h; exact ih (h.commit copy.1 copy.2)

-- ==================================================== parts of a store

/-- Stores that agree on some keys still do after the same commit. -/
private theorem agree_commit {part : NamespaceKey → Prop} {s s' : ValueStore}
    (h : ∀ key, part key → s.get? key = s'.get? key) (key : NamespaceKey)
    (values : Namespace) :
    ∀ key', part key' →
      (s.commit key values).get? key' = (s'.commit key values).get? key' := by
  intro key' hpart
  rw [get?_commit, get?_commit]
  split
  · rfl
  · exact h key' hpart

/-- Stores that agree on some keys still do after the same commits. -/
private theorem agree_commitAll {part : NamespaceKey → Prop}
    {copies : List (NamespaceKey × Namespace)} :
    ∀ {s s' : ValueStore}, (∀ key, part key → s.get? key = s'.get? key) →
      ∀ key, part key →
        (s.commitAll copies).get? key = (s'.commitAll copies).get? key := by
  induction copies with
  | nil => intro s s' h; exact h
  | cons copy rest ih => intro s s' h; exact ih (agree_commit h copy.1 copy.2)

/-- The namespaces of one service of a host, its own and those on nodes. -/
def Owns (host : HostName) (service : ServiceId) (key : NamespaceKey) : Prop :=
  key.host = host ∧ key.service = service

/-- Two stores hold the same for one service of a host. -/
def AgreeFor (host : HostName) (service : ServiceId)
    (s s' : ValueStore) : Prop :=
  ∀ key, Owns host service key → s.get? key = s'.get? key

/-- Stores that agree for a service still do after the same commit. -/
theorem AgreeFor.commit {host : HostName} {service : ServiceId}
    {s s' : ValueStore} (h : AgreeFor host service s s') (key : NamespaceKey)
    (values : Namespace) :
    AgreeFor host service (s.commit key values) (s'.commit key values) :=
  agree_commit h key values

/-- Stores that agree for a service still do after the same commits. -/
theorem AgreeFor.commitAll {host : HostName} {service : ServiceId}
    {copies : List (NamespaceKey × Namespace)} {s s' : ValueStore}
    (h : AgreeFor host service s s') :
    AgreeFor host service (s.commitAll copies) (s'.commitAll copies) :=
  agree_commitAll h

/-- Two stores hold the same for all services of a host. -/
def AgreeOn (host : HostName) (s s' : ValueStore) : Prop :=
  ∀ key : NamespaceKey, key.host = host → s.get? key = s'.get? key

/-- Stores that agree on a host agree for each of its services. -/
theorem AgreeOn.agreeFor {host : HostName} {s s' : ValueStore}
    (h : AgreeOn host s s') (service : ServiceId) :
    AgreeFor host service s s' := fun key howns => h key howns.1

/-- Stores that agree on a host still do after the same commits. -/
theorem AgreeOn.commitAll {host : HostName}
    {copies : List (NamespaceKey × Namespace)} {s s' : ValueStore}
    (h : AgreeOn host s s') :
    AgreeOn host (s.commitAll copies) (s'.commitAll copies) :=
  agree_commitAll h

end ValueStore

end HostWatch
