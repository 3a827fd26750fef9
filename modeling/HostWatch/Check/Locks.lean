/-
The services that are being checked at a moment, over all hosts. A service
is checked by one call at a time, so that no call overwrites what another
one wants to be remembered.
-/
import HostWatch.Name

namespace HostWatch

/-- What is checked by one call at a time: a service of a host. -/
structure LockKey where
  host : HostName
  service : ServiceId
deriving DecidableEq, Repr, Inhabited

namespace LockKey

/-- Keys are ordered by host, then by service. -/
instance : Ord LockKey where
  compare := compareLex (compareOn (·.host)) (compareOn (·.service))

instance : Std.TransOrd LockKey :=
  inferInstanceAs (Std.TransCmp
    (compareLex (compareOn (·.host)) (compareOn fun k : LockKey => k.service)))

instance : Std.LawfulEqOrd LockKey where
  eq_of_compare {a b} h := by
    obtain ⟨h1, h2⟩ := Ordering.then_eq_eq.mp h
    have e1 : a.host = b.host := Std.LawfulEqOrd.eq_of_compare h1
    have e2 : a.service = b.service := Std.LawfulEqOrd.eq_of_compare h2
    cases a; cases b; simp_all

end LockKey

/-- The keys of the calls under way. -/
structure InvocationLocks where
  keys : SortedMap LockKey Unit

namespace InvocationLocks

/-- No calls under way. -/
def empty : InvocationLocks := ⟨∅⟩

instance : EmptyCollection InvocationLocks := ⟨empty⟩
instance : Inhabited InvocationLocks := ⟨empty⟩

/-- Whether a call with a key is under way. -/
def holds (l : InvocationLocks) (key : LockKey) : Bool := l.keys.contains key

/-- Takes a key; while a call with that key is under way, one has to wait. -/
def acquire? (l : InvocationLocks) (key : LockKey) : Option InvocationLocks :=
  if l.holds key then none else some ⟨l.keys.insert key ()⟩

/-- Gives a key back. -/
def release (l : InvocationLocks) (key : LockKey) : InvocationLocks := ⟨l.keys.erase key⟩

/-- The number of calls under way. -/
def inFlight (l : InvocationLocks) : Nat := l.keys.size

end InvocationLocks

end HostWatch
