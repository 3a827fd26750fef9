/-
What is written to a disk is read again under the same path, and what is
moved is read under its new one.

Paths are followed through directories only, and neither writing nor moving
a file takes a directory away (`Keeps`). So a path leads to the same place
before and after (`Keeps.resolve`), and that is where the file has been put.
-/
import HostWatch.Disk

namespace HostWatch.Disk

variable {d d' : Disk} {path : Path} {content : ByteArray}

-- ==================================================== directories that stay

/-- Where there was a directory, there still is one. -/
def Keeps (d d' : Disk) : Prop :=
  ∀ place, d.node? place = some .directory → d'.node? place = some .directory

theorem Keeps.trans {d'' : Disk} (h : d.Keeps d') (h' : d'.Keeps d'') :
    d.Keeps d'' :=
  fun place hplace => h' place (h place hplace)

/-- A step that could be made can be made where directories have stayed. -/
private theorem Keeps.follow (h : d.Keeps d') {place next : Place}
    {step : String} (hstep : d.follow place step = .ok next) :
    d'.follow place step = .ok next := by
  unfold Disk.follow at hstep ⊢
  split at hstep
  case h_1 => cases hstep
  case h_2 => cases hstep
  case h_3 hplace =>
    rw [h place hplace]
    exact hstep

/-- Steps that could be made can be made where directories have stayed. -/
private theorem Keeps.follow_all (h : d.Keeps d') (steps : List String) :
    ∀ {place final : Place}, steps.foldlM d.follow place = .ok final →
      steps.foldlM d'.follow place = .ok final := by
  induction steps with
  | nil => intro place final hsteps; exact hsteps
  | cons step rest ih =>
      intro place final hsteps
      rw [List.foldlM_cons] at hsteps ⊢
      cases hstep : d.follow place step with
      | error e => rw [hstep] at hsteps; cases hsteps
      | ok next =>
          rw [hstep] at hsteps
          rw [h.follow hstep]
          exact ih hsteps

/-- A path leads to the same place where directories have stayed. -/
theorem Keeps.resolve (h : d.Keeps d') {place : Place}
    (hpath : d.resolve path = .ok place) : d'.resolve path = .ok place := by
  unfold Disk.resolve at hpath ⊢
  generalize checkPath path = valid at hpath ⊢
  cases valid with
  | error e => cases hpath
  | ok => exact h.follow_all _ hpath

-- ==================================================== putting things

/-- Where there is no directory is no place to start from. -/
private theorem isStart_of_node? {place : Place}
    (h : d.node? place ≠ some .directory) : place.isStart = false := by
  rw [← Bool.not_eq_true]
  exact fun hstart => h (if_pos hstart)

/-- What stands at a place that is none to start from. -/
private theorem node?_of_not_start {place : Place}
    (h : place.isStart = false) : d.node? place = d.nodes.get? place.name := by
  unfold node?
  rw [h, if_neg Bool.false_ne_true]

/-- No directory goes where nothing but one place without one changes. -/
private theorem keeps_of_get? {place : Place}
    (hplace : d.node? place ≠ some .directory)
    (h : ∀ name, name ≠ place.name →
      d'.nodes.get? name = d.nodes.get? name) : d.Keeps d' := by
  intro other hother
  by_cases hstart : other.isStart = true
  · exact if_pos hstart
  · rw [Bool.not_eq_true] at hstart
    rw [node?_of_not_start hstart] at hother ⊢
    have hname : other.name ≠ place.name := by
      intro hname
      rw [node?_of_not_start (isStart_of_node? hplace), ← hname] at hplace
      exact hplace hother
    rw [h other.name hname, hother]

/-- Something is put where there is no directory: there it stands, and no
directory goes. -/
theorem put_ok {place : Place} (node : DiskNode)
    (hplace : d.node? place ≠ some .directory) :
    (d.put place node).node? place = some node
      ∧ d.Keeps (d.put place node) := by
  unfold put
  constructor
  · rw [node?_of_not_start (isStart_of_node? hplace), SortedMap.get?_insert,
      if_pos rfl]
  · refine keeps_of_get? hplace fun name hname => ?_
    rw [SortedMap.get?_insert, if_neg hname]

/-- No directory goes where something else is taken away. -/
theorem keeps_erase {place : Place}
    (hplace : d.node? place ≠ some .directory) :
    d.Keeps ⟨d.nodes.erase place.name⟩ := by
  refine keeps_of_get? hplace fun name hname => ?_
  rw [SortedMap.get?_erase, if_neg hname]

/-- Where there is no directory there is none after something has been taken
away. -/
private theorem free_of_erase {place : Place} (name : String)
    (hplace : d.node? place ≠ some .directory) :
    Disk.node? ⟨d.nodes.erase name⟩ place ≠ some .directory := by
  have hstart := isStart_of_node? hplace
  rw [node?_of_not_start hstart] at hplace ⊢
  rw [SortedMap.get?_erase]
  split
  case isTrue => exact fun h => by cases h
  case isFalse => exact hplace

-- ==================================================== files

/-- The content that is read is that of the file to which the path leads. -/
theorem read_eq_ok_iff :
    d.read path = .ok content
      ↔ ∃ place, d.resolve path = .ok place
        ∧ d.node? place = some (.file content) := by
  unfold read find
  cases d.resolve path with
  | error e => exact ⟨fun h => (by cases h), fun ⟨_, h, _⟩ => (by cases h)⟩
  | ok place =>
      simp only [bind, Except.bind, Except.ok.injEq, exists_eq_left']
      cases d.node? place with
      | none => simp
      | some node => cases node <;> simp

/-- What can be read is there. -/
theorem contains_of_read (h : d.read path = .ok content) :
    d.contains path = true := by
  obtain ⟨place, hpath, hnode⟩ := read_eq_ok_iff.mp h
  unfold contains find
  simp only [hpath, hnode, bind, Except.bind]

/-- The bytes of a text are read as that text. -/
theorem readText_of_read {text : String}
    (h : d.read path = .ok text.toUTF8) : d.readText path = .ok text := by
  have htext : String.fromUTF8? text.toUTF8 = some text :=
    dif_pos text.isValidUTF8
  unfold readText
  simp only [h, htext, bind, Except.bind]

/-- What has been written is read. -/
theorem read_write (h : d.write path content = .ok d') :
    d'.read path = .ok content := by
  unfold write at h
  cases hpath : d.resolve path with
  | error e => rw [hpath] at h; cases h
  | ok place =>
      simp only [hpath, bind, Except.bind] at h
      split at h
      case h_1 => cases h
      case h_2 hplace =>
        injection h with h
        subst h
        obtain ⟨hput, hkeeps⟩ := put_ok (.file content) hplace
        exact read_eq_ok_iff.mpr ⟨place, hkeeps.resolve hpath, hput⟩

/-- What has been moved is read under its new path. -/
theorem read_rename {source target : Path}
    (h : d.rename source target = .ok d') :
    d'.read target = d.read source := by
  unfold rename at h
  cases hsource : d.read source with
  | error e => rw [hsource] at h; cases h
  | ok content =>
      obtain ⟨old, hold, hfile⟩ := read_eq_ok_iff.mp hsource
      cases htarget : d.resolve target with
      | error e => simp only [hsource, hold, htarget] at h; cases h
      | ok new =>
          simp only [hsource, hold, htarget, bind, Except.bind] at h
          split at h
          case h_1 => cases h
          case h_2 hnew =>
            injection h with h
            subst h
            have herase : d.Keeps ⟨d.nodes.erase old.name⟩ := by
              refine keeps_erase ?_
              rw [hfile]
              exact fun h => by cases h
            obtain ⟨hput, hkeeps⟩ :=
              put_ok (.file content) (free_of_erase old.name hnew)
            exact read_eq_ok_iff.mpr
              ⟨new, (herase.trans hkeeps).resolve htarget, hput⟩

end HostWatch.Disk
