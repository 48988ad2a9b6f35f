import BatchScript.Files.Disk

/-!
# What programs do to files

A program that asks for no writing leaves every system of files in the state in which it is. On a
disk a write is refused before anything has changed, or it goes to the place of its path and leaves
an initial part of the bytes there, which is all of them if it is not refused in the end. What
stands at all other places is what stood there before.
-/
namespace BatchScript

namespace Access

variable {α β State : Type} {system : FileSystem State}

/-- The second of two programs runs in the state that the first one leaves. -/
theorem runOn_bind (first : Access α) (next : α → Access β) (state : State) :
    (first >>= next).runOn system state =
      (next (first.runOn system state).1).runOn system (first.runOn system state).2 := by
  induction first generalizing state with
  | done value => rfl
  | readFile path resume ih => exact ih _ state
  | isFile path resume ih => exact ih _ state
  | writeFile path contents resume ih => exact ih _ _

/-- A program that never asks for a file to be written, whatever the answers are. -/
inductive ReadsOnly : Access α → Prop
  /-- It has ended. -/
  | done (value : α) : ReadsOnly (.done value)
  /-- It reads a file and goes on so. -/
  | readFile {path : Path} {resume : Except FileError ByteArray → Access α}
    (onward : ∀ answer, ReadsOnly (resume answer)) : ReadsOnly (.readFile path resume)
  /-- It asks whether there is a file and goes on so. -/
  | isFile {path : Path} {resume : Except FileError Bool → Access α}
    (onward : ∀ answer, ReadsOnly (resume answer)) : ReadsOnly (.isFile path resume)

namespace ReadsOnly

/-- Two programs that only read make up one. -/
theorem bind {first : Access α} {next : α → Access β} (before : ReadsOnly first)
    (after : ∀ value, ReadsOnly (next value)) : ReadsOnly (first >>= next) := by
  induction before with
  | done value => exact after value
  | readFile _ ih => exact .readFile fun answer => ih answer
  | isFile _ ih => exact .isFile fun answer => ih answer

/-- A program that only reads leaves the state as it is. -/
theorem runOn_snd {program : Access α} (reads : ReadsOnly program) (system : FileSystem State)
    (state : State) : (program.runOn system state).2 = state := by
  induction reads with
  | done value => rfl
  | readFile _ ih => exact ih _
  | isFile _ ih => exact ih _

end ReadsOnly

end Access

namespace Disk

variable {disk after : Disk} {path : Path} {place : Place} {contents : ByteArray}

/-- An entry that was set is found at its place, and every other place keeps its entry. -/
theorem lookup_setEntry (place : Place) (entry : Entry) (entries : List (Place × Entry))
    (other : Place) :
    (setEntry place entry entries).lookup other =
      if other = place then some entry else entries.lookup other := by
  have apart : ∀ key : Place, other ≠ key → (other == key) = false := by simp
  induction entries with
  | nil =>
    rw [setEntry, List.lookup_cons]
    by_cases same : other = place
    · simp [same]
    · simp only [apart place same, if_neg same]
  | cons first rest ih =>
    obtain ⟨key, old⟩ := first
    by_cases here : key = place
    · subst key
      rw [setEntry, if_pos rfl, List.lookup_cons, List.lookup_cons]
      by_cases same : other = place
      · simp [same]
      · simp only [apart place same, if_neg same]
    · rw [setEntry, if_neg here, List.lookup_cons, List.lookup_cons, ih]
      by_cases found : other = key
      · subst other
        simp [here]
      · simp only [apart key found]

/-- An entry that was set where no directory stands is found there, and every other place keeps what
stands at it. -/
theorem find?_set (free : disk.find? place ≠ some .directory) (entry : Entry) (other : Place) :
    (disk.set place entry).find? other =
      if other = place then some entry else disk.find? other := by
  have below : place.isPrefixOf disk.workingDirectory = false := by
    rw [← Bool.not_eq_true]
    intro above
    exact free (by rw [find?, if_pos above])
  have directory : (disk.set place entry).workingDirectory = disk.workingDirectory := rfl
  have entries : (disk.set place entry).entries = setEntry place entry disk.entries := rfl
  rw [find?, find?, directory, entries, lookup_setEntry]
  by_cases same : other = place
  · subst other
    rw [if_pos rfl, if_pos rfl, below]
    rfl
  · rw [if_neg same, if_neg same]

/-- Of two entries that are set at one place the second one remains. -/
theorem setEntry_setEntry (place : Place) (first second : Entry) (entries : List (Place × Entry)) :
    setEntry place second (setEntry place first entries) = setEntry place second entries := by
  induction entries with
  | nil => simp [setEntry]
  | cons head rest ih =>
    obtain ⟨key, old⟩ := head
    by_cases here : key = place
    · simp [setEntry, here]
    · simp [setEntry, here, ih]

/-- A device keeps nothing. -/
theorem keep_of_device (device : disk.find? place = some .device) (contents : ByteArray) :
    disk.keep place contents = disk := by
  rw [keep, device]

/-- Anything but a device keeps the bytes. -/
theorem keep_of_not_device (other : disk.find? place ≠ some .device) (contents : ByteArray) :
    disk.keep place contents = disk.set place (.file contents) := by
  rw [keep]
  split
  · contradiction
  · rfl

/-- Of two contents that are kept at one place the second one remains. -/
theorem keep_keep (free : disk.find? place ≠ some .directory) (first second : ByteArray) :
    (disk.keep place first).keep place second = disk.keep place second := by
  by_cases device : disk.find? place = some .device
  · rw [keep_of_device device]
  · have there : (disk.set place (.file first)).find? place = some (.file first) := by
      rw [find?_set free, if_pos rfl]
    rw [keep_of_not_device device, keep_of_not_device device, keep_of_not_device (by simp [there])]
    simp [set, setEntry_setEntry]

/-- What is kept at a place leaves every other place as it is. -/
theorem find?_keep (free : disk.find? place ≠ some .directory) (contents : ByteArray)
    {other : Place} (apart : other ≠ place) :
    (disk.keep place contents).find? other = disk.find? other := by
  rw [keep]
  split
  · rfl
  · rw [find?_set free, if_neg apart]

/-- Two disks with the same working directory, of which the second has the directories of the first
and refuses the same. -/
structure SameWays (disk after : Disk) : Prop where
  /-- Relative paths start at the same place. -/
  home : after.workingDirectory = disk.workingDirectory
  /-- The same is refused. -/
  refusal : after.refusal = disk.refusal
  /-- Directories are kept. -/
  kept : ∀ way, disk.find? way = some .directory → after.find? way = some .directory

/-- What is kept at a place leaves the ways as they are. -/
theorem sameWays_keep (free : disk.find? place ≠ some .directory) (contents : ByteArray) :
    disk.SameWays (disk.keep place contents) := by
  refine ⟨?_, ?_, fun way directory => ?_⟩
  · rw [keep]
    split <;> rfl
  · rw [keep]
    split <;> rfl
  · -- The way to the place does not pass it, since there is no directory.
    have apart : way ≠ place := fun same => free (same ▸ directory)
    rw [find?_keep free contents apart, directory]

/-- A step from a directory leads to the same place on both disks. -/
theorem SameWays.step {way : Place} {part : Text} (same : disk.SameWays after)
    (led : disk.step way part = .ok place) : after.step way part = .ok place := by
  have allowed : after.allow .pass way = disk.allow .pass way := by rw [allow, allow, same.refusal]
  rw [Disk.step] at led ⊢
  split at led
  · cases led
  · rename_i directory
    rw [same.kept way directory]
    simp only [allowed]
    exact led
  · cases led

/-- A path leads to the same place on both disks. -/
theorem SameWays.locate (same : disk.SameWays after) (led : disk.locate path = .ok place) :
    after.locate path = .ok place := by
  rw [Disk.locate] at led ⊢
  split at led
  · cases led
  · rename_i short
    rw [if_neg short, same.home]
    generalize (if path.root.isEmpty then disk.workingDirectory else []) = start at led ⊢
    generalize path.parts = parts at led ⊢
    induction parts generalizing start with
    | nil => exact led
    | cons part parts ih =>
      rw [List.foldlM_cons] at led ⊢
      cases first : disk.step start part with
      | error cause =>
        rw [first] at led
        cases led
      | ok next =>
        rw [first] at led
        rw [same.step first]
        exact ih next led

/-- A write was begun at the place of a path, and has left these bytes there, unless there is a
device. -/
structure WrittenAt (disk : Disk) (path : Path) (place : Place) (contents : ByteArray)
    (after : Disk) : Prop where
  /-- The path leads to the place. -/
  located : disk.locate path = .ok place
  /-- It still does. -/
  again : after.locate path = .ok place
  /-- A write to a device changes nothing. -/
  device : disk.find? place = some .device → after = disk
  /-- Otherwise there is a file with the bytes. -/
  file : disk.find? place ≠ some .device → after.find? place = some (.file contents)
  /-- They are read back unless this is refused. -/
  readBack : disk.find? place ≠ some .device → disk.refusal .read place = none →
    after.read path = .ok contents
  /-- All other places are as they were. -/
  others : ∀ other, other ≠ place → after.find? other = disk.find? other

/-- Bytes that are kept at the place of a path are written there. -/
theorem writtenAt_keep (located : disk.locate path = .ok place)
    (free : disk.find? place ≠ some .directory) (contents : ByteArray) :
    disk.WrittenAt path place contents (disk.keep place contents) := by
  have same := sameWays_keep free contents
  have again := same.locate located
  have file : disk.find? place ≠ some .device →
      (disk.keep place contents).find? place = some (.file contents) := by
    intro other
    rw [keep_of_not_device other, find?_set free, if_pos rfl]
  refine ⟨located, again, fun device => keep_of_device device contents, file, ?_,
    fun other apart => find?_keep free contents apart⟩
  intro other permitted
  have allowed : (disk.keep place contents).allow .read place = .ok () := by
    rw [allow, same.refusal, permitted]
  simp only [read, again, file other, allowed, bind, Except.bind]
  rfl

/-- How a write to a disk goes: the answer, and the disk that it leaves. -/
inductive Writing (disk : Disk) (path : Path) (contents : ByteArray) :
    Except FileError Unit → Disk → Prop
  /-- The file cannot be opened. -/
  | closed {cause : FileError} (refused : disk.openFile path = .error cause) :
    Writing disk path contents (.error cause) disk
  /-- The file was opened, and the write breaks down after some bytes. -/
  | broken {place : Place} {count : Nat} {cause : FileError} {after : Disk}
    (stops : disk.breakdown place contents = some (count, cause))
    (written : disk.WrittenAt path place (contents.extract 0 count) after) :
    Writing disk path contents (.error cause) after
  /-- The file was opened and all is written. -/
  | whole {place : Place} {after : Disk} (runs : disk.breakdown place contents = none)
    (written : disk.WrittenAt path place contents after) : Writing disk path contents (.ok ()) after

/-- A file is opened where no directory stands, and is empty then. -/
theorem of_openFile (opened : disk.openFile path = .ok (place, after)) :
    disk.locate path = .ok place ∧ disk.find? place ≠ some .directory ∧
      after = disk.keep place .empty := by
  cases located : disk.locate path with
  | error cause =>
    rw [openFile, located] at opened
    cases opened
  | ok target =>
    simp only [openFile, located, bind, Except.bind] at opened
    split at opened
    · cases opened
    · rename_i free
      cases allowed : disk.allow .write target with
      | error cause =>
        rw [allowed] at opened
        cases opened
      | ok =>
        rw [allowed] at opened
        cases opened
        exact ⟨rfl, free, rfl⟩

/-- Every write goes in one of these ways. -/
theorem writing_write (disk : Disk) (path : Path) (contents : ByteArray) :
    Writing disk path contents (disk.write path contents).1 (disk.write path contents).2 := by
  rw [write]
  cases opened : disk.openFile path with
  | error cause => exact .closed opened
  | ok target =>
    obtain ⟨place, emptied⟩ := target
    obtain ⟨located, free, rfl⟩ := of_openFile opened
    have breaks : (disk.keep place .empty).breakdown = disk.breakdown := by
      rw [keep]
      split <;> rfl
    simp only [fill, breaks, keep_keep free]
    cases stops : disk.breakdown place contents with
    | none => exact .whole stops (writtenAt_keep located free contents)
    | some stop => exact .broken stops (writtenAt_keep located free _)

/-- A write with some answer and some disk behind it has gone in one of these ways. -/
theorem writing_of_write {answer : Except FileError Unit}
    (wrote : Disk.system.write disk path contents = (answer, after)) :
    Writing disk path contents answer after := by
  have goes := writing_write disk path contents
  have same : disk.write path contents = (answer, after) := wrote
  rwa [same] at goes

end Disk

end BatchScript
