import BatchScript.Proofs.Data.Toml.Limits
import BatchScript.Proofs.Files.Disk
import BatchScript.Proofs.Settings.StoredNames

/-!
# When a configuration is refused

Besides the problems that are reported as such, a configuration is refused if the files do not say
whether there is one, if it is there and may not be read, for bytes that are no text, and for
integers and nested values beyond the limits of the reader. A path that leads nowhere is no refusal,
and what was loaded either has a problem or makes up a store whose commands can be had.

All of this holds for every system of files, whatever it answers, and for any room for nested
values.
-/
namespace BatchScript.Settings

open Data (Entries Nesting)

/-- The causes, other than a bad configuration, for which the bytes of a configuration are
refused. -/
inductive Unparsable (nesting : Nesting) (contents : ByteArray) : Error → Prop
  /-- They are no text. -/
  | bytes (undecodable : String.fromUTF8? contents = none) : Unparsable nesting contents .notUtf8
  /-- An integer has too many digits. -/
  | digits {text : String} {count : Nat} (decoded : String.fromUTF8? contents = some text)
    (refused : Toml.read nesting.toml text.toList = .error (.numeralTooLong count)) :
    Unparsable nesting contents (.numeralTooLong count)
  /-- Values are nested too deeply. -/
  | depth {text : String} {occasion : Text} (decoded : String.fromUTF8? contents = some text)
    (refused : Toml.read nesting.toml text.toList = .error (.tooDeep occasion)) :
    Unparsable nesting contents (.tooDeep occasion)

variable {State : Type}

/-- The causes, other than a bad configuration, for which the configuration at a path is refused. -/
inductive Unloadable (system : FileSystem State) (state : State) (nesting : Nesting) (path : Path) :
    Error → Prop
  /-- The question whether there is a file is refused, and not because the path leads nowhere. -/
  | question {cause : FileError} (refused : system.isFile state path = .error cause)
    (somewhere : cause.leadsNowhere = false) :
    Unloadable system state nesting path (.refused cause path.toText)
  /-- There is a file, but it cannot be read. -/
  | reading {cause : FileError} (found : system.isFile state path = .ok true)
    (refused : system.read state path = .error cause) :
    Unloadable system state nesting path (.refused cause path.toText)
  /-- There is a file, but with such bytes. -/
  | contents {contents : ByteArray} {cause : Error} (found : system.isFile state path = .ok true)
    (read : system.read state path = .ok contents)
    (unparsable : Unparsable nesting contents cause) :
    Unloadable system state nesting path cause

/-- It is known whether there is a configuration, and if so it can be read as a text within the
limits. -/
structure Loadable (system : FileSystem State) (state : State) (nesting : Nesting) (path : Path) :
    Prop where
  /-- The question is answered, or refused because the path leads nowhere. -/
  answered : ∀ cause, system.isFile state path = .error cause → cause.leadsNowhere = true
  /-- A file that is there can be read, and the reader does not come to its limits. -/
  within : system.isFile state path = .ok true →
    ∃ contents text, system.read state path = .ok contents ∧
      String.fromUTF8? contents = some text ∧ Toml.limits.Within nesting.toml text.toList

variable {system : FileSystem State} {state : State} {nesting : Nesting} {path : Path}
  {cause : Error}

/-- Such a configuration is refused for none of these causes. -/
theorem Loadable.not_unloadable (loadable : Loadable system state nesting path) (cause : Error) :
    ¬ Unloadable system state nesting path cause := by
  intro unloadable
  cases unloadable with
  | question refused somewhere => cases (loadable.answered _ refused).symm.trans somewhere
  | reading found refused =>
    obtain ⟨contents, text, read, -⟩ := loadable.within found
    cases read.symm.trans refused
  | contents found same unparsable =>
    obtain ⟨contents, text, read, decoded, within⟩ := loadable.within found
    obtain rfl := Except.ok.inj (read.symm.trans same)
    have answer := Toml.read_within_limits within
    cases unparsable with
    | bytes undecodable => cases decoded.symm.trans undecodable
    | digits same refused =>
      obtain rfl := Option.some.inj (decoded.symm.trans same)
      simp [refused] at answer
    | depth same refused =>
      obtain rfl := Option.some.inj (decoded.symm.trans same)
      simp [refused] at answer

/-- None of these causes is a problem with a configuration. -/
theorem Unloadable.other (unloadable : Unloadable system state nesting path cause) :
    ∀ problem path, cause ≠ .config problem path := by
  cases unloadable with
  | question => simp
  | reading => simp
  | contents found read unparsable => cases unparsable <;> simp

/-- A problem with a configuration is the only other cause for which its bytes are refused. -/
theorem parse_eq_error_iff {contents : ByteArray}
    (other : ∀ problem path, cause ≠ .config problem path) :
    parse nesting path contents = .error cause ↔ Unparsable nesting contents cause := by
  rw [parse]
  cases decoded : String.fromUTF8? contents with
  | none =>
    constructor
    · intro refused
      obtain rfl := Except.error.inj refused
      exact .bytes decoded
    · intro unparsable
      cases unparsable with
      | bytes => rfl
      | digits found => rw [decoded] at found; cases found
      | depth found => rw [decoded] at found; cases found
  | some text =>
    constructor
    · intro refused
      simp only at refused
      split at refused
      · cases refused
      · obtain rfl := Except.error.inj refused
        exact absurd rfl (other _ _)
      · obtain rfl := Except.error.inj refused
        exact .digits decoded (by assumption)
      · obtain rfl := Except.error.inj refused
        exact .depth decoded (by assumption)
    · intro unparsable
      cases unparsable with
      | bytes none => rw [decoded] at none; cases none
      | digits found refused =>
        obtain rfl := Option.some.inj (decoded.symm.trans found)
        simp only [refused]
      | depth found refused =>
        obtain rfl := Option.some.inj (decoded.symm.trans found)
        simp only [refused]

/-- What loading gives for the answers to its two requests. -/
def loaded (nesting : Nesting) (path : Path) (asked : Except FileError Bool)
    (read : Except FileError ByteArray) : Except Error Entries :=
  match asked with
  | .ok false => .ok []
  | .ok true =>
    match read with
    | .ok contents => parse nesting path contents
    | .error cause => .error (.refused cause path.toText)
  | .error cause => if cause.leadsNowhere then .ok [] else .error (.refused cause path.toText)

variable {config : Option Path} {directory : Path}

/-- Loading asks for the file, and reads it only if it is there. -/
theorem runOn_load (named : (config.getD (directory.child fileName)).hasNull = false) :
    let path := config.getD (directory.child fileName)
    ((load config directory nesting).runOn system state).1.1 =
      loaded nesting path (system.isFile state path) (system.read state path) := by
  intro path
  rw [load, Access.runOn_bind, isFile]
  simp only [path, named, Bool.false_eq_true, if_false, Access.runOn_bind, Access.exists?,
    Access.runOn]
  cases system.isFile state (config.getD (directory.child fileName)) with
  | ok found =>
    cases found with
    | false => rfl
    | true =>
      simp only [Access.runOn_bind, Access.read, Access.runOn, pure, loaded]
      cases system.read state (config.getD (directory.child fileName)) with
      | ok contents => rfl
      | error cause => rfl
  | error cause =>
    cases cause <;> rfl

/-- A problem with a configuration is the only other cause for which loading fails. -/
theorem load_eq_error_iff (named : (config.getD (directory.child fileName)).hasNull = false)
    (other : ∀ problem path, cause ≠ .config problem path) :
    ((load config directory nesting).runOn system state).1.1 = .error cause ↔
      Unloadable system state nesting (config.getD (directory.child fileName)) cause := by
  rw [runOn_load named]
  generalize config.getD (directory.child fileName) = path
  constructor
  · intro failed
    unfold loaded at failed
    split at failed
    · cases failed
    · rename_i found
      split at failed
      · rename_i contents read
        exact .contents found read ((parse_eq_error_iff other).1 failed)
      · rename_i reason refused
        cases failed
        exact .reading found refused
    · rename_i reason refused
      split at failed
      · cases failed
      · rename_i somewhere
        cases failed
        exact .question refused (Bool.eq_false_iff.2 somewhere)
  · intro unloadable
    cases unloadable with
    | question refused somewhere => simp [loaded, refused, somewhere]
    | reading found refused => simp [loaded, found, refused]
    | contents found read unparsable =>
      simp only [loaded, found, read]
      exact (parse_eq_error_iff other).2 unparsable

/-- Custom commands are refused, absent or written as names. -/
theorem commandsText_cases (value : Option Data) :
    commandsText value = .error (.config .badCommands none) ∨ commandsText value = .ok none ∨
      ∃ names, commandsText value = .ok (some (Json.writeStrings names)) := by
  unfold commandsText
  split
  · exact .inr (.inl rfl)
  · split
    · exact .inr (.inr ⟨_, rfl⟩)
    · exact .inl rfl

/-- Special variables are refused or kept. -/
theorem variablesText_cases (value : Option Data) :
    variablesText value = .error (.config .badVariables none) ∨
      ∃ kept, variablesText value = .ok kept := by
  unfold variablesText
  split
  · exact .inr ⟨_, rfl⟩
  · exact .inr ⟨_, rfl⟩
  · split
    · exact .inr ⟨_, rfl⟩
    · exact .inl rfl

/-- The result of making a store is a problem of a configuration, or a store whose commands can be
had. -/
def Usable (nesting : Nesting) (result : Except Error Store) : Prop :=
  (∃ problem, result = .error (.config problem none)) ∨
    ∃ made names warnings, result = .ok made ∧
      Hint.customCommands made nesting = .ok (names, warnings)

/-- Whatever two settings are, they make up a usable store or are a problem. -/
theorem usable_storeOf (nesting : Nesting) (commands specials : Option Data) :
    Usable nesting (storeOf commands specials) := by
  rw [storeOf]
  rcases variablesText_cases specials with refused | ⟨kept, keeps⟩
  all_goals rcases commandsText_cases commands with bad | absent | ⟨names, written⟩
  · exact .inl ⟨_, by rw [bad]; rfl⟩
  · exact .inl ⟨_, by rw [absent, refused]; rfl⟩
  · exact .inl ⟨_, by rw [written, refused]; rfl⟩
  · exact .inl ⟨_, by rw [bad]; rfl⟩
  · exact .inr ⟨⟨none, kept⟩, [], [], by rw [absent, keeps]; rfl, rfl⟩
  · exact .inr ⟨_, names, [], by rw [written, keeps]; rfl,
      customCommands_writeStrings names kept nesting⟩

/-- Whatever a configuration is, it makes up a usable store or has a problem. -/
theorem usable_store (nesting : Nesting) (entries : Entries) : Usable nesting (store entries) := by
  rw [store]
  split
  · exact .inr ⟨.empty, [], [], rfl, rfl⟩
  · exact usable_storeOf nesting _ _
  · exact .inl ⟨_, rfl⟩

end BatchScript.Settings
