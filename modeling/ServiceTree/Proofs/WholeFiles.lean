import Mathlib.Data.List.Basic
import ServiceTree.Storage.FileSystem

/-!
# What writing a file whole leaves alone

A file is written under the name that its content has while it is not complete, and takes its own name from there.
So besides the file itself there is one name that writing is free to use: what had that name before is lost if the
file is written. All else stays as it was, and only directories that are missing on the way to the file are added.
If the file is not written, what it held before is still there.
-/

namespace ServiceTree

open FileSystem (start step)

namespace FilePath

/-- The name of the location that a path means, wherever its directories are there. A path that can only mean a
directory means no file. -/
def place? (path : FilePath) : Option String :=
  if path.isClosed then none
  else path.fileName?.map fun name => nameOf (path.parts.dropLast.foldl step (start path) ++ [name])

/-- The path where the content of a file stands until it is complete. -/
def unfinished (path : FilePath) : FilePath := path.withExtension FileSystem.unfinishedExtension

/-- Whether a name is that of a directory on the way to what a path means. -/
def LeadsThrough (path : FilePath) (name : String) : Prop :=
  ∃ parts, parts <+: path.parts.dropLast ∧ parts ≠ [] ∧ name = nameOf (parts.foldl step (start path))

/-- Entries of one directory have the same name only if they are the same. -/
theorem eq_of_nameOf {directory : Location} {name other : String}
    (h : nameOf (directory ++ [name]) = nameOf (directory ++ [other])) : name = other := by
  cases directory with
  | nil => simpa [nameOf] using h
  | cons first rest =>
    rw [nameOf, nameOf, String.intercalate_append_of_ne_nil (List.cons_ne_nil _ _) (List.cons_ne_nil _ _),
      String.intercalate_append_of_ne_nil (List.cons_ne_nil _ _) (List.cons_ne_nil _ _),
      String.append_right_inj] at h
    simpa using h

/-- The content of a file stands unfinished at the place of the file only if the path stays the same. -/
theorem unfinished_eq_self {path : FilePath} {place : String} (hplace : path.place? = some place)
    (hunfinished : path.unfinished.place? = some place) : path.unfinished = path := by
  rw [place?] at hplace
  split at hplace
  · cases hplace
  case isFalse hopen =>
    obtain ⟨name, hname, hlocation⟩ := Option.map_eq_some_iff.mp hplace
    rw [unfinished, withExtension, hname] at hunfinished ⊢
    dsimp only at hunfinished ⊢
    rw [place?, if_neg Bool.false_ne_true] at hunfinished
    obtain ⟨other, hother, hsame⟩ := Option.map_eq_some_iff.mp hunfinished
    rw [List.dropLast_concat] at hsame
    obtain rfl : other = name := eq_of_nameOf (hsame.trans hlocation.symm)
    rw [fileName?, List.getLast?_concat, Option.filter_eq_some_iff] at hother
    rw [fileName?, Option.filter_eq_some_iff] at hname
    have hparts : path.parts.dropLast ++ [other] = path.parts := List.dropLast_append_getLast? _ hname.1
    rw [Option.some_inj.mp hother.1, hparts]
    obtain ⟨isAbsolute, parts, isClosed⟩ := path
    exact congrArg (FilePath.mk isAbsolute parts) (Bool.not_eq_true _ ▸ hopen).symm

end FilePath

namespace FileSystem

/-- What there is under a name. -/
def named? (fs : FileSystem) (name : String) : Option Node := fs.entries.lookup name

/-- What is under a name stays as it was, or nothing was there and now a directory is, through which the path
leads. -/
def Kept (path : FilePath) (before after : FileSystem) (name : String) : Prop :=
  after.named? name = before.named? name ∨
    before.named? name = none ∧ after.named? name = some .directory ∧ path.LeadsThrough name

/-- All directories of one file system are directories of another. -/
def KeepsDirectories (before after : FileSystem) : Prop :=
  ∀ name, before.named? name = some .directory → after.named? name = some .directory

variable {fs before after made written renamed : FileSystem} {location : Location} {name : String}
  {path source target : FilePath} {bytes : ByteArray} {node : Node}

/-! ## Entries -/

/-- Nothing is under the name of a location that is erased; what other names have stays. -/
theorem named?_erase (fs : FileSystem) (location : Location) (name : String) :
    (fs.erase location).named? name = if name = nameOf location then none else fs.named? name := by
  obtain ⟨entries⟩ := fs
  simp only [erase, named?]
  induction entries with
  | nil => simp
  | cons entry rest ih =>
    obtain ⟨key, node⟩ := entry
    rw [List.filter_cons, List.lookup_cons]
    by_cases hkey : key = nameOf location
    · rw [if_neg (by simpa using hkey), ih]
      subst hkey
      split
      · rfl
      case isFalse hname => rw [beq_eq_false_iff_ne.mpr hname]
    · rw [if_pos (by simpa using hkey), List.lookup_cons, ih]
      cases hname : name == key with
      | false => rfl
      | true => exact (if_neg (beq_iff_eq.mp hname ▸ hkey)).symm

/-- The name of a location has what is put there; what other names have stays. -/
theorem named?_put (fs : FileSystem) (location : Location) (node : Node) (name : String) :
    (fs.put location node).named? name = if name = nameOf location then some node else fs.named? name := by
  have herased := fs.named?_erase location name
  rw [named?] at herased
  rw [put, named?, List.lookup_append, herased, List.lookup_cons, List.lookup_nil]
  by_cases hname : name = nameOf location
  · rw [if_pos hname, if_pos hname, beq_iff_eq.mpr hname]
    rfl
  · rw [if_neg hname, if_neg hname, beq_eq_false_iff_ne.mpr hname]
    exact Option.or_none

/-- Where there is no directory, there is what is under the name of the location. -/
theorem node?_of_not_isDirectory (h : fs.isDirectory location = false) :
    isGiven location = false ∧ fs.node? location = fs.named? (nameOf location) ∧
      fs.named? (nameOf location) ≠ some .directory := by
  have hgiven : isGiven location = false := by
    by_contra hgiven
    rw [isDirectory, node?, if_pos (Bool.not_eq_false _ ▸ hgiven)] at h
    cases h
  have hnode : fs.node? location = fs.named? (nameOf location) := by
    rw [node?, hgiven]
    rfl
  refine ⟨hgiven, hnode, fun hentry => ?_⟩
  rw [isDirectory, hnode, hentry] at h
  cases h

/-- A directory is one that is always there or one that has its name. -/
theorem isDirectory_iff : fs.isDirectory location = true ↔
    isGiven location = true ∨ fs.named? (nameOf location) = some .directory := by
  rw [isDirectory, node?, named?]
  cases isGiven location with
  | true => simp
  | false =>
    cases fs.entries.lookup (nameOf location) with
    | none => simp
    | some node => cases node <;> simp

/-! ## Finding a file -/

/-- A walk through directories goes the same way where they are kept, to the place that its parts name. -/
theorem enter?_mono (h : KeepsDirectories before after) {parts : List String} {found : Location}
    (hfound : before.enter? location parts = some found) :
    after.enter? location parts = some found ∧ found = parts.foldl step location := by
  induction parts generalizing location with
  | nil =>
    cases hfound
    exact ⟨rfl, rfl⟩
  | cons part rest ih =>
    rw [enter?] at hfound
    split at hfound
    case isFalse => cases hfound
    case isTrue hdirectory =>
      obtain ⟨hafter, hlocation⟩ := ih hfound
      have hstill : after.isDirectory (step location part) = true :=
        isDirectory_iff.mpr ((isDirectory_iff.mp hdirectory).imp_right (h _))
      rw [enter?, if_pos hstill]
      exact ⟨hafter, hlocation⟩

/-- A file is found at its place, and still is where all directories are kept. -/
theorem locate?_mono (h : KeepsDirectories before after) (hlocated : before.locate? path = some location) :
    after.locate? path = some location ∧ path.place? = some (nameOf location) := by
  unfold locate? at hlocated ⊢
  obtain ⟨name, hname, hlocated⟩ := Option.bind_eq_some_iff.mp hlocated
  obtain ⟨directory, hdirectory, hlocated⟩ := Option.bind_eq_some_iff.mp hlocated
  obtain ⟨hafter, hplace⟩ := enter?_mono h hdirectory
  split at hlocated
  · cases hlocated
  case isFalse hfit =>
    cases hlocated
    refine ⟨Option.bind_eq_some_iff.mpr ⟨name, hname, Option.bind_eq_some_iff.mpr
      ⟨directory, hafter, if_neg hfit⟩⟩, ?_⟩
    have hopen : path.isClosed = false := by
      rw [Bool.or_eq_true, Bool.or_eq_true, not_or, not_or] at hfit
      exact Bool.eq_false_iff.mpr hfit.1.1
    rw [FilePath.place?, hopen, hname, hplace]
    rfl

/-- A file that is read was found, and has its entry there. -/
theorem located_of_read? (h : fs.read? path = some bytes) :
    ∃ location, fs.locate? path = some location ∧ isGiven location = false ∧
      fs.named? (nameOf location) = some (.file bytes) := by
  obtain ⟨location, hlocated, hnode⟩ := Option.bind_eq_some_iff.mp h
  refine ⟨location, hlocated, ?_⟩
  split at hnode
  case h_1 hfile =>
    cases hnode
    rw [node?] at hfile
    split at hfile
    · cases hfile
    case isFalse hgiven => exact ⟨Bool.not_eq_true _ ▸ hgiven, hfile⟩
  case h_2 => cases hnode

/-- A file is read where it was found and has not become a directory. -/
theorem read?_of_locate? (h : KeepsDirectories before after) (hlocated : before.locate? path = some location)
    (hgiven : isGiven location = false) (hentry : after.named? (nameOf location) = some (.file bytes)) :
    after.read? path = some bytes := by
  have hnode : after.node? location = some (.file bytes) := by
    rw [node?, hgiven]
    exact hentry
  refine Option.bind_eq_some_iff.mpr ⟨location, (locate?_mono h hlocated).1, ?_⟩
  rw [hnode]

/-! ## Single steps -/

/-- A file is written at its place, where no directory is. -/
theorem write?_eq_some (h : fs.write? path bytes = some written) :
    ∃ location, fs.locate? path = some location ∧ fs.isDirectory location = false ∧
      written = fs.put location (.file bytes) := by
  obtain ⟨location, hlocated, h⟩ := Option.bind_eq_some_iff.mp h
  split at h
  · cases h
  case isFalse hfree =>
    cases h
    exact ⟨location, hlocated, Bool.not_eq_true _ ▸ hfree, rfl⟩

/-- A file takes the place of another, where no directory is. -/
theorem rename?_eq_some (h : fs.rename? source target = some renamed) :
    ∃ sourceLocation location bytes, fs.locate? source = some sourceLocation ∧
      fs.locate? target = some location ∧ fs.node? sourceLocation = some (.file bytes) ∧
      fs.isDirectory location = false ∧
      renamed = (fs.erase sourceLocation).put location (.file bytes) := by
  obtain ⟨sourceLocation, hsource, h⟩ := Option.bind_eq_some_iff.mp h
  obtain ⟨location, htarget, h⟩ := Option.bind_eq_some_iff.mp h
  split at h
  case h_1 => cases h
  case h_2 bytes hnode hfree =>
    cases h
    refine ⟨sourceLocation, location, bytes, hsource, htarget, hnode, ?_, rfl⟩
    rw [isDirectory]
    split
    case h_1 hdirectory => exact absurd hdirectory hfree
    case h_2 => rfl
  case h_3 => cases h

/-- Making directories keeps what there is, and adds only directories on the way. -/
theorem named?_makeDirectories (fs : FileSystem) (location : Location) (parts : List String) (name : String) :
    (fs.makeDirectories location parts).2.named? name = fs.named? name ∨
      fs.named? name = none ∧ (fs.makeDirectories location parts).2.named? name = some .directory ∧
        ∃ taken, taken <+: parts ∧ taken ≠ [] ∧ name = nameOf (taken.foldl step location) := by
  induction parts generalizing fs location with
  | nil => exact .inl rfl
  | cons part rest ih =>
    have hlater (h : ∃ taken, taken <+: rest ∧ taken ≠ [] ∧
        name = nameOf (taken.foldl step (step location part))) :
        ∃ taken, taken <+: part :: rest ∧ taken ≠ [] ∧ name = nameOf (taken.foldl step location) := by
      obtain ⟨taken, htaken, _, hname⟩ := h
      exact ⟨part :: taken, List.cons_prefix_cons.mpr ⟨rfl, htaken⟩, List.cons_ne_nil _ _, hname⟩
    rw [makeDirectories]
    split
    case h_1 => exact (ih fs _).imp_right fun h => ⟨h.1, h.2.1, hlater h.2.2⟩
    case h_2 => exact .inl rfl
    case h_3 hnone =>
      have habsent : fs.named? (nameOf (step location part)) = none := by
        rw [node?] at hnone
        split at hnone
        · cases hnone
        · exact hnone
      split
      case isFalse => exact .inl rfl
      case isTrue =>
        have hmade := ih (fs.put (step location part) .directory) (step location part)
        rw [named?_put] at hmade
        by_cases hname : name = nameOf (step location part)
        · rw [if_pos hname] at hmade
          have hpart : [part] <+: part :: rest := List.cons_prefix_cons.mpr ⟨rfl, List.nil_prefix⟩
          refine .inr ⟨hname ▸ habsent, ?_, [part], hpart, List.cons_ne_nil _ _, hname⟩
          rcases hmade with hmade | ⟨hnothing, _⟩
          · exact hmade
          · cases hnothing
        · rw [if_neg hname] at hmade
          exact hmade.imp_right fun h => ⟨h.1, h.2.1, hlater h.2.2⟩

/-- What has an entry is kept as it is. -/
theorem Kept.entry (h : Kept path before after name) (hentry : before.named? name = some node) :
    after.named? name = some node := by
  rcases h with hsame | ⟨hnothing, _⟩
  · rw [hsame, hentry]
  · rw [hnothing] at hentry
    cases hentry

/-- A file stands at the place of a path; what other names have stays. -/
structure Puts (before : FileSystem) (path : FilePath) (bytes : ByteArray) (after : FileSystem) : Prop where
  place : ∃ name, path.place? = some name ∧ after.named? name = some (.file bytes)
  others : ∀ name, path.place? ≠ some name → after.named? name = before.named? name
  directories : KeepsDirectories before after
  reads : after.read? path = some bytes

/-- A file can be put where its path leads, if no directory is there. -/
theorem puts_of_locate? (hlocated : fs.locate? path = some location) (hfree : fs.isDirectory location = false)
    (bytes : ByteArray) : Puts fs path bytes (fs.put location (.file bytes)) := by
  obtain ⟨hgiven, -, hentry⟩ := node?_of_not_isDirectory hfree
  have hplace := (locate?_mono (fun _ => id) hlocated).2
  have hput : (fs.put location (.file bytes)).named? (nameOf location) = some (.file bytes) := by
    rw [named?_put, if_pos rfl]
  have hothers : ∀ name, path.place? ≠ some name →
      (fs.put location (.file bytes)).named? name = fs.named? name := by
    intro name hname
    rw [hplace] at hname
    rw [named?_put, if_neg fun hsame => hname (congrArg some hsame.symm)]
  have hdirectories : KeepsDirectories fs (fs.put location (.file bytes)) := by
    intro name hname
    rwa [hothers name]
    rw [hplace]
    rintro ⟨⟩
    exact hentry hname
  exact ⟨⟨_, hplace, hput⟩, hothers, hdirectories, read?_of_locate? hdirectories hlocated hgiven hput⟩

/-- A file that is erased is no directory, so all directories are kept, and no other one takes its place. -/
theorem erase_of_file (hfile : fs.node? location = some (.file bytes)) :
    KeepsDirectories fs (fs.erase location) ∧
      ∀ other, fs.isDirectory other = false → (fs.erase location).isDirectory other = false := by
  have hentry : fs.named? (nameOf location) = some (.file bytes) := by
    rw [node?] at hfile
    split at hfile
    · cases hfile
    · exact hfile
  refine ⟨fun name hname => ?_, fun other hother => ?_⟩
  · rw [named?_erase, if_neg ?_, hname]
    rintro rfl
    rw [hentry] at hname
    cases hname
  · rw [← Bool.not_eq_true, isDirectory_iff, not_or] at hother ⊢
    refine ⟨hother.1, fun hdirectory => hother.2 ?_⟩
    rw [named?_erase] at hdirectory
    split at hdirectory
    · cases hdirectory
    · exact hdirectory

/-- A file that takes the place of another is put there, from a place that is empty then. -/
theorem rename?_puts (h : fs.rename? source target = some renamed) :
    ∃ between name bytes, source.place? = some name ∧ fs.named? name = some (.file bytes) ∧
      (∀ other, between.named? other = if other = name then none else fs.named? other) ∧
      KeepsDirectories fs between ∧ Puts between target bytes renamed := by
  obtain ⟨sourceLocation, location, bytes, hsource, htarget, hfile, hfree, rfl⟩ := rename?_eq_some h
  obtain ⟨hkept, herased⟩ := erase_of_file hfile
  have hsourceFree : fs.isDirectory sourceLocation = false := by
    rw [isDirectory, hfile]
  refine ⟨fs.erase sourceLocation, nameOf sourceLocation, bytes, (locate?_mono (fun _ => id) hsource).2, ?_,
    fun other => named?_erase fs sourceLocation other, hkept,
    puts_of_locate? (locate?_mono hkept htarget).1 (herased _ hfree) bytes⟩
  rw [← (node?_of_not_isDirectory hsourceFree).2.1, hfile]

/-! ## Writing -/

/-- What writing a file whole can come to: the content cannot be written, or it is but cannot take the place of the
file, or it does. -/
inductive WritesWhole (fs : FileSystem) (path : FilePath) (content : String) : Bool × FileSystem → Prop
  | unwritten {made : FileSystem} (hmade : ∀ name, Kept path fs made name) :
    WritesWhole fs path content (false, made)
  | unfinished {made written : FileSystem} (hmade : ∀ name, Kept path fs made name)
    (hwritten : made.write? path.unfinished content.toUTF8 = some written)
    (hrename : written.rename? path.unfinished path = none) : WritesWhole fs path content (false, written)
  | finished {made written renamed : FileSystem} (hmade : ∀ name, Kept path fs made name)
    (hwritten : made.write? path.unfinished content.toUTF8 = some written)
    (hrename : written.rename? path.unfinished path = some renamed) :
    WritesWhole fs path content (true, renamed)

/-- Writing a file whole comes to one of these ends. -/
theorem writeWhole_writes (fs : FileSystem) (path : FilePath) (content : String) :
    WritesWhole fs path content (fs.writeWhole path content) := by
  unfold writeWhole
  split
  case h_1 directory made hparents =>
    have hmade : ∀ name, Kept path fs made name := by
      intro name
      split at hparents
      case h_1 parent hparent =>
        have hdirectories : start parent = start path ∧ parent.parts = path.parts.dropLast := by
          rw [FilePath.parent?] at hparent
          split at hparent
          · cases hparent
          · cases hparent
            exact ⟨rfl, rfl⟩
        split at hparents
        case isTrue =>
          have hkept := named?_makeDirectories fs (start parent) parent.parts name
          rw [hparents, hdirectories.1, hdirectories.2] at hkept
          exact hkept
        case isFalse =>
          cases hparents
          exact .inl rfl
      case h_2 =>
        cases hparents
        exact .inl rfl
    split
    case h_1 => exact .unwritten hmade
    case h_2 =>
      dsimp only
      split
      case h_1 => exact .unwritten hmade
      case h_2 written hwritten =>
        split
        case h_1 renamed hrename => exact .finished hmade hwritten hrename
        case h_2 hrename => exact .unfinished hmade hwritten hrename

/-- A file was written whole. It holds the content, and what had the name of its unfinished content is gone. What
other names have is kept. -/
structure Replaced (path : FilePath) (content : String) (before after : FileSystem) : Prop where
  place : ∃ name, path.place? = some name ∧ after.named? name = some (.file content.toUTF8)
  reads : after.read? path = some content.toUTF8
  unfinished : ∀ name, path.unfinished.place? = some name → path.place? ≠ some name → after.named? name = none
  others : ∀ name, path.place? ≠ some name → path.unfinished.place? ≠ some name → Kept path before after name
  directories : KeepsDirectories before after

/-- A file was not written. What its name has is kept, and so is what other names have but that of its unfinished
content. -/
structure Spared (path : FilePath) (before after : FileSystem) : Prop where
  place : ∀ name, path.place? = some name → Kept path before after name
  others : ∀ name, path.unfinished.place? ≠ some name → Kept path before after name

/-- A file that was written whole replaces what was there. -/
theorem replaced_of_finished {content : String} (hmade : ∀ name, Kept path before made name)
    (hwritten : made.write? path.unfinished content.toUTF8 = some written)
    (hrename : written.rename? path.unfinished path = some renamed) : Replaced path content before renamed := by
  obtain ⟨location, hlocated, hfree, rfl⟩ := write?_eq_some hwritten
  have hputs := puts_of_locate? hlocated hfree content.toUTF8
  obtain ⟨between, name, bytes, hplace, hfile, hbetween, hkept, hrenamed⟩ := rename?_puts hrename
  obtain ⟨unfinished, hunfinished, hcontent⟩ := hputs.place
  obtain rfl : unfinished = name := Option.some_inj.mp (hunfinished.symm.trans hplace)
  obtain rfl : content.toUTF8 = bytes := by
    rw [hcontent] at hfile
    cases hfile
    rfl
  refine ⟨hrenamed.place, hrenamed.reads, fun other hother hname => ?_, fun other hname hother => ?_, ?_⟩
  · rw [hplace] at hother
    cases hother
    rw [hrenamed.others _ hname, hbetween, if_pos rfl]
  · have hsame : renamed.named? other = made.named? other := by
      rw [hrenamed.others _ hname, hbetween, if_neg, hputs.others _ hother]
      rintro rfl
      exact hother hplace
    rw [Kept, hsame]
    exact hmade other
  · exact fun other hother => hrenamed.directories _ (hkept _ (hputs.directories _ ((hmade other).entry hother)))

/-- A file can take its own place. -/
theorem rename?_self (h : fs.read? path = some bytes) : fs.rename? path path ≠ none := by
  obtain ⟨location, hlocated, hnode⟩ := Option.bind_eq_some_iff.mp h
  rw [rename?, hlocated]
  split at hnode
  case h_1 hfile => simp [hfile]
  case h_2 => cases hnode

/-- Writing a file whole replaces it or spares it. -/
theorem writeWhole_frame (fs : FileSystem) (path : FilePath) (content : String) :
    ((fs.writeWhole path content).1 = true → Replaced path content fs (fs.writeWhole path content).2) ∧
      ((fs.writeWhole path content).1 = false → Spared path fs (fs.writeWhole path content).2) := by
  generalize hresult : fs.writeWhole path content = result
  have h := writeWhole_writes fs path content
  rw [hresult] at h
  cases h with
  | unwritten hmade => exact ⟨nofun, fun _ => ⟨fun name _ => hmade name, fun name _ => hmade name⟩⟩
  | finished hmade hwritten hrename => exact ⟨fun _ => replaced_of_finished hmade hwritten hrename, nofun⟩
  | @unfinished made written hmade hwritten hrename =>
    obtain ⟨location, hlocated, hfree, rfl⟩ := write?_eq_some hwritten
    have hputs := puts_of_locate? hlocated hfree content.toUTF8
    have hothers : ∀ name, path.unfinished.place? ≠ some name →
        Kept path fs (made.put location (.file content.toUTF8)) name := by
      intro name hname
      rw [Kept, hputs.others name hname]
      exact hmade name
    refine ⟨nofun, fun _ => ⟨fun name hname => hothers name fun hsame => ?_, hothers⟩⟩
    have hreads := hputs.reads
    rw [FilePath.unfinished_eq_self hname hsame] at hreads hrename
    exact rename?_self hreads hrename

/-! ## Writing one file after the other -/

/-- A file that is to be written, with its content. -/
structure FileWrite where
  path : FilePath
  content : String

/-- What is there after some files were written one after the other, those that could be. -/
def writeEach (fs : FileSystem) (writes : List FileWrite) : FileSystem :=
  writes.foldl (fun fs write => (fs.writeWhole write.path write.content).2) fs

/-- Whether files are all written, one after the other. -/
def AllWritten (fs : FileSystem) : List FileWrite → Prop
  | [] => True
  | write :: rest => (fs.writeWhole write.path write.content).1 = true ∧
      AllWritten (fs.writeWhole write.path write.content).2 rest

/-- Whether a name is not that of a file. -/
def HasNoFile (fs : FileSystem) (name : String) : Prop := ∀ bytes, fs.named? name ≠ some (.file bytes)

variable {content : String} {writes : List FileWrite}

/-- A file is still read after another was written whose place and unfinished place are not its own. -/
theorem Replaced.read?_of_ne (h : Replaced path content before after) {other : FilePath}
    (hplace : path.place? ≠ other.place?) (hunfinished : path.unfinished.place? ≠ other.place?)
    (hreads : before.read? other = some bytes) : after.read? other = some bytes := by
  obtain ⟨location, hlocated, hgiven, hentry⟩ := located_of_read? hreads
  have hother := (locate?_mono (fun _ => id) hlocated).2
  rw [hother] at hplace hunfinished
  exact read?_of_locate? h.directories hlocated hgiven ((h.others _ hplace hunfinished).entry hentry)

/-- Where there was no file there is none after another was written, and neither is there at its unfinished place. -/
theorem Replaced.hasNoFile (h : Replaced path content before after) (hplace : path.place? ≠ some name)
    (hname : HasNoFile before name ∨ path.unfinished.place? = some name) : HasNoFile after name := by
  intro bytes hfile
  by_cases hunfinished : path.unfinished.place? = some name
  · rw [h.unfinished name hunfinished hplace] at hfile
    cases hfile
  · rcases h.others name hplace hunfinished with hsame | ⟨_, hdirectory, _⟩
    · exact (hname.resolve_right hunfinished) bytes (hsame ▸ hfile)
    · rw [hdirectory] at hfile
      cases hfile

/-- A file is still read after others were written if neither their places nor their unfinished places are its
own. -/
theorem read?_writeEach (hall : fs.AllWritten writes) (hreads : fs.read? path = some bytes)
    (hplaces : ∀ write ∈ writes, write.path.place? ≠ path.place?)
    (hunfinished : ∀ write ∈ writes, write.path.unfinished.place? ≠ path.place?) :
    (fs.writeEach writes).read? path = some bytes := by
  induction writes generalizing fs with
  | nil => exact hreads
  | cons write rest ih =>
    rw [List.forall_mem_cons] at hplaces hunfinished
    have hreplaced := (fs.writeWhole_frame write.path write.content).1 hall.1
    exact ih hall.2 (hreplaced.read?_of_ne hplaces.1 hunfinished.1 hreads) hplaces.2 hunfinished.2

/-- Once a place that other files are not written to was the unfinished place of one, there is no file. -/
theorem hasNoFile_writeEach (hall : fs.AllWritten writes)
    (hplaces : ∀ write ∈ writes, write.path.place? ≠ some name)
    (hname : HasNoFile fs name ∨ ∃ write ∈ writes, write.path.unfinished.place? = some name) :
    HasNoFile (fs.writeEach writes) name := by
  induction writes generalizing fs with
  | nil => exact hname.resolve_right (by simp)
  | cons write rest ih =>
    rw [List.forall_mem_cons] at hplaces
    rw [List.exists_mem_cons_iff, ← or_assoc] at hname
    have hreplaced := (fs.writeWhole_frame write.path write.content).1 hall.1
    exact ih hall.2 hplaces.2 (hname.imp_left (hreplaced.hasNoFile hplaces.1))

/-- Where files are all written, one after the other, those in front are, and then those behind. -/
theorem allWritten_append {before after : List FileWrite} :
    fs.AllWritten (before ++ after) ↔ fs.AllWritten before ∧ (fs.writeEach before).AllWritten after := by
  induction before generalizing fs with
  | nil => exact (and_iff_right trivial).symm
  | cons write rest ih =>
    rw [List.cons_append, AllWritten, AllWritten, ih, and_assoc]
    rfl

/-- A written file holds its content and one that fails what it held; only the places of unfinished contents
change besides, so a file keeps its content unless a later one was unfinished in its place. -/
theorem writeEach_framed (fs : FileSystem) (writes : List FileWrite) :
    (∀ before write after, writes = before ++ write :: after →
      (((fs.writeEach before).writeWhole write.path write.content).1 = true →
        Replaced write.path write.content (fs.writeEach before)
          ((fs.writeEach before).writeWhole write.path write.content).2) ∧
      (((fs.writeEach before).writeWhole write.path write.content).1 = false →
        Spared write.path (fs.writeEach before)
          ((fs.writeEach before).writeWhole write.path write.content).2)) ∧
    (fs.AllWritten writes → ∀ before write after, writes = before ++ write :: after →
      (∀ later ∈ after, later.path.place? ≠ write.path.place?) →
        ((fs.writeEach writes).read? write.path = some write.content.toUTF8 ↔
          ∀ later ∈ after, later.path.unfinished.place? ≠ write.path.place?)) := by
  refine ⟨fun before write after _ => writeWhole_frame _ _ _, ?_⟩
  rintro hall before write after rfl hlast
  obtain ⟨_, hwritten, hafter⟩ := allWritten_append.mp hall
  have hreplaced := ((fs.writeEach before).writeWhole_frame write.path write.content).1 hwritten
  have hend : fs.writeEach (before ++ write :: after) =
      ((fs.writeEach before).writeWhole write.path write.content).2.writeEach after := by
    rw [writeEach, List.foldl_append, List.foldl_cons]
    rfl
  rw [hend]
  refine ⟨fun hreads later hlater hlost => ?_, read?_writeEach hafter hreplaced.reads hlast⟩
  obtain ⟨location, hlocated, _, hentry⟩ := located_of_read? hreads
  have hplace := (locate?_mono (fun _ => id) hlocated).2
  rw [hplace] at hlast hlost
  exact hasNoFile_writeEach hafter hlast (.inr ⟨later, hlater, hlost⟩) _ hentry

/-- A draft, and a file whose content is not complete under the name of the draft. -/
def draftWrites : List FileWrite := [⟨.ofText "lib.tmp", "keep"⟩, ⟨.ofText "lib.rs", "code"⟩]

/-- A file that was written is lost when another is written, though both are written well. And a file that was not
there and is not written may be a directory then, if its path leads through it. -/
theorem draftWrites_lost :
    (empty.AllWritten draftWrites ∧
      (empty.writeEach (draftWrites.take 1)).read? (.ofText "lib.tmp") = some "keep".toUTF8 ∧
      (empty.writeEach draftWrites).read? (.ofText "lib.tmp") = none) ∧
    ((empty.writeWhole (.ofText "x/../x") "").1 = false ∧ empty.named? "x" = none ∧
      (empty.writeWhole (.ofText "x/../x") "").2.named? "x" = some .directory) :=
  ⟨⟨⟨rfl, rfl, trivial⟩, rfl, rfl⟩, rfl, rfl, rfl⟩

end FileSystem

end ServiceTree
