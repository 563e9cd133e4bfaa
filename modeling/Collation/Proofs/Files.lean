/-
Files that are read and written, and the directories that are made for
them. Writing puts one file in its place and leaves every other file as it
was. The path that led to the place leads there still: whatever it passes
on its way is a directory, before and after, and the file is none of
these, since no file is written where a directory is (`walk_withFile`). So
the file is found by its path, and what is read is what was written.

Making directories touches no file, and every path that led somewhere
leads there still (`Grown`). A path that led nowhere may lead to a file
now, but only if it goes up again from a directory that was made
(`Grown.read_eq`).
-/
import Collation.Files
import Collation.Proofs.Fallible

namespace Collation.Folder

variable {f g : Folder} {p : Path} {place here : List String} {octets : List UInt8}

-- ============================================================= the files

private theorem lookup_file (other : List String) (e : List String × List UInt8)
    (files : List (List String × List UInt8)) :
    (e :: files).lookup other = if other = e.1 then some e.2 else files.lookup other := by
  obtain ⟨place, octets⟩ := e
  rw [List.lookup_cons]
  by_cases h : other = place
  · simp [h]
  · simp [h, beq_eq_false_iff_ne.2 h]

/-- The file in its place, and every other one as before. -/
theorem lookup_setFile (place other : List String) (octets : List UInt8)
    (files : List (List String × List UInt8)) :
    (setFile place octets files).lookup other
      = if other = place then some octets else files.lookup other := by
  induction files with
  | nil => exact lookup_file other (place, octets) []
  | cons e files ih =>
    rw [setFile]
    by_cases he : e.1 = place
    · rw [if_pos he, lookup_file, lookup_file, he]
      by_cases h : other = place <;> simp [h]
    · rw [if_neg he, lookup_file, lookup_file, ih]
      by_cases h : other = e.1
      · have hne : other ≠ place := fun heq => he (h.symm.trans heq)
        rw [if_pos h, if_neg hne, if_pos h]
      · simp [h]

/-- No file goes away. -/
theorem exists_mem_setFile (place : List String) (octets : List UInt8)
    {e : List String × List UInt8} {files : List (List String × List UInt8)} (he : e ∈ files) :
    ∃ e' ∈ setFile place octets files, e'.1 = e.1 := by
  induction files with
  | nil => cases he
  | cons d files ih =>
    rw [setFile]
    by_cases hd : d.1 = place
    · rw [if_pos hd]
      rcases List.mem_cons.1 he with rfl | he
      · exact ⟨_, List.mem_cons_self, hd.symm⟩
      · exact ⟨e, List.mem_cons_of_mem _ he, rfl⟩
    · rw [if_neg hd]
      rcases List.mem_cons.1 he with rfl | he
      · exact ⟨e, List.mem_cons_self, rfl⟩
      · obtain ⟨e', he', heq⟩ := ih he
        exact ⟨e', List.mem_cons_of_mem d he', heq⟩

/-- The folder with a file in its place. -/
def withFile (f : Folder) (place : List String) (octets : List UInt8) : Folder :=
  { f with files := setFile place octets f.files }

/-- Nothing else becomes a file. -/
theorem isFile_withFile (h : here ≠ place) :
    (f.withFile place octets).isFile here = f.isFile here := by
  show ((setFile place octets f.files).lookup here).isSome = (f.files.lookup here).isSome
  rw [lookup_setFile, if_neg h]

/-- Directories stay directories. -/
theorem isDirectory_withFile (h : f.isDirectory here = true) :
    (f.withFile place octets).isDirectory here = true := by
  simp only [isDirectory, withFile, Bool.or_eq_true] at h ⊢
  refine h.imp_right fun h => ?_
  obtain ⟨e, he, hbelow⟩ := List.any_eq_true.1 h
  obtain ⟨e', he', heq⟩ := exists_mem_setFile place octets he
  exact List.any_eq_true.2 ⟨e', he', heq ▸ hbelow⟩

-- ============================================================= the paths

/-- A step goes through a directory, by a part that is not too long. -/
private theorem walk_cons_eq_ok {part : String} {rest : List String} :
    f.walk here (part :: rest) = .ok place ↔
      f.isFile here = false ∧ f.isDirectory here = true ∧ part.utf8ByteSize ≤ longestPart
        ∧ f.walk (next here part) rest = .ok place := by
  rw [walk]
  cases f.isFile here with
  | true => simp
  | false =>
    cases f.isDirectory here with
    | false => simp
    | true =>
      by_cases hlong : longestPart < part.utf8ByteSize
      · simp [hlong, Nat.not_le.2 hlong]
      · simp [hlong, Nat.not_lt.1 hlong]

/-- Where a path leads: it can be written, and every part of it is there. -/
private theorem locate_eq_ok :
    f.locate p = .ok place ↔
      p.toText.toList.contains '\x00' = false ∧ p.toText.utf8ByteSize ≤ longestPath
        ∧ f.walk [] p.parts = .ok place := by
  unfold locate
  cases p.toText.toList.contains '\x00' with
  | true => simp
  | false =>
    by_cases hlong : longestPath < p.toText.utf8ByteSize
    · simp [hlong, Nat.not_le.2 hlong]
    · simp [hlong, Nat.not_lt.1 hlong]

/-- A walk to where no directory is leads to the same place once a file is
there. -/
theorem walk_withFile {parts : List String} (hplace : f.isDirectory place = false) :
    ∀ {here : List String}, f.walk here parts = .ok place →
      (f.withFile place octets).walk here parts = .ok place := by
  induction parts with
  | nil => exact fun h => h
  | cons part rest ih =>
    intro here h
    obtain ⟨hfile, hdirectory, hshort, hrest⟩ := walk_cons_eq_ok.1 h
    have hne : here ≠ place := by
      rintro rfl
      rw [hplace] at hdirectory
      cases hdirectory
    exact walk_cons_eq_ok.2 ⟨(isFile_withFile hne).trans hfile, isDirectory_withFile hdirectory,
      hshort, ih hrest⟩

/-- Writing puts the octets where the path leads, unless a directory is there. -/
theorem write_eq_ok :
    f.write p octets = .ok g ↔
      ∃ place, f.locate p = .ok place ∧ f.isDirectory place = false
        ∧ g = f.withFile place octets := by
  unfold write
  cases f.locate p with
  | error cause => exact iff_of_false (fun h => nomatch h) fun ⟨_, h, _⟩ => nomatch h
  | ok place =>
    dsimp only
    cases hdirectory : f.isDirectory place with
    | true =>
      refine iff_of_false (fun h => nomatch h) fun ⟨_, hplace, hfalse, _⟩ => ?_
      cases hplace
      rw [hdirectory] at hfalse
      cases hfalse
    | false =>
      constructor
      · intro h
        exact ⟨place, rfl, hdirectory, (Except.ok.inj h).symm⟩
      · rintro ⟨_, ⟨⟩, -, rfl⟩
        rfl

/-- The path of a file that was written leads to it. -/
theorem locate_withFile (hlocate : f.locate p = .ok place) (hplace : f.isDirectory place = false) :
    (f.withFile place octets).locate p = .ok place := by
  obtain ⟨hnull, hshort, hwalk⟩ := locate_eq_ok.1 hlocate
  exact locate_eq_ok.2 ⟨hnull, hshort, walk_withFile hplace hwalk⟩

private theorem read_toOption (f : Folder) (p : Path) :
    (f.read p).toOption = (f.locate p).toOption.bind (List.lookup · f.files) := by
  unfold read
  cases f.locate p with
  | error cause => rfl
  | ok place =>
    show _ = f.files.lookup place
    dsimp only
    cases f.files.lookup place <;> rfl

/-- Reading gives the octets of the file that the path leads to. -/
private theorem read_eq_ok :
    f.read p = .ok octets ↔
      ∃ place, f.locate p = .ok place ∧ f.files.lookup place = some octets := by
  constructor
  · intro h
    have hsome : (f.read p).toOption = some octets := congrArg Except.toOption h
    rw [read_toOption] at hsome
    obtain ⟨place, hlocate, hlookup⟩ := Option.bind_eq_some_iff.1 hsome
    exact ⟨place, eq_ok_of_toOption hlocate, hlookup⟩
  · rintro ⟨place, hlocate, hlookup⟩
    refine eq_ok_of_toOption ?_
    rw [read_toOption, hlocate]
    exact hlookup

/-- What can be read is there. -/
theorem holds_of_read (h : f.read p = .ok octets) : f.holds p = .ok true := by
  obtain ⟨place, hlocate, hlookup⟩ := read_eq_ok.1 h
  have hfile : f.isFile place = true := by
    rw [isFile, hlookup]
    rfl
  rw [holds, hlocate]
  dsimp only
  rw [isTaken, hfile, Bool.true_or]

/-- What was written is there, and is what is read. -/
theorem written (h : f.write p octets = .ok g) : g.holds p = .ok true ∧ g.read p = .ok octets := by
  obtain ⟨place, hlocate, hplace, rfl⟩ := write_eq_ok.1 h
  have hread : (f.withFile place octets).read p = .ok octets := by
    refine read_eq_ok.2 ⟨place, locate_withFile hlocate hplace, ?_⟩
    show (setFile place octets f.files).lookup place = some octets
    rw [lookup_setFile, if_pos rfl]
  exact ⟨holds_of_read hread, hread⟩

-- ======================================================= directories made

/-- A folder with the files of another and at least its directories. -/
structure Grown (f g : Folder) : Prop where
  files : g.files = f.files
  directories : ∀ here ∈ f.directories, here ∈ g.directories

namespace Grown

/-- A folder is grown from itself, by nothing. -/
theorem refl (f : Folder) : Grown f f := ⟨rfl, fun _ h => h⟩

private theorem trans {k : Folder} (h : Grown f g) (h' : Grown g k) : Grown f k :=
  ⟨h'.files.trans h.files, fun here hhere => h'.directories here (h.directories here hhere)⟩

private theorem isFile (h : Grown f g) (here : List String) : g.isFile here = f.isFile here := by
  rw [Folder.isFile, h.files, Folder.isFile]

private theorem isDirectory (h : Grown f g) (hhere : f.isDirectory here = true) :
    g.isDirectory here = true := by
  simp only [Folder.isDirectory, h.files, Bool.or_eq_true, List.contains_iff_mem] at hhere ⊢
  exact hhere.imp_left (Or.imp_right (h.directories here))

/-- What a path leads through is still there when the folder has grown. -/
private theorem walk (h : Grown f g) {parts : List String} : ∀ {here : List String},
    f.walk here parts = .ok place → g.walk here parts = .ok place := by
  induction parts with
  | nil => exact fun hwalk => hwalk
  | cons part rest ih =>
    intro here hwalk
    obtain ⟨hfile, hdirectory, hshort, hrest⟩ := walk_cons_eq_ok.1 hwalk
    exact walk_cons_eq_ok.2
      ⟨(h.isFile here).trans hfile, h.isDirectory hdirectory, hshort, ih hrest⟩

private theorem locate (h : Grown f g) (hlocate : f.locate p = .ok place) :
    g.locate p = .ok place := by
  obtain ⟨hnull, hshort, hwalk⟩ := locate_eq_ok.1 hlocate
  exact locate_eq_ok.2 ⟨hnull, hshort, h.walk hwalk⟩

private theorem makeDirectory (h : f.makeDirectory p = .ok g) : Grown f g := by
  obtain ⟨place, -, h⟩ := bind_eq_ok.1 h
  split at h
  · cases h
  · cases h
    exact ⟨rfl, fun _ => List.mem_cons_of_mem place⟩

private theorem ensureDirectory (f : Folder) (p : Path) : Grown f (f.ensureDirectory p).state := by
  unfold Folder.ensureDirectory
  cases hmade : f.makeDirectory p with
  | ok made => exact makeDirectory hmade
  | error cause =>
    dsimp only
    split <;> exact refl f

private theorem ensureDirectories (f : Folder) (p : Path) (fuel : Nat) :
    Grown f (f.ensureDirectories p fuel).state := by
  induction fuel generalizing p with
  | zero => exact ensureDirectory f p
  | succ fuel ih =>
    unfold Folder.ensureDirectories
    split
    · exact Outcome.state_andThen (ih p.parent) fun _ => (ih p.parent).trans (ensureDirectory _ p)
    · exact ensureDirectory f p

end Grown

/-- Making the directories above a path is growth, whether it succeeds or not. -/
theorem makeParents_grown (f : Folder) (p : Path) : Grown f (f.makeParents p).state :=
  Grown.ensureDirectories f p.parent p.parts.length

end Collation.Folder
