import Mathlib.Data.List.Induction
import Stencil.FileTree

/-!
# Views and changes of file trees

What stands at a place of a tree is told by its face: a file with its content, a link or a
directory. A put of something bare changes the face of one place and no other (`face?_put`).

Putting files into a tree one after another leaves the last content at each place. So putting the
same files in again changes nothing (`putFiles_putFiles`), and the files that are found in a tree
elsewhere stay the same (`filter_placesThrough_put`).
-/

namespace Stencil.FileTree

/-! ### Faces -/

/-- What stands at a place, without what a directory holds. -/
inductive Face where
  | file (content : List UInt8)
  | link (target : String)
  | directory
  deriving DecidableEq

def face : FileTree → Face
  | file content => .file content
  | link target  => .link target
  | directory _  => .directory

/-- The face of a place. -/
def face? (tree : FileTree) (place : Place) : Option Face := (tree.get? place).map face

variable {tree new old : FileTree} {entries : List (String × FileTree)} {name other : String}
  {place outer p q : Place}

@[simp] lemma get?_nil (tree : FileTree) : tree.get? [] = some tree := by
  cases tree <;> rfl

@[simp] lemma get?_directory_cons (entries : List (String × FileTree)) (name : String)
    (place : Place) :
    (directory entries).get? (name :: place) = (entries.lookup name).bind (get? · place) := rfl

lemma get?_append (tree : FileTree) (p q : Place) :
    tree.get? (p ++ q) = (tree.get? p).bind (get? · q) := by
  induction p generalizing tree with
  | nil => simp
  | cons name p ih =>
    cases tree with
    | file _ | link _  => rfl
    | directory entries =>
      rw [List.cons_append, get?_directory_cons, get?_directory_cons, Option.bind_assoc]
      congr 1
      funext entry
      exact ih entry

lemma face_eq_directory : tree.face = .directory ↔ ∃ entries, tree = directory entries := by
  cases tree <;> simp [face]

lemma face_eq_file {content : List UInt8} : tree.face = .file content ↔ tree = file content := by
  cases tree <;> simp [face]

lemma face_eq_link {target : String} : tree.face = .link target ↔ tree = link target := by
  cases tree <;> simp [face]

lemma face?_eq_directory :
    tree.face? place = some .directory ↔ ∃ entries, tree.get? place = some (directory entries) := by
  rw [face?, Option.map_eq_some_iff]
  constructor
  · rintro ⟨entry, hentry, hface⟩
    obtain ⟨entries, rfl⟩ := face_eq_directory.mp hface
    exact ⟨entries, hentry⟩
  · rintro ⟨entries, hentry⟩
    exact ⟨_, hentry, rfl⟩

lemma face?_eq_file {content : List UInt8} :
    tree.face? place = some (.file content) ↔ tree.get? place = some (file content) := by
  simp [face?, face_eq_file]

lemma face?_eq_link {target : String} :
    tree.face? place = some (.link target) ↔ tree.get? place = some (link target) := by
  simp [face?, face_eq_link]

lemma face?_eq_none : tree.face? place = none ↔ tree.get? place = none := by
  simp [face?]

/-- Something stands only in a directory. -/
lemma face?_of_append (h : tree.face? (outer ++ name :: place) ≠ none) :
    tree.face? outer = some .directory := by
  rw [Ne, face?_eq_none, get?_append] at h
  rcases houter : tree.get? outer with _ | ⟨_ | _ | entries⟩
  · exact absurd (by rw [houter]; rfl) h
  · exact absurd (by rw [houter]; rfl) h
  · exact absurd (by rw [houter]; rfl) h
  · exact face?_eq_directory.mpr ⟨entries, houter⟩

lemma face?_top (h : tree.face? place = some .directory) : tree.face? [] = some .directory := by
  rcases place with _ | ⟨name, place⟩
  · exact h
  · have hthere : tree.face? ([] ++ name :: place) ≠ none := by
      rw [List.nil_append, h]
      exact Option.some_ne_none _
    exact face?_of_append hthere

/-! ### Changes -/

lemma lookup_setEntry_self (h : entries.lookup name = some old) :
    (setEntry name new entries).lookup name = some new := by
  induction entries with
  | nil => cases h
  | cons entry entries ih =>
    obtain ⟨other, content⟩ := entry
    rw [setEntry]
    by_cases heq : other = name
    · rw [if_pos heq, List.lookup_cons_self]
    · have hne : (name == other) = false := by simpa using Ne.symm heq
      rw [if_neg heq, List.lookup_cons, hne]
      rw [List.lookup_cons, hne] at h
      exact ih h

lemma lookup_setEntry_of_ne (h : other ≠ name) :
    (setEntry name new entries).lookup other = entries.lookup other := by
  induction entries with
  | nil => rfl
  | cons entry entries ih =>
    obtain ⟨key, content⟩ := entry
    rw [setEntry]
    by_cases heq : key = name
    · have hne : (other == name) = false := by simpa using h
      rw [if_pos heq, heq, List.lookup_cons, List.lookup_cons, hne]
    · rw [if_neg heq, List.lookup_cons, List.lookup_cons, ih]

lemma lookup_append_singleton (h : entries.lookup name = none) :
    (entries ++ [(name, new)]).lookup other =
      if other = name then some new else entries.lookup other := by
  rw [List.lookup_append]
  by_cases heq : other = name
  · rw [heq, h, if_pos rfl]
    simp
  · have hne : (other == name) = false := by simpa using heq
    rw [if_neg heq, List.lookup_cons, hne]
    simp

section

variable (h : entries.lookup name = some old)
include h

lemma put_cons_of_some (place : Place) (new : FileTree) :
    (directory entries).put (name :: place) new =
      directory (setEntry name (old.put place new) entries) := by
  rw [put, h]

end

section

variable (h : entries.lookup name = none)
include h

lemma put_singleton_of_none (new : FileTree) :
    (directory entries).put [name] new = directory (entries ++ [(name, new)]) := by
  rw [put, h]
  rfl

lemma put_cons_cons_of_none (other : String) (place : Place) (new : FileTree) :
    (directory entries).put (name :: other :: place) new = directory entries := by
  rw [put, h]
  rfl

end

@[simp] lemma put_nil (tree new : FileTree) : tree.put [] new = new := by
  cases tree <;> rfl

@[simp] lemma face?_nil (tree : FileTree) : tree.face? [] = some tree.face := by
  simp [face?]

@[simp] lemma face?_directory_cons (entries : List (String × FileTree)) (name : String)
    (place : Place) :
    (directory entries).face? (name :: place) = (entries.lookup name).bind (face? · place) := by
  rw [face?, get?_directory_cons, Option.map_bind]
  rfl

/-- A put of something that holds nothing, in place of nothing or of something that holds nothing,
changes one face. -/
lemma face?_put (houter : tree.face? outer = some .directory)
    (hold : ∀ other rest, tree.face? (outer ++ name :: other :: rest) = none)
    (hnew : ∀ other rest, new.face? (other :: rest) = none) (q : Place) :
    (tree.put (outer ++ [name]) new).face? q =
      if q = outer ++ [name] then some new.face else tree.face? q := by
  induction outer generalizing tree q with
  | nil =>
    obtain ⟨entries, hentries⟩ := face?_eq_directory.mp houter
    rw [get?_nil, Option.some.injEq] at hentries
    subst hentries
    simp only [List.nil_append, face?_directory_cons] at hold ⊢
    rcases q with _ | ⟨other, rest⟩
    · rcases hlookup : entries.lookup name with _ | old
      · rw [put_singleton_of_none hlookup]
        rfl
      · rw [put_cons_of_some hlookup]
        rfl
    have hput : ((directory entries).put [name] new).face? (other :: rest) =
        if other = name then new.face? rest else (entries.lookup other).bind (face? · rest) := by
      rcases hlookup : entries.lookup name with _ | old
      · rw [put_singleton_of_none hlookup, face?_directory_cons, lookup_append_singleton hlookup]
        split <;> rfl
      · rw [put_cons_of_some hlookup, put_nil, face?_directory_cons]
        split
        next heq => rw [heq, lookup_setEntry_self hlookup]; rfl
        next hne => rw [lookup_setEntry_of_ne hne]
    rw [hput]
    by_cases heq : other = name
    · rw [if_pos heq, heq]
      rcases rest with _ | ⟨next, rest⟩
      · rw [if_pos rfl, face?_nil]
      · rw [if_neg (by simp), hnew, face?_directory_cons, hold]
    · rw [if_neg heq, if_neg (by simp [heq]), face?_directory_cons]
  | cons first outer ih =>
    obtain ⟨entries, hentries⟩ := face?_eq_directory.mp (face?_top houter)
    rw [get?_nil, Option.some.injEq] at hentries
    subst hentries
    simp only [List.cons_append, face?_directory_cons] at houter hold ⊢
    rcases hlookup : entries.lookup first with _ | entry
    · rw [hlookup] at houter
      cases houter
    rw [hlookup] at houter hold
    rw [put_cons_of_some hlookup]
    rcases q with _ | ⟨other, rest⟩
    · rfl
    rw [face?_directory_cons, face?_directory_cons]
    by_cases heq : other = first
    · rw [heq, lookup_setEntry_self hlookup, hlookup, Option.bind_some, Option.bind_some,
        ih houter hold]
      simp
    · rw [lookup_setEntry_of_ne heq, if_neg (by simp [heq])]

/-! ### Puts one after another -/

lemma setEntry_setEntry (first second : FileTree) :
    setEntry name second (setEntry name first entries) = setEntry name second entries := by
  induction entries with
  | nil => rfl
  | cons entry entries ih =>
    obtain ⟨other, content⟩ := entry
    by_cases heq : other = name <;> simp [setEntry, heq, ih]

lemma setEntry_comm (h : name ≠ other) (first second : FileTree) :
    setEntry name first (setEntry other second entries) =
      setEntry other second (setEntry name first entries) := by
  induction entries with
  | nil => rfl
  | cons entry entries ih =>
    obtain ⟨key, content⟩ := entry
    by_cases hname : key = name
    · subst hname
      simp [setEntry, h]
    · by_cases hother : key = other <;> simp [setEntry, hname, hother, Ne.symm h, ih]

lemma setEntry_append (h : entries.lookup name = some old) (others : List (String × FileTree)) :
    setEntry name new (entries ++ others) = setEntry name new entries ++ others := by
  induction entries with
  | nil => cases h
  | cons entry entries ih =>
    obtain ⟨other, content⟩ := entry
    rw [List.cons_append, setEntry, setEntry]
    by_cases heq : other = name
    · rw [if_pos heq, if_pos heq, List.cons_append]
    · have hne : (name == other) = false := by simpa using Ne.symm heq
      rw [List.lookup_cons, hne] at h
      rw [if_neg heq, if_neg heq, ih h, List.cons_append]

lemma setEntry_append_of_none (h : entries.lookup name = none)
    (others : List (String × FileTree)) :
    setEntry name new (entries ++ others) = entries ++ setEntry name new others := by
  induction entries with
  | nil => rfl
  | cons entry entries ih =>
    obtain ⟨other, content⟩ := entry
    rw [List.lookup_cons] at h
    by_cases heq : other = name
    · rw [heq, beq_self_eq_true] at h
      cases h
    · have hne : (name == other) = false := by simpa using Ne.symm heq
      rw [hne] at h
      rw [List.cons_append, setEntry, if_neg heq, ih h, List.cons_append]

/-- Of two puts at one place the second counts. -/
lemma put_put (tree first second : FileTree) (place : Place) :
    (tree.put place first).put place second = tree.put place second := by
  induction place generalizing tree with
  | nil => rw [put_nil, put_nil]
  | cons name place ih =>
    cases tree with
    | file _ | link _ => rfl
    | directory entries =>
      rcases hlookup : entries.lookup name with _ | old
      · rcases place with _ | ⟨other, place⟩
        · rw [put_singleton_of_none hlookup, put_singleton_of_none hlookup]
          have hname : (entries ++ [(name, first)]).lookup name = some first := by
            rw [lookup_append_singleton hlookup, if_pos rfl]
          rw [put_cons_of_some hname, put_nil, setEntry_append_of_none hlookup]
          simp [setEntry]
        · rw [put_cons_cons_of_none hlookup, put_cons_cons_of_none hlookup]
      · rw [put_cons_of_some hlookup, put_cons_of_some hlookup,
          put_cons_of_some (lookup_setEntry_self hlookup), ih, setEntry_setEntry]

/-- A put where a file is and one where no directory is can be done in any order. -/
lemma put_comm (hq : ∃ content, tree.get? q = some (file content))
    (hp : tree.face? p ≠ some .directory) (hne : p ≠ q) (content : List UInt8)
    (new : FileTree) :
    (tree.put q (file content)).put p new = (tree.put p new).put q (file content) := by
  induction q generalizing tree p with
  | nil =>
    obtain ⟨old, hold⟩ := hq
    rw [get?_nil, Option.some.injEq] at hold
    subst hold
    rcases p with _ | ⟨name, p⟩
    · exact absurd rfl hne
    · rfl
  | cons name q ih =>
    obtain ⟨old, hold⟩ := hq
    cases tree with
    | file _ | link _ => cases hold
    | directory entries =>
      rw [get?_directory_cons, Option.bind_eq_some_iff] at hold
      obtain ⟨entry, hentry, hold⟩ := hold
      rcases p with _ | ⟨other, p⟩
      · exact absurd rfl hp
      rw [face?_directory_cons] at hp
      rw [put_cons_of_some hentry]
      by_cases heq : other = name
      · subst heq
        rw [hentry, Option.bind_some] at hp
        rw [put_cons_of_some (lookup_setEntry_self hentry), put_cons_of_some hentry,
          put_cons_of_some (lookup_setEntry_self hentry), setEntry_setEntry, setEntry_setEntry,
          ih ⟨old, hold⟩ hp (fun h => hne (by rw [h]))]
      · have hlookup {new : FileTree} :
            (setEntry name new entries).lookup other = entries.lookup other :=
          lookup_setEntry_of_ne heq
        rcases hother : entries.lookup other with _ | second
        · rcases p with _ | ⟨next, p⟩
          · have hname : (entries ++ [(other, new)]).lookup name = some entry := by
              rw [lookup_append_singleton hother, if_neg (Ne.symm heq), hentry]
            rw [put_singleton_of_none (hlookup.trans hother), put_singleton_of_none hother,
              put_cons_of_some hname, setEntry_append hentry]
          · rw [put_cons_cons_of_none (hlookup.trans hother), put_cons_cons_of_none hother,
              put_cons_of_some hentry]
        · have hname : (setEntry other (second.put p new) entries).lookup name = some entry :=
            (lookup_setEntry_of_ne (Ne.symm heq)).trans hentry
          rw [put_cons_of_some (hlookup.trans hother), put_cons_of_some hother,
            put_cons_of_some hname, setEntry_comm heq]

/-- A put below a place is a put in what is there. -/
lemma get?_put_append (tree : FileTree) (p q : Place) (new : FileTree) :
    (tree.put (p ++ q) new).get? p = (tree.get? p).map (·.put q new) ∨ tree.get? p = none := by
  induction p generalizing tree with
  | nil => exact .inl (by simp)
  | cons name p ih =>
    cases tree with
    | file _ | link _ => exact .inr rfl
    | directory entries =>
      rcases hlookup : entries.lookup name with _ | entry
      · exact .inr (by rw [get?_directory_cons, hlookup]; rfl)
      · rw [List.cons_append, put_cons_of_some hlookup, get?_directory_cons, get?_directory_cons,
          lookup_setEntry_self hlookup, hlookup]
        exact ih entry

/-! ### Files put in -/

/-- The tree with files put in, one after another. -/
def putFiles (tree : FileTree) (files : List (Place × List UInt8)) : FileTree :=
  files.foldl (fun tree (place, content) => tree.put place (file content)) tree

/-- Whether a file can be put at a place: it is in a directory, and is none itself. -/
structure Fits (tree : FileTree) (place : Place) : Prop where
  outer : ∃ outer name, place = outer ++ [name] ∧ tree.face? outer = some .directory
  free : tree.face? place ≠ some .directory

variable {files : List (Place × List UInt8)} {content : List UInt8}

lemma Fits.face?_put (h : tree.Fits place) (content : List UInt8) (q : Place) :
    (tree.put place (file content)).face? q =
      if q = place then some (.file content) else tree.face? q := by
  obtain ⟨⟨outer, name, rfl, houter⟩, hfree⟩ := h
  refine FileTree.face?_put houter (fun other rest => ?_) (fun _ _ => rfl) q
  rcases hrest : tree.face? (outer ++ name :: other :: rest) with _ | face
  · rfl
  · have hthere : tree.face? (outer ++ [name] ++ other :: rest) ≠ none := by
      rw [List.append_assoc, List.singleton_append, hrest]
      exact Option.some_ne_none _
    exact absurd (face?_of_append hthere) hfree

/-- A put of a file keeps all directories, and makes none. -/
lemma Fits.directory_iff (h : tree.Fits place) (content : List UInt8) (q : Place) :
    (tree.put place (file content)).face? q = some .directory ↔
      tree.face? q = some .directory := by
  rw [h.face?_put]
  split
  next heq =>
    rw [heq]
    exact ⟨nofun, fun hfree => absurd hfree h.free⟩
  next => rfl

lemma Fits.put (h : tree.Fits p) (hq : tree.Fits q) (content : List UInt8) :
    (tree.put q (file content)).Fits p := by
  obtain ⟨⟨outer, name, rfl, houter⟩, hfree⟩ := h
  exact ⟨⟨outer, name, rfl, (hq.directory_iff content outer).mpr houter⟩,
    fun h => hfree ((hq.directory_iff content _).mp h)⟩

/-- Whether a file is at a place. -/
def HasFile (tree : FileTree) (place : Place) : Prop :=
  ∃ content, tree.face? place = some (.file content)

lemma HasFile.put (h : tree.HasFile p) (hq : tree.Fits q) (content : List UInt8) :
    (tree.put q (file content)).HasFile p := by
  obtain ⟨old, hold⟩ := h
  by_cases heq : p = q
  · exact ⟨content, by rw [hq.face?_put, if_pos heq]⟩
  · exact ⟨old, by rw [hq.face?_put, if_neg heq, hold]⟩

/-- Where files are put in and where they fit. -/
def AllFit (tree : FileTree) (files : List (Place × List UInt8)) : Prop :=
  ∀ item ∈ files, tree.Fits item.1

section

variable (h : tree.AllFit ((q, content) :: files))
include h

lemma AllFit.head : tree.Fits q := h _ (List.mem_cons_self ..)

lemma AllFit.tail : (tree.put q (file content)).AllFit files := fun item hitem =>
  (h item (List.mem_cons_of_mem _ hitem)).put h.head content

end

@[simp] lemma putFiles_cons :
    tree.putFiles ((q, content) :: files) = (tree.put q (file content)).putFiles files := rfl

lemma putFiles_append (tree : FileTree) (first second : List (Place × List UInt8)) :
    tree.putFiles (first ++ second) = (tree.putFiles first).putFiles second :=
  List.foldl_append

/-- Files that are put in keep all directories, and make none. -/
lemma AllFit.directory_iff (h : tree.AllFit files) (p : Place) :
    (tree.putFiles files).face? p = some .directory ↔ tree.face? p = some .directory := by
  induction files generalizing tree with
  | nil => rfl
  | cons item files ih =>
    rw [putFiles_cons, ih h.tail, h.head.directory_iff]

lemma AllFit.fits_iff (h : tree.AllFit files) : (tree.putFiles files).Fits p ↔ tree.Fits p := by
  constructor
  · rintro ⟨⟨outer, name, rfl, houter⟩, hfree⟩
    exact ⟨⟨outer, name, rfl, (h.directory_iff outer).mp houter⟩, mt (h.directory_iff _).mpr hfree⟩
  · rintro ⟨⟨outer, name, rfl, houter⟩, hfree⟩
    exact ⟨⟨outer, name, rfl, (h.directory_iff outer).mpr houter⟩, mt (h.directory_iff _).mp hfree⟩

/-- What is at other places stays there. -/
lemma AllFit.face?_of_not_mem (h : tree.AllFit files) (hp : p ∉ files.map Prod.fst) :
    (tree.putFiles files).face? p = tree.face? p := by
  induction files generalizing tree with
  | nil => rfl
  | cons item files ih =>
    rw [List.map_cons, List.mem_cons, not_or] at hp
    rw [putFiles_cons, ih h.tail hp.2, h.head.face?_put, if_neg hp.1]

lemma AllFit.hasFile (h : tree.AllFit files) (hp : tree.HasFile p) :
    (tree.putFiles files).HasFile p := by
  induction files generalizing tree with
  | nil => exact hp
  | cons item files ih => exact ih h.tail (hp.put h.head _)

lemma AllFit.hasFile_of_mem (h : tree.AllFit files) (hp : p ∈ files.map Prod.fst) :
    (tree.putFiles files).HasFile p := by
  induction files generalizing tree with
  | nil => cases hp
  | cons item files ih =>
    by_cases htail : p ∈ files.map Prod.fst
    · exact ih h.tail htail
    · rcases List.mem_cons.mp hp with rfl | hp
      · refine h.tail.hasFile ⟨item.2, ?_⟩
        rw [h.head.face?_put, if_pos rfl]
      · exact absurd hp htail

/-- Two trees that a put at one place makes equal stay so when files are put where there are files
already. -/
lemma putFiles_put_congr {first second : FileTree} (heq : first.put p new = second.put p new)
    (hfirst : first.AllFit files) (hsecond : second.AllFit files)
    (hfiles : ∀ item ∈ files, first.HasFile item.1 ∧ second.HasFile item.1)
    (hp : first.face? p ≠ some .directory ∧ second.face? p ≠ some .directory) :
    (first.putFiles files).put p new = (second.putFiles files).put p new := by
  induction files generalizing first second with
  | nil => exact heq
  | cons item files ih =>
    obtain ⟨q, content⟩ := item
    obtain ⟨⟨hasFirst, hasSecond⟩, hfiles⟩ := List.forall_mem_cons.mp hfiles
    refine ih ?_ hfirst.tail hsecond.tail (fun item hitem => ?_) ⟨?_, ?_⟩
    · by_cases hpq : p = q
      · rw [hpq, put_put, put_put, ← hpq, heq]
      · obtain ⟨old, hold⟩ := hasFirst
        obtain ⟨old', hold'⟩ := hasSecond
        rw [put_comm ⟨old, face?_eq_file.mp hold⟩ hp.1 hpq,
          put_comm ⟨old', face?_eq_file.mp hold'⟩ hp.2 hpq, heq]
    · exact ⟨(hfiles item hitem).1.put hfirst.head content,
        (hfiles item hitem).2.put hsecond.head content⟩
    · exact fun h => hp.1 ((hfirst.head.directory_iff content p).mp h)
    · exact fun h => hp.2 ((hsecond.head.directory_iff content p).mp h)

/-- To put the same files in again changes nothing. -/
theorem putFiles_putFiles (h : tree.AllFit files) :
    (tree.putFiles files).putFiles files = tree.putFiles files := by
  induction files using List.reverseRecOn with
  | nil => rfl
  | append_singleton files item ih =>
    obtain ⟨p, content⟩ := item
    have hfiles : tree.AllFit files := fun item hitem => h item (List.mem_append_left _ hitem)
    have hp : (tree.putFiles files).Fits p :=
      hfiles.fits_iff.mpr (h _ (List.mem_append_right _ (List.mem_singleton_self _)))
    have htwice : ((tree.putFiles files).put p (file content)).put p (file content) =
        (tree.putFiles files).put p (file content) :=
      put_put ..
    have hput := putFiles_put_congr htwice
      (fun item hitem => ((hfiles.fits_iff.mpr (hfiles item hitem)).put hp content))
      (fun item hitem => hfiles.fits_iff.mpr (hfiles item hitem))
      (fun item hitem => by
        have := hfiles.hasFile_of_mem (List.mem_map_of_mem hitem)
        exact ⟨this.put hp content, this⟩)
      ⟨fun hdirectory => hp.free ((hp.directory_iff content p).mp hdirectory), hp.free⟩
    rw [ih hfiles] at hput
    simp only [putFiles_append]
    exact hput

/-! ### Names -/

/-- In each directory the names are different ones and of a kind. -/
def Named (kind : String → Prop) (tree : FileTree) : Prop :=
  ∀ place entries, tree.get? place = some (directory entries) →
    (entries.map Prod.fst).Nodup ∧ ∀ name ∈ entries.map Prod.fst, kind name

variable {kind : String → Prop} {entry : FileTree}

lemma named_file (content : List UInt8) : Named kind (file content) := by
  rintro (_ | ⟨name, place⟩) entries hplace <;> cases hplace

lemma mem_of_lookup (h : entries.lookup name = some entry) : (name, entry) ∈ entries := by
  induction entries with
  | nil => cases h
  | cons first entries ih =>
    rw [List.lookup_cons] at h
    split at h
    next heq =>
      obtain rfl := beq_iff_eq.mp heq
      obtain rfl := Option.some.inj h
      exact List.mem_cons_self ..
    next => exact List.mem_cons_of_mem _ (ih h)

lemma lookup_of_mem (hnodup : (entries.map Prod.fst).Nodup) (h : (name, entry) ∈ entries) :
    entries.lookup name = some entry := by
  induction entries with
  | nil => cases h
  | cons first entries ih =>
    rw [List.map_cons, List.nodup_cons] at hnodup
    rcases List.mem_cons.mp h with rfl | h
    · exact List.lookup_cons_self
    · have hne : (name == first.1) = false := by
        rw [beq_eq_false_iff_ne]
        rintro rfl
        exact hnodup.1 (List.mem_map.mpr ⟨_, h, rfl⟩)
      rw [List.lookup_cons, hne]
      exact ih hnodup.2 h

lemma Named.below (h : Named kind tree) (place : Place) (hplace : tree.get? place = some entry) :
    Named kind entry := by
  intro inner entries hinner
  refine h (place ++ inner) entries ?_
  rw [get?_append, hplace, Option.bind_some, hinner]

lemma Named.lookup (h : Named kind (directory entries)) (hmem : (name, entry) ∈ entries) :
    entries.lookup name = some entry :=
  lookup_of_mem (h [] entries rfl).1 hmem

lemma named_directory (hnodup : (entries.map Prod.fst).Nodup)
    (hkind : ∀ name ∈ entries.map Prod.fst, kind name)
    (hbelow : ∀ item ∈ entries, Named kind item.2) : Named kind (directory entries) := by
  rintro (_ | ⟨name, place⟩) inner hplace
  · cases hplace
    exact ⟨hnodup, hkind⟩
  · rw [get?_directory_cons, Option.bind_eq_some_iff] at hplace
    obtain ⟨entry, hentry, hplace⟩ := hplace
    exact hbelow _ (mem_of_lookup hentry) place inner hplace

/-- The names on the way to what is in a tree are of the kind. -/
lemma Named.of_mem (h : Named kind tree) (hplace : tree.get? place ≠ none)
    (hname : name ∈ place) : kind name := by
  induction place generalizing tree with
  | nil => cases hname
  | cons first place ih =>
    cases tree with
    | file _ | link _ => exact absurd rfl hplace
    | directory entries =>
      rw [get?_directory_cons] at hplace
      rcases hlookup : entries.lookup first with _ | entry
      · exact absurd (by rw [hlookup]; rfl) hplace
      rw [hlookup, Option.bind_some] at hplace
      rcases List.mem_cons.mp hname with rfl | hname
      · exact (h [] entries rfl).2 _ (List.mem_map_of_mem (mem_of_lookup hlookup))
      · refine ih (h.below [first] ?_) hplace hname
        rw [get?_directory_cons, hlookup]
        rfl

/-! ### Files that are found -/

lemma mem_filesAmong {counts : String → Bool} {content : List UInt8} :
    (place, content) ∈ filesAmong counts entries ↔
      ∃ name entry rest, (name, entry) ∈ entries ∧ place = name :: rest ∧ counts name ∧
        (rest, content) ∈ entry.filesThrough counts := by
  induction entries with
  | nil => simp [filesAmong]
  | cons first entries ih =>
    obtain ⟨name, entry⟩ := first
    rw [filesAmong, List.mem_append, ih]
    constructor
    · rintro (h | ⟨other, found, rest, hmem, hrest⟩)
      · obtain ⟨⟨rest, content⟩, hmem, heq⟩ := List.mem_map.mp h
        cases heq
        split at hmem
        next hcounts => exact ⟨name, entry, rest, List.mem_cons_self .., rfl, hcounts, hmem⟩
        next => cases hmem
      · exact ⟨other, found, rest, List.mem_cons_of_mem _ hmem, hrest⟩
    · rintro ⟨other, found, rest, hmem, rfl, hcounts, hrest⟩
      rcases List.mem_cons.mp hmem with heq | hmem
      · cases heq
        rw [if_pos hcounts]
        exact .inl (List.mem_map.mpr ⟨_, hrest, rfl⟩)
      · exact .inr ⟨other, found, rest, hmem, rfl, hcounts, hrest⟩

/-- The files that are found are those that stand at places whose names all count. -/
lemma Named.mem_filesThrough {counts : String → Bool} {content : List UInt8} (h : Named kind tree) :
    (place, content) ∈ tree.filesThrough counts ↔
      tree.get? place = some (file content) ∧ ∀ name ∈ place, counts name := by
  induction place generalizing tree with
  | nil =>
    cases tree with
    | file old          => simpa [filesThrough] using eq_comm
    | link target       => simp [filesThrough]
    | directory entries => simp [filesThrough, mem_filesAmong]
  | cons name place ih =>
    cases tree with
    | file old          => simp [filesThrough, get?]
    | link target       => simp [filesThrough, get?]
    | directory entries =>
      rw [filesThrough, mem_filesAmong, get?_directory_cons, Option.bind_eq_some_iff,
        List.forall_mem_cons]
      constructor
      · rintro ⟨other, entry, rest, hentry, hplace, hcounts, hrest⟩
        obtain ⟨rfl, rfl⟩ := List.cons.inj hplace
        have hlookup := h.lookup hentry
        obtain ⟨hfile, hall⟩ := (ih (h.below [name] (by simp [hlookup]))).mp hrest
        exact ⟨⟨entry, hlookup, hfile⟩, hcounts, hall⟩
      · rintro ⟨⟨entry, hlookup, hfile⟩, hcounts, hall⟩
        refine ⟨name, entry, place, mem_of_lookup hlookup, rfl, hcounts, ?_⟩
        exact (ih (h.below [name] (by simp [hlookup]))).mpr ⟨hfile, hall⟩

/-- A file that is found is there. -/
lemma Named.get?_of_mem {counts : String → Bool} {content : List UInt8} (h : Named kind tree)
    (hmem : (place, content) ∈ tree.filesThrough counts) :
    tree.get? place = some (file content) :=
  (h.mem_filesThrough.mp hmem).1

/-- The places of the files that are reached through names that count. -/
def placesThrough (counts : String → Bool) (tree : FileTree) : List Place :=
  (tree.filesThrough counts).map Prod.fst

variable {counts : String → Bool} {keep : Place → Bool}

lemma placesThrough_directory_cons (counts : String → Bool) (name : String) (entry : FileTree)
    (entries : List (String × FileTree)) :
    placesThrough counts (directory ((name, entry) :: entries)) =
      (if counts name then entry.placesThrough counts else []).map (name :: ·) ++
        placesThrough counts (directory entries) := by
  simp only [placesThrough, filesThrough, filesAmong, List.map_append, List.map_map]
  split <;> simp [Function.comp_def]

lemma filter_placesThrough_setEntry (h : entries.lookup name = some old)
    (hplaces : ((new.placesThrough counts).filter fun q => keep (name :: q)) =
      (old.placesThrough counts).filter fun q => keep (name :: q)) :
    ((directory (setEntry name new entries)).placesThrough counts).filter keep =
      ((directory entries).placesThrough counts).filter keep := by
  induction entries with
  | nil => cases h
  | cons entry entries ih =>
    obtain ⟨other, content⟩ := entry
    rw [List.lookup_cons] at h
    rw [setEntry]
    by_cases heq : other = name
    · subst heq
      rw [beq_self_eq_true, Option.some.injEq] at h
      subst h
      rw [if_pos rfl, placesThrough_directory_cons, placesThrough_directory_cons,
        List.filter_append, List.filter_append]
      congr 1
      split
      next =>
        rw [List.filter_map, List.filter_map]
        exact congrArg (List.map (other :: ·)) hplaces
      next => rfl
    · have hne : (name == other) = false := by simpa using Ne.symm heq
      rw [hne] at h
      rw [if_neg heq, placesThrough_directory_cons, placesThrough_directory_cons,
        List.filter_append, List.filter_append, ih h]

lemma placesThrough_append_singleton (counts : String → Bool) (name : String)
    (content : List UInt8) (entries : List (String × FileTree)) :
    placesThrough counts (directory (entries ++ [(name, file content)])) =
      placesThrough counts (directory entries) ++ if counts name then [[name]] else [] := by
  induction entries with
  | nil =>
    rw [List.nil_append, placesThrough_directory_cons]
    split <;> rfl
  | cons entry entries ih =>
    obtain ⟨other, old⟩ := entry
    rw [List.cons_append, placesThrough_directory_cons, placesThrough_directory_cons, ih,
      List.append_assoc]

/-- A file that is put in where no directory is changes no other places of files. -/
theorem filter_placesThrough_put (hp : tree.face? p ≠ some .directory) (hkeep : keep p = false)
    (content : List UInt8) :
    ((tree.put p (file content)).placesThrough counts).filter keep =
      (tree.placesThrough counts).filter keep := by
  induction p generalizing tree keep with
  | nil =>
    have hfile : placesThrough counts (file content) = [[]] := rfl
    rw [put_nil, hfile]
    cases tree with
    | file _      => rfl
    | link _      => simpa [placesThrough, filesThrough] using hkeep
    | directory _ => exact absurd rfl hp
  | cons name p ih =>
    cases tree with
    | file _ | link _ => rfl
    | directory entries =>
      rw [face?_directory_cons] at hp
      rcases hlookup : entries.lookup name with _ | old
      · rcases p with _ | ⟨other, p⟩
        · rw [put_singleton_of_none hlookup, placesThrough_append_singleton, List.filter_append]
          split <;> simp [hkeep]
        · rw [put_cons_cons_of_none hlookup]
      · rw [hlookup, Option.bind_some] at hp
        rw [put_cons_of_some hlookup]
        exact filter_placesThrough_setEntry hlookup (ih hp hkeep)

end Stencil.FileTree
