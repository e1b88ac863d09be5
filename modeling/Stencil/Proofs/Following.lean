import Stencil.Proofs.FileTrees
import Stencil.Proofs.Paths
import Stencil.Workspace.Basic

/-!
# Where paths lead

`Leads` has one rule for each part that can be followed, and `follow` gives a place exactly when
the rules lead there (`follow_eq_ok`). Where a path leads is told by the directories and the links
of a workspace alone (`Leads.keeps`), idle parts on the way to a directory do not count
(`Leads.congr_proper`), and behind a directory the path goes on from there
(`Leads.follow_append`).
-/

namespace Stencil.Workspace

open FileTree (Place)
open Path (isIdle proper)

/-- Whether a part of a path is looked up in a directory. -/
structure IsName (part : String) : Prop where
  not_idle : isIdle part = false
  not_parent : part ≠ ".."
  size_le : part.utf8ByteSize ≤ nameLimit

/-- Where a link in a directory starts to lead from. -/
def linkStart (place : Place) (target : String) : Place :=
  if Path.isAbsolute target then [] else place

/-- Parts of a path lead from one place to another through so many links. -/
inductive Leads (w : Workspace) (throughLast : Bool) :
    Nat → Place → List String → Place → Prop where
  | here {links : Nat} {place : Place} : Leads w throughLast links place [] place
  | idle {links : Nat} {place goal : Place} {part : String} {rest : List String}
      (hidle : isIdle part) (h : Leads w throughLast links place rest goal) :
      Leads w throughLast links place (part :: rest) goal
  | parent {links : Nat} {place goal : Place} {rest : List String}
      (h : Leads w throughLast links place.dropLast rest goal) :
      Leads w throughLast links place (".." :: rest) goal
  | directory {links : Nat} {place goal : Place} {name : String} {rest : List String}
      (hname : IsName name) (hthere : w.tree.face? (place ++ [name]) = some .directory)
      (h : Leads w throughLast links (place ++ [name]) rest goal) :
      Leads w throughLast links place (name :: rest) goal
  | last {links : Nat} {place : Place} {name : String} (hname : IsName name)
      (hthere : w.tree.face? (place ++ [name]) ≠ some .directory)
      (hlink : throughLast → ∀ target, w.tree.face? (place ++ [name]) ≠ some (.link target)) :
      Leads w throughLast links place [name] (place ++ [name])
  | link {links : Nat} {place goal : Place} {name target : String} {rest : List String}
      (hname : IsName name) (hthere : w.tree.face? (place ++ [name]) = some (.link target))
      (hrest : rest = [] → throughLast)
      (h : Leads w throughLast links (linkStart place target) (Path.parts target ++ rest) goal) :
      Leads w throughLast (links + 1) place (name :: rest) goal

variable {w v : Workspace} {throughLast : Bool} {links : Nat} {place mid goal : Place}
  {part name target : String} {parts rest : List String}

/-! ### Following part by part -/

@[simp] lemma follow_nil : w.follow throughLast links place [] = .ok place := by
  rw [follow]

lemma follow_idle (h : isIdle part) :
    w.follow throughLast links place (part :: rest) = w.follow throughLast links place rest := by
  rw [follow, if_pos h]

lemma follow_parent :
    w.follow throughLast links place (".." :: rest) =
      w.follow throughLast links place.dropLast rest := by
  rw [follow, if_neg (by decide), if_pos rfl]

lemma follow_long (hidle : isIdle part = false) (hparent : part ≠ "..")
    (h : nameLimit < part.utf8ByteSize) :
    w.follow throughLast links place (part :: rest) = .error .nameTooLong := by
  rw [follow, if_neg (by simp [hidle]), if_neg hparent, if_pos h]

section

variable (hname : IsName name)
include hname

lemma follow_name :
    w.follow throughLast links place (name :: rest) =
      match w.tree.face? (place ++ [name]) with
      | some .directory     => w.follow throughLast links (place ++ [name]) rest
      | some (.file _)      => if rest = [] then .ok (place ++ [name]) else .error .notADirectory
      | some (.link target) =>
        if rest = [] ∧ throughLast = false then .ok (place ++ [name])
        else
          match links with
          | 0         => .error .tooManyLinks
          | links + 1 => w.follow throughLast links (linkStart place target)
              (Path.parts target ++ rest)
      | none                => if rest = [] then .ok (place ++ [name]) else .error .notFound := by
  rw [follow, if_neg (by simp [hname.not_idle]), if_neg hname.not_parent,
    if_neg (Nat.not_lt.mpr hname.size_le), FileTree.face?]
  dsimp only
  generalize w.tree.get? (place ++ [name]) = entry
  rcases entry with _ | ⟨_ | _ | _⟩
  · simp
  · simp [FileTree.face]
  · cases links <;> simp [FileTree.face, linkStart]
  · simp [FileTree.face]

lemma follow_directory (h : w.tree.face? (place ++ [name]) = some .directory) :
    w.follow throughLast links place (name :: rest) =
      w.follow throughLast links (place ++ [name]) rest := by
  rw [follow_name hname, h]

lemma follow_last (hdirectory : w.tree.face? (place ++ [name]) ≠ some .directory)
    (hlink : throughLast → ∀ target, w.tree.face? (place ++ [name]) ≠ some (.link target)) :
    w.follow throughLast links place [name] = .ok (place ++ [name]) := by
  rw [follow_name hname]
  rcases hface : w.tree.face? (place ++ [name]) with _ | ⟨_ | target | _⟩
  · rfl
  · rfl
  · cases throughLast with
    | false => rfl
    | true  => exact absurd hface (hlink rfl target)
  · exact absurd hface hdirectory

lemma follow_link (h : w.tree.face? (place ++ [name]) = some (.link target))
    (hrest : rest = [] → throughLast) :
    w.follow throughLast (links + 1) place (name :: rest) =
      w.follow throughLast links (linkStart place target) (Path.parts target ++ rest) := by
  rw [follow_name hname, h]
  refine if_neg ?_
  rintro ⟨hnil, hlast⟩
  rw [hrest hnil] at hlast
  cases hlast

end

lemma Leads.follow (h : Leads w throughLast links place parts goal) :
    w.follow throughLast links place parts = .ok goal := by
  induction h with
  | here                              => exact follow_nil
  | idle hidle _ ih                   => rw [follow_idle hidle, ih]
  | parent _ ih                       => rw [follow_parent, ih]
  | directory hname hthere _ ih       => rw [follow_directory hname hthere, ih]
  | last hname hthere hlink           => exact follow_last hname hthere hlink
  | link hname hthere hrest _ ih      => rw [follow_link hname hthere hrest, ih]

lemma IsName.of_not (hidle : ¬isIdle part) (hparent : part ≠ "..")
    (hsize : ¬part.utf8ByteSize > nameLimit) : IsName part :=
  ⟨by simpa using hidle, hparent, Nat.not_lt.mp hsize⟩

lemma leads_of_follow (h : w.follow throughLast links place parts = .ok goal) :
    Leads w throughLast links place parts goal := by
  fun_induction Workspace.follow w throughLast links place parts with
  | case1 links place =>
    cases h
    exact .here
  | case2 links place part rest hidle ih => exact .idle hidle (ih h)
  | case3 links place rest _ ih => exact .parent (ih h)
  | case5 links place part rest hidle hparent hsize next entries hentry ih =>
    exact .directory (.of_not hidle hparent hsize)
      (FileTree.face?_eq_directory.mpr ⟨entries, hentry⟩) (ih h)
  | case6 links place part rest hidle hparent hsize next content hentry hrest =>
    rw [List.isEmpty_iff] at hrest
    subst hrest
    have hface := FileTree.face?_eq_file.mpr hentry
    rw [← Except.ok.inj h]
    refine .last (.of_not hidle hparent hsize) ?_ fun _ target => ?_ <;>
      rw [hface] <;> exact nofun
  | case8 links place part rest hidle hparent hsize next target hentry hlast =>
    rw [Bool.and_eq_true, List.isEmpty_iff, Bool.not_eq_true'] at hlast
    obtain ⟨rfl, rfl⟩ := hlast
    have hface := FileTree.face?_eq_link.mpr hentry
    rw [← Except.ok.inj h]
    refine .last (.of_not hidle hparent hsize) ?_ nofun
    rw [hface]
    exact nofun
  | case10 place part rest hidle hparent hsize next target hentry hlast links start ih =>
    refine .link (.of_not hidle hparent hsize)
      (FileTree.face?_eq_link.mpr hentry) (fun hrest => ?_) ?_
    · simpa [hrest] using hlast
    · exact ih h
  | case11 links place part rest hidle hparent hsize next hentry hrest =>
    rw [List.isEmpty_iff] at hrest
    subst hrest
    have hface := FileTree.face?_eq_none.mpr hentry
    rw [← Except.ok.inj h]
    refine .last (.of_not hidle hparent hsize) ?_ fun _ target => ?_ <;>
      rw [hface] <;> exact nofun
  | case4 | case7 | case9 | case12 => cases h

/-- Parts can be followed to a place exactly when they lead there. -/
theorem follow_eq_ok :
    w.follow throughLast links place parts = .ok goal ↔
      Leads w throughLast links place parts goal :=
  ⟨leads_of_follow, Leads.follow⟩

/-! ### Where parts lead -/

lemma face?_dropLast (h : w.tree.face? place = some .directory) :
    w.tree.face? place.dropLast = some .directory := by
  rcases List.eq_nil_or_concat place with rfl | ⟨outer, name, rfl⟩
  · exact h
  · rw [List.concat_eq_append] at h ⊢
    rw [List.dropLast_concat]
    exact FileTree.face?_of_append (by rw [h]; exact Option.some_ne_none _)

lemma face?_linkStart (target : String) (h : w.tree.face? place = some .directory) :
    w.tree.face? (linkStart place target) = some .directory := by
  unfold linkStart
  split
  · exact FileTree.face?_top h
  · exact h

/-- What a path that goes through links leads to is a directory, or may be a file in one. -/
lemma Leads.fits (h : Leads w true links place parts goal)
    (hplace : w.tree.face? place = some .directory) :
    w.tree.face? goal = some .directory ∨
      w.tree.Fits goal ∧ ∀ target, w.tree.face? goal ≠ some (.link target) := by
  induction h with
  | here                       => exact .inl hplace
  | idle _ _ ih                => exact ih hplace
  | parent _ ih                => exact ih (face?_dropLast hplace)
  | directory _ hthere _ ih    => exact ih hthere
  | last hname hthere hlink    => exact .inr ⟨⟨⟨_, _, rfl, hplace⟩, hthere⟩, hlink rfl⟩
  | link _ _ _ _ ih            => exact ih (face?_linkStart _ hplace)

/-- If there is no link at the end, it does not matter whether one would be followed. -/
lemma Leads.through (h : Leads w throughLast links place parts goal)
    (hgoal : ∀ target, w.tree.face? goal ≠ some (.link target)) :
    Leads w true links place parts goal := by
  induction h with
  | here                          => exact .here
  | idle hidle _ ih               => exact .idle hidle (ih hgoal)
  | parent _ ih                   => exact .parent (ih hgoal)
  | directory hname hthere _ ih   => exact .directory hname hthere (ih hgoal)
  | last hname hthere _           => exact .last hname hthere fun _ => hgoal
  | link hname hthere _ _ ih      => exact .link hname hthere (fun _ => rfl) (ih hgoal)

/-- If a link at the end is not followed, a path leads to that link or where it led. -/
lemma Leads.exists_last (h : Leads w true links place parts goal) :
    ∃ last, Leads w false links place parts last ∧
      (last = goal ∨ ∃ target, w.tree.face? last = some (.link target)) := by
  induction h with
  | here => exact ⟨_, .here, .inl rfl⟩
  | idle hidle _ ih =>
    obtain ⟨last, hlast, hcases⟩ := ih
    exact ⟨last, .idle hidle hlast, hcases⟩
  | parent _ ih =>
    obtain ⟨last, hlast, hcases⟩ := ih
    exact ⟨last, .parent hlast, hcases⟩
  | directory hname hthere _ ih =>
    obtain ⟨last, hlast, hcases⟩ := ih
    exact ⟨last, .directory hname hthere hlast, hcases⟩
  | last hname hthere _ => exact ⟨_, .last hname hthere nofun, .inl rfl⟩
  | @link _ place _ name target rest hname hthere _ _ ih =>
    obtain ⟨last, hlast, hcases⟩ := ih
    by_cases hrest : rest = []
    · subst hrest
      exact ⟨place ++ [name], .last hname (by rw [hthere]; exact nofun) nofun,
        .inr ⟨target, hthere⟩⟩
    · exact ⟨last, .link hname hthere (fun h => absurd h hrest) hlast, hcases⟩

/-- Behind a directory a path goes on from there. -/
lemma Leads.follow_append (h : Leads w true links place parts mid)
    (hmid : w.tree.face? mid = some .directory) :
    ∃ left, ∀ rest, w.follow true links place (parts ++ rest) = w.follow true left mid rest := by
  induction h with
  | @here links _ => exact ⟨links, fun rest => rfl⟩
  | idle hidle _ ih =>
    obtain ⟨left, hleft⟩ := ih hmid
    exact ⟨left, fun rest => by rw [List.cons_append, follow_idle hidle, hleft]⟩
  | parent _ ih =>
    obtain ⟨left, hleft⟩ := ih hmid
    exact ⟨left, fun rest => by rw [List.cons_append, follow_parent, hleft]⟩
  | directory hname hthere _ ih =>
    obtain ⟨left, hleft⟩ := ih hmid
    exact ⟨left, fun rest => by rw [List.cons_append, follow_directory hname hthere, hleft]⟩
  | last _ hthere _ => exact absurd hmid hthere
  | link hname hthere _ _ ih =>
    obtain ⟨left, hleft⟩ := ih hmid
    refine ⟨left, fun rest => ?_⟩
    rw [List.cons_append, follow_link hname hthere (fun _ => rfl), ← List.append_assoc, hleft]

/-- Before the last part a path leads to a directory. -/
lemma Leads.exists_outer (h : Leads w true links place (parts ++ [name]) goal)
    (hplace : w.tree.face? place = some .directory) :
    ∃ outer, Leads w true links place parts outer ∧ w.tree.face? outer = some .directory := by
  generalize hall : parts ++ [name] = all at h
  induction h generalizing parts with
  | here => simp at hall
  | idle hidle _ ih =>
    rcases parts with _ | ⟨part, parts⟩
    · exact ⟨_, .here, hplace⟩
    · obtain ⟨rfl, rfl⟩ := List.cons.inj hall
      obtain ⟨outer, houter, hdirectory⟩ := ih hplace rfl
      exact ⟨outer, .idle hidle houter, hdirectory⟩
  | parent _ ih =>
    rcases parts with _ | ⟨part, parts⟩
    · exact ⟨_, .here, hplace⟩
    · obtain ⟨rfl, rfl⟩ := List.cons.inj hall
      obtain ⟨outer, houter, hdirectory⟩ := ih (face?_dropLast hplace) rfl
      exact ⟨outer, .parent houter, hdirectory⟩
  | directory hname hthere _ ih =>
    rcases parts with _ | ⟨part, parts⟩
    · exact ⟨_, .here, hplace⟩
    · obtain ⟨rfl, rfl⟩ := List.cons.inj hall
      obtain ⟨outer, houter, hdirectory⟩ := ih hthere rfl
      exact ⟨outer, .directory hname hthere houter, hdirectory⟩
  | last hname hthere hlink =>
    rcases parts with _ | ⟨part, parts⟩
    · exact ⟨_, .here, hplace⟩
    · simp at hall
  | link hname hthere hrest _ ih =>
    rcases parts with _ | ⟨part, parts⟩
    · exact ⟨_, .here, hplace⟩
    · obtain ⟨rfl, rfl⟩ := List.cons.inj hall
      obtain ⟨outer, houter, hdirectory⟩ := ih (face?_linkStart _ hplace) (List.append_assoc ..)
      exact ⟨outer, .link hname hthere (fun _ => rfl) houter, hdirectory⟩

/-! ### Idle parts -/

lemma leads_of_proper_nil (h : proper parts = []) :
    Leads w throughLast links place parts place := by
  induction parts with
  | nil => exact .here
  | cons part parts ih =>
    rw [proper, List.filter_eq_nil_iff] at h
    refine .idle (by simpa using h part (List.mem_cons_self ..)) (ih ?_)
    exact List.filter_eq_nil_iff.mpr fun part hpart => h part (List.mem_cons_of_mem _ hpart)

/-- A first part that is not idle comes after idle ones. -/
lemma leads_of_proper_cons {first : String} {others : List String}
    (h : proper parts = first :: others)
    (hgoal : ∀ rest, proper rest = others → Leads w throughLast links place (first :: rest) goal) :
    Leads w throughLast links place parts goal := by
  induction parts with
  | nil => cases h
  | cons part parts ih =>
    by_cases hidle : isIdle part
    · rw [proper, List.filter_cons_of_neg (by simp [hidle])] at h
      exact .idle hidle (ih h)
    · rw [proper, List.filter_cons_of_pos (by simp [hidle])] at h
      obtain ⟨rfl, hothers⟩ := List.cons.inj h
      exact hgoal parts hothers

lemma proper_cons_of_not_idle (h : isIdle part = false) (rest : List String) :
    proper (part :: rest) = part :: proper rest :=
  List.filter_cons_of_pos (by simp [h])

lemma proper_cons_of_idle (h : isIdle part) (rest : List String) :
    proper (part :: rest) = proper rest :=
  List.filter_cons_of_neg (by simp [h])

@[simp] lemma proper_append (first second : List String) :
    proper (first ++ second) = proper first ++ proper second :=
  List.filter_append ..

/-- Idle parts on the way to a directory do not count. -/
lemma Leads.congr_proper {others : List String} (h : Leads w true links place parts goal)
    (hgoal : w.tree.face? goal = some .directory) (hproper : proper parts = proper others) :
    Leads w true links place others goal := by
  induction h generalizing others with
  | here            => exact leads_of_proper_nil hproper.symm
  | idle hidle _ ih => exact ih hgoal (by rw [← hproper, proper_cons_of_idle hidle])
  | parent _ ih =>
    rw [proper_cons_of_not_idle (by decide)] at hproper
    exact leads_of_proper_cons hproper.symm fun rest hrest => .parent (ih hgoal hrest.symm)
  | directory hname hthere _ ih =>
    rw [proper_cons_of_not_idle hname.not_idle] at hproper
    exact leads_of_proper_cons hproper.symm fun rest hrest =>
      .directory hname hthere (ih hgoal hrest.symm)
  | last _ hthere _ => exact absurd hgoal hthere
  | link hname hthere _ _ ih =>
    rw [proper_cons_of_not_idle hname.not_idle] at hproper
    refine leads_of_proper_cons hproper.symm fun rest hrest =>
      .link hname hthere (fun _ => rfl) (ih hgoal ?_)
    rw [proper_append, proper_append, hrest]

/-! ### Directories and links that are kept -/

/-- What was a directory is one, and the links are the same. -/
structure Keeps (w v : Workspace) : Prop where
  here : v.here = w.here
  directory {place : Place} :
    w.tree.face? place = some .directory → v.tree.face? place = some .directory
  link_iff {place : Place} {target : String} :
    v.tree.face? place = some (.link target) ↔ w.tree.face? place = some (.link target)

@[refl] lemma Keeps.refl (w : Workspace) : Keeps w w := ⟨rfl, id, Iff.rfl⟩

lemma Keeps.trans {u : Workspace} (h : Keeps w v) (h' : Keeps v u) : Keeps w u :=
  ⟨h'.here.trans h.here, h'.directory ∘ h.directory, h'.link_iff.trans h.link_iff⟩

/-- Paths lead where they led. -/
lemma Leads.keeps (h : Leads w throughLast links place parts goal) (hkeeps : Keeps w v) :
    Leads v throughLast links place parts goal := by
  induction h with
  | here                             => exact .here
  | idle hidle _ ih                  => exact .idle hidle ih
  | parent _ ih                      => exact .parent ih
  | directory hname hthere _ ih      => exact .directory hname (hkeeps.directory hthere) ih
  | link hname hthere hrest _ ih     => exact .link hname (hkeeps.link_iff.mpr hthere) hrest ih
  | @last _ place name hname _ hlink =>
    by_cases hthere : v.tree.face? (place ++ [name]) = some .directory
    · exact .directory hname hthere .here
    · exact .last hname hthere fun h target => mt hkeeps.link_iff.mp (hlink h target)

/-! ### Paths -/

variable {path : String}

lemma locate_eq_ok :
    w.locate path throughLast = .ok goal ↔
      '\x00' ∉ path.toList ∧ path ≠ "" ∧
        Leads w throughLast linkLimit (w.start path) (Path.parts path) goal := by
  unfold locate
  by_cases hnul : '\x00' ∈ path.toList
  · simp [hnul]
  · by_cases hempty : path = ""
    · simp [hempty]
    · simp [hnul, hempty, follow_eq_ok]

lemma Keeps.here_directory (h : Keeps w v) (hhere : w.tree.face? w.here = some .directory) :
    v.tree.face? v.here = some .directory := by
  rw [h.here]
  exact h.directory hhere

lemma Keeps.start (h : Keeps w v) (path : String) : v.start path = w.start path := by
  rw [Workspace.start, Workspace.start, h.here]

lemma Keeps.locate (h : Keeps w v) (hlocate : w.locate path throughLast = .ok goal) :
    v.locate path throughLast = .ok goal := by
  obtain ⟨hnul, hempty, hleads⟩ := locate_eq_ok.mp hlocate
  refine locate_eq_ok.mpr ⟨hnul, hempty, ?_⟩
  rw [h.start]
  exact hleads.keeps h

lemma find_eq_ok {entry : FileTree} :
    w.find path throughLast = .ok entry ↔
      ∃ goal, w.locate path throughLast = .ok goal ∧ w.tree.get? goal = some entry := by
  unfold find
  rcases w.locate path throughLast with fault | goal
  · exact ⟨nofun, nofun⟩
  simp only [bind, Except.bind, pure, Except.pure]
  rcases hentry : w.tree.get? goal with _ | other <;> simp [hentry]

end Stencil.Workspace
