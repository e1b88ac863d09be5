import Stencil.Proofs.Following

/-!
# What changes do to a workspace

A change that makes directories keeps all that is there, and does nothing where the directory is
there already (`makeDirectories_there`). A file is written at the place where its path leads, or
nothing is changed (`writeFile_cases`).
-/

namespace Stencil.Workspace

open FileTree (Place)
open Path (isIdle proper)

/-! ### Outcomes -/

/-- The result of a change and the workspace that it leaves. -/
def Change.outcome {α : Type} (change : Change α) (w : Workspace) :
    Except FileFault α × Workspace :=
  change.run w

section

variable {α β : Type} {change : Change α} {next : α → Change β} {w w' : Workspace}

lemma outcome_get_bind (next : Workspace → Change β) (w : Workspace) :
    Change.outcome (get >>= next) w = (next w).outcome w := rfl

@[simp] lemma outcome_see (look : Workspace → Except FileFault α) (w : Workspace) :
    (Change.see look).outcome w = (look w, w) := by
  rw [Change.see, outcome_get_bind]
  rcases look w with fault | found <;> rfl

lemma outcome_bind (change : Change α) (next : α → Change β) (w : Workspace) :
    Change.outcome (change >>= next) w =
      match change.outcome w with
      | (.ok a, w')        => (next a).outcome w'
      | (.error fault, w') => (.error fault, w') := by
  change ExceptT.bindCont next (change.outcome w).1 (change.outcome w).2 = _
  rcases change.outcome w with ⟨_ | _, _⟩ <;> rfl

lemma outcome_bind_ok {a : α} (h : change.outcome w = (.ok a, w')) :
    Change.outcome (change >>= next) w = (next a).outcome w' := by
  rw [outcome_bind, h]

lemma outcome_bind_error {fault : FileFault} (h : change.outcome w = (.error fault, w')) :
    Change.outcome (change >>= next) w = (.error fault, w') := by
  rw [outcome_bind, h]

lemma outcome_tryCatch (change : Change α) (handle : FileFault → Change α) (w : Workspace) :
    Change.outcome (tryCatch change handle) w =
      match change.outcome w with
      | (.ok a, w')        => (.ok a, w')
      | (.error fault, w') => (handle fault).outcome w' := by
  change (ExceptT.run (tryCatch change handle)).run w = _
  rw [ExceptT.run_tryCatch, StateT.run_bind]
  rcases h : change.outcome w with ⟨_ | _, w'⟩ <;>
  · change StateT.run (ExceptT.run change) w = _ at h
    rw [h]
    rfl

end

variable {w : Workspace} {place outer goal : Place} {parts : List String} {name path : String}

/-! ### Directories -/

lemma directoryAt_eq_ok :
    w.directoryAt place parts = .ok goal ↔
      Leads w true linkLimit place parts goal ∧ w.tree.face? goal = some .directory := by
  rw [← follow_eq_ok, directoryAt, FileTree.face?]
  rcases w.follow true linkLimit place parts with fault | other <;> simp only [bind, Except.bind]
  · simp
  · constructor
    · intro h
      split at h
      next hentry =>
        cases h
        exact ⟨rfl, by rw [hentry]; rfl⟩
      next => cases h
      next => cases h
    · rintro ⟨h, hgoal⟩
      cases h
      rcases hentry : w.tree.get? goal with _ | ⟨_ | _ | _⟩ <;> rw [hentry] at hgoal <;>
        first | rfl | cases hgoal

/-- What comes of making one directory. -/
lemma makeDirectory_outcome :
    (makeDirectory place parts name).outcome w =
      match w.directoryAt place parts with
      | .error fault => (.error fault, w)
      | .ok outer    =>
        if name = ".." then (.error .exists, w)
        else if nameLimit < name.utf8ByteSize then (.error .nameTooLong, w)
        else if (w.tree.get? (outer ++ [name])).isSome then (.error .exists, w)
        else (.ok (), { w with tree := w.tree.put (outer ++ [name]) .empty }) := by
  unfold makeDirectory
  rw [outcome_bind, outcome_see]
  rcases w.directoryAt place parts with fault | outer
  · rfl
  dsimp only
  by_cases hparent : name = ".."
  · rw [if_pos hparent, if_pos hparent]
    rfl
  rw [if_neg hparent, if_neg hparent]
  by_cases hsize : nameLimit < name.utf8ByteSize
  · rw [if_pos hsize, if_pos hsize]
    rfl
  rw [if_neg hsize, if_neg hsize]
  change Change.outcome (if (w.tree.get? (outer ++ [name])).isSome then
    (do throw .exists; Change.put (outer ++ [name]) .empty)
    else Change.put (outer ++ [name]) .empty) w = _
  split <;> rfl

lemma isDirectoryAt_eq (h : w.directoryAt place parts = .ok goal) :
    w.isDirectoryAt place parts = true := by
  rw [isDirectoryAt, h]

section

variable (hplace : w.tree.face? place = some .directory)
  (h : Leads w true linkLimit place (parts ++ [name]) goal)
  (hgoal : w.tree.face? goal = some .directory)
include hplace h hgoal

/-- A directory that is there is not made. -/
lemma makeDirectory_there (hidle : isIdle name = false) :
    ∃ fault, fault ≠ .notFound ∧
      (makeDirectory place parts name).outcome w = (.error fault, w) := by
  obtain ⟨outer, houter, hdirectory⟩ := h.exists_outer hplace
  rw [makeDirectory_outcome, directoryAt_eq_ok.mpr ⟨houter, hdirectory⟩]
  dsimp only
  split
  next => exact ⟨_, by decide, rfl⟩
  next hparent =>
  split
  next => exact ⟨_, by decide, rfl⟩
  next hsize =>
  split
  next => exact ⟨_, by decide, rfl⟩
  next hnone =>
    -- the last name leads to what is there of this name
    obtain ⟨left, hleft⟩ := houter.follow_append hdirectory
    have hfollow := h.follow
    have hname : IsName name := ⟨hidle, hparent, Nat.not_lt.mp hsize⟩
    have hface : w.tree.face? (outer ++ [name]) = none := by
      simpa [FileTree.face?_eq_none] using hnone
    rw [hleft, follow_name hname, hface] at hfollow
    cases hfollow
    rw [hface] at hgoal
    cases hgoal

end

/-- Directories that are there are not made. -/
lemma makeDirectories_there (hplace : w.tree.face? place = some .directory)
    (h : Leads w true linkLimit place parts goal) (hgoal : w.tree.face? goal = some .directory) :
    (makeDirectories place parts.reverse).outcome w = (.ok (), w) := by
  induction parts using List.reverseRecOn with
  | nil => rfl
  | append_singleton parts name ih =>
    rw [List.reverse_append, List.reverse_singleton, List.singleton_append, makeDirectories]
    by_cases hidle : isIdle name
    · rw [if_pos hidle]
      refine ih (h.congr_proper hgoal ?_)
      rw [proper_append, proper_cons_of_idle hidle]
      exact List.append_nil _
    · rw [if_neg hidle]
      obtain ⟨fault, hfault, houtcome⟩ :=
        makeDirectory_there hplace h hgoal (by simpa using hidle)
      dsimp only
      rw [List.reverse_reverse, outcome_tryCatch, houtcome]
      dsimp only
      rw [if_neg hfault, outcome_get_bind,
        isDirectoryAt_eq (directoryAt_eq_ok.mpr ⟨h, hgoal⟩)]
      rfl

/-! ### Growing -/

/-- What was there is there, but for what files hold. -/
structure Extends (w v : Workspace) : Prop extends Keeps w v where
  file {place : Place} {content : List UInt8} :
    w.tree.face? place = some (.file content) → v.tree.face? place = some (.file content)

@[refl] lemma Extends.refl (w : Workspace) : Extends w w := ⟨.refl w, id⟩

lemma Extends.trans {u v : Workspace} (h : Extends w v) (h' : Extends v u) : Extends w u :=
  ⟨h.toKeeps.trans h'.toKeeps, h'.file ∘ h.file⟩

/-- A change that only adds directories, also where it is refused. -/
def Grows {α : Type} (change : Change α) : Prop := ∀ w, Extends w (change.outcome w).2

section

variable {α β : Type} {change : Change α}

lemma Grows.pure (a : α) : Grows (Pure.pure a) := fun w => .refl w

lemma Grows.throw (fault : FileFault) : Grows (MonadExcept.throw fault : Change α) :=
  fun w => .refl w

lemma Grows.bind (h : Grows change) {next : α → Change β} (hnext : ∀ a, Grows (next a)) :
    Grows (change >>= next) := by
  intro w
  have hw := h w
  rw [outcome_bind]
  generalize change.outcome w = result at hw ⊢
  obtain ⟨fault | a, w'⟩ := result
  · exact hw
  · exact hw.trans (hnext a w')

lemma Grows.get_bind {next : Workspace → Change β} (hnext : ∀ w, Grows (next w)) :
    Grows (get >>= next) := by
  intro w
  rw [outcome_get_bind]
  exact hnext w w

lemma Grows.tryCatch (h : Grows change) {handle : FileFault → Change α}
    (hhandle : ∀ fault, Grows (handle fault)) : Grows (MonadExcept.tryCatch change handle) := by
  intro w
  have hw := h w
  rw [outcome_tryCatch]
  generalize change.outcome w = result at hw ⊢
  obtain ⟨fault | a, w'⟩ := result
  · exact hw.trans (hhandle fault w')
  · exact hw

end

section

variable (houter : w.tree.face? outer = some .directory)
  (hnone : w.tree.get? (outer ++ [name]) = none)
include houter hnone

lemma face?_put_empty (q : Place) :
    (w.tree.put (outer ++ [name]) .empty).face? q =
      if q = outer ++ [name] then some .directory else w.tree.face? q := by
  refine FileTree.face?_put houter (fun other rest => ?_) (fun _ _ => rfl) q
  rw [List.append_cons, FileTree.face?_eq_none, FileTree.get?_append, hnone]
  rfl

lemma extends_put_empty : Extends w { w with tree := w.tree.put (outer ++ [name]) .empty } := by
  have hface := face?_put_empty houter hnone
  have hnone : w.tree.face? (outer ++ [name]) = none := FileTree.face?_eq_none.mpr hnone
  have hkept {place : Place} {face : FileTree.Face} (h : w.tree.face? place = some face) :
      (w.tree.put (outer ++ [name]) .empty).face? place = some face := by
    rw [hface, if_neg (by rintro rfl; rw [hnone] at h; cases h), h]
  refine ⟨⟨rfl, hkept, ⟨fun h => ?_, hkept⟩⟩, hkept⟩
  dsimp only at h
  rw [hface] at h
  split at h
  · cases h
  · exact h

end

lemma makeDirectory_grows (place : Place) (parts : List String) (name : String) :
    Grows (makeDirectory place parts name) := by
  intro w
  rw [makeDirectory_outcome]
  rcases houter : w.directoryAt place parts with fault | outer
  · rfl
  dsimp only
  split
  · rfl
  split
  · rfl
  split
  · rfl
  next hnone => exact extends_put_empty (directoryAt_eq_ok.mp houter).2 (by simpa using hnone)

lemma makeDirectories_grows (place : Place) (parts : List String) :
    Grows (makeDirectories place parts) := by
  induction parts with
  | nil => exact .pure ()
  | cons name outer ih =>
    have hunless (fault : FileFault) : Grows (do
        if !(← get).isDirectoryAt place (outer.reverse ++ [name]) then
          MonadExcept.throw fault : Change Unit) := by
      refine .get_bind fun w => ?_
      split
      · exact .throw fault
      · exact .pure ()
    rw [makeDirectories]
    split
    · exact ih
    · refine .tryCatch (makeDirectory_grows _ _ _) fun fault => ?_
      split
      · exact ih.bind fun _ => .tryCatch (makeDirectory_grows _ _ _) hunless
      · exact hunless fault

/-- A directory that was made is there. -/
lemma leads_of_makeDirectory {v : Workspace} (hidle : isIdle name = false)
    (h : (makeDirectory place parts name).outcome w = (.ok (), v)) :
    ∃ goal, Leads v true linkLimit place (parts ++ [name]) goal ∧
      v.tree.face? goal = some .directory := by
  rw [makeDirectory_outcome] at h
  rcases houter : w.directoryAt place parts with fault | outer <;> rw [houter] at h
  · cases h
  dsimp only at h
  split at h
  next => cases h
  next hparent =>
  split at h
  next => cases h
  next hsize =>
  split at h
  next => cases h
  next hnone =>
    obtain ⟨hleads, hdirectory⟩ := directoryAt_eq_ok.mp houter
    have hnone : w.tree.get? (outer ++ [name]) = none := by simpa using hnone
    obtain rfl := (Prod.mk.inj h).2
    have hextends := extends_put_empty hdirectory hnone
    have hthere := face?_put_empty hdirectory hnone (outer ++ [name])
    rw [if_pos rfl] at hthere
    obtain ⟨left, hleft⟩ :=
      (hleads.keeps hextends.toKeeps).follow_append (hextends.directory hdirectory)
    refine ⟨outer ++ [name], follow_eq_ok.mp ?_, hthere⟩
    rw [hleft, follow_directory ⟨hidle, hparent, Nat.not_lt.mp hsize⟩ hthere, follow_nil]

/-- Directories that were made are there. -/
lemma leads_of_makeDirectories {v : Workspace} (hplace : w.tree.face? place = some .directory)
    (h : (makeDirectories place parts).outcome w = (.ok (), v)) :
    ∃ goal, Leads v true linkLimit place parts.reverse goal ∧
      v.tree.face? goal = some .directory := by
  induction parts generalizing w v with
  | nil =>
    obtain rfl := (Prod.mk.inj h).2
    exact ⟨place, .here, hplace⟩
  | cons name outer ih =>
    rw [List.reverse_cons]
    rw [makeDirectories] at h
    by_cases hidle : isIdle name
    · rw [if_pos hidle] at h
      obtain ⟨goal, hleads, hgoal⟩ := ih hplace h
      refine ⟨goal, hleads.congr_proper hgoal ?_, hgoal⟩
      rw [proper_append, proper_cons_of_idle hidle]
      exact (List.append_nil _).symm
    rw [if_neg hidle] at h
    have hidle : isIdle name = false := by simpa using hidle
    dsimp only at h
    have hunless {fault : FileFault} {w : Workspace}
        (h : Change.outcome (do
          if !(← get).isDirectoryAt place (outer.reverse ++ [name]) then
            MonadExcept.throw fault : Change Unit) w = (.ok (), v)) :
        ∃ goal, Leads v true linkLimit place (outer.reverse ++ [name]) goal ∧
          v.tree.face? goal = some .directory := by
      rw [outcome_get_bind] at h
      rcases hthere : w.directoryAt place (outer.reverse ++ [name]) with fault | goal
      · rw [isDirectoryAt, hthere] at h
        cases h
      · rw [isDirectoryAt_eq hthere] at h
        obtain rfl := (Prod.mk.inj h).2
        exact ⟨goal, directoryAt_eq_ok.mp hthere⟩
    rw [outcome_tryCatch] at h
    rcases hmake : (makeDirectory place outer.reverse name).outcome w with ⟨fault | _, w'⟩ <;>
      rw [hmake] at h
    · dsimp only at h
      split at h
      next =>
        rcases hmakes : (makeDirectories place outer).outcome w' with ⟨fault | _, w''⟩
        · rw [outcome_bind_error hmakes] at h
          cases h
        rw [outcome_bind_ok hmakes, outcome_tryCatch] at h
        rcases hmake : (makeDirectory place outer.reverse name).outcome w''
          with ⟨fault | _, w'''⟩ <;> rw [hmake] at h
        · exact hunless h
        · obtain rfl := (Prod.mk.inj h).2
          exact leads_of_makeDirectory hidle hmake
      next => exact hunless h
    · obtain rfl := (Prod.mk.inj h).2
      exact leads_of_makeDirectory hidle hmake

/-! ### Paths -/

lemma outcome_demandName_bind {β : Type} (next : Unit → Change β) (w : Workspace) :
    Change.outcome (demandName path >>= next) w =
      if '\x00' ∈ path.toList then (.error .nulInName, w) else (next ()).outcome w := by
  unfold demandName
  by_cases hnul : '\x00' ∈ path.toList
  · rw [if_pos (by simpa using hnul), if_pos hnul]
    rfl
  · rw [if_neg (by simpa using hnul), if_neg hnul]
    rfl

lemma makePath_grows (path : String) : Grows (makePath path) := by
  intro w
  unfold makePath
  rw [outcome_demandName_bind]
  split
  · rfl
  · rw [outcome_get_bind]
    exact makeDirectories_grows _ _ w

lemma face?_start (hhere : w.tree.face? w.here = some .directory) (path : String) :
    w.tree.face? (w.start path) = some .directory :=
  face?_linkStart path hhere

/-- A path to a directory that is there is not made. -/
lemma makePath_there (hhere : w.tree.face? w.here = some .directory)
    (hnul : '\x00' ∉ path.toList)
    (h : Leads w true linkLimit (w.start path) (Path.parts path) goal)
    (hgoal : w.tree.face? goal = some .directory) : (makePath path).outcome w = (.ok (), w) := by
  unfold makePath
  rw [outcome_demandName_bind, if_neg hnul, outcome_get_bind]
  exact makeDirectories_there (face?_start hhere path) h hgoal

/-- A path that was made leads to a directory. -/
lemma leads_of_makePath {v : Workspace} (hhere : w.tree.face? w.here = some .directory)
    (h : (makePath path).outcome w = (.ok (), v)) :
    '\x00' ∉ path.toList ∧ ∃ goal,
      Leads v true linkLimit (v.start path) (Path.parts path) goal ∧
      v.tree.face? goal = some .directory := by
  have hgrows := makePath_grows path w
  rw [h] at hgrows
  unfold makePath at h
  rw [outcome_demandName_bind] at h
  split at h
  next => cases h
  next hnul =>
    rw [outcome_get_bind] at h
    obtain ⟨goal, hleads, hgoal⟩ := leads_of_makeDirectories (face?_start hhere path) h
    rw [List.reverse_reverse, ← hgrows.start] at hleads
    exact ⟨hnul, goal, hleads, hgoal⟩

/-- The workspace with a file at a place. -/
def store (w : Workspace) (place : Place) (content : List UInt8) : Workspace :=
  { w with tree := w.tree.put place (.file content) }

/-- Whether a path leads to a directory whatever is there. -/
def EndsInside (path : String) : Prop :=
  ∃ name ∈ (Path.parts path).getLast?, isIdle name ∨ name = ".."

section

variable (content : List UInt8)

lemma writeFile_inside (h : EndsInside path) :
    ∃ fault, (writeFile path content).outcome w = (.error fault, w) := by
  obtain ⟨name, hname, hinside⟩ := h
  unfold writeFile
  rw [outcome_demandName_bind]
  split
  · exact ⟨_, rfl⟩
  rw [Option.mem_def] at hname
  dsimp only
  rw [hname, Option.any_some, if_pos (by simpa using hinside)]
  rw [outcome_bind, outcome_see]
  rcases w.directoryAt (w.start path) _ with fault | goal <;> exact ⟨_, rfl⟩

lemma writeFile_outcome (hnul : '\x00' ∉ path.toList) (hends : ¬EndsInside path) :
    (writeFile path content).outcome w =
      match w.locate path with
      | .error fault => (.error fault, w)
      | .ok goal     =>
        if w.tree.face? goal = some .directory then (.error .isADirectory, w)
        else (.ok (), w.store goal content) := by
  unfold writeFile
  rw [outcome_demandName_bind, if_neg hnul]
  dsimp only
  rw [if_neg]
  · rw [outcome_bind, outcome_see]
    rcases w.locate path with fault | goal
    · rfl
    · dsimp only
      rw [outcome_get_bind, FileTree.face?]
      rcases w.tree.get? goal with _ | ⟨_ | _ | _⟩ <;> rfl
  · rw [Option.any_eq_true]
    rintro ⟨name, hname, hinside⟩
    exact hends ⟨name, hname, by simpa using hinside⟩

/-- A file is written where its path leads, or nothing is changed. -/
lemma writeFile_cases (hhere : w.tree.face? w.here = some .directory) :
    (∃ fault, (writeFile path content).outcome w = (.error fault, w)) ∨
      ∃ goal, '\x00' ∉ path.toList ∧ ¬EndsInside path ∧ w.locate path = .ok goal ∧
        w.tree.Fits goal ∧ (∀ target, w.tree.face? goal ≠ some (.link target)) ∧
        (writeFile path content).outcome w = (.ok (), w.store goal content) := by
  by_cases hnul : '\x00' ∈ path.toList
  · refine .inl ⟨.nulInName, ?_⟩
    rw [writeFile, outcome_demandName_bind, if_pos hnul]
  by_cases hinside : EndsInside path
  · exact .inl (writeFile_inside content hinside)
  rw [writeFile_outcome content hnul hinside]
  rcases hlocate : w.locate path with fault | goal
  · exact .inl ⟨fault, rfl⟩
  · dsimp only
    rcases (locate_eq_ok.mp hlocate).2.2.fits (face?_start hhere path) with hdirectory | hfits
    · exact .inl ⟨_, if_pos hdirectory⟩
    · exact .inr ⟨goal, hnul, hinside, rfl, hfits.1, hfits.2, if_neg hfits.1.free⟩

end

/-- A file that is written keeps the directories and the links. -/
lemma keeps_store (hfits : w.tree.Fits goal)
    (hlink : ∀ target, w.tree.face? goal ≠ some (.link target)) (content : List UInt8) :
    Keeps w (w.store goal content) := by
  refine ⟨rfl, fun h => (hfits.directory_iff content _).mpr h, ?_⟩
  intro place target
  rw [store, hfits.face?_put]
  split
  next heq =>
    rw [heq]
    exact ⟨nofun, fun h => absurd h (hlink target)⟩
  next => rfl

end Stencil.Workspace
