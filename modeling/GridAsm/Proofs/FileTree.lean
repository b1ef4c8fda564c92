import GridAsm.Files.Tree

/-!
# What a change leaves of a file tree

Writing a text to a path leaves the text at the place that the path names, and nothing else is
changed but that directories may come where nothing was (`keeps_of_writeText`).

The place of a path is read off its names (`Path.place`); following the names in a tree either fails
or leads there (`placeOf_eq_ok`).  `Keeps` says of one place what any making of directories says of
all: what was there is there still, or nothing was there and now it is a directory.
-/

namespace GridAsm

open Text

/-- The place that a path names, where no directory on the way is missing. -/
def Path.place (p : Path) : Place :=
  (p.names.map nameRead).foldl FileTree.child (if p.root = "" then [] else FileTree.root)

namespace FileTree

variable {t t' t'' : FileTree} {p : Path} {place other : Place} {e : Entry}

/-- A file at a place holds a text, in UTF-8. -/
def Holds (t : FileTree) (place : Place) (text : Text) : Prop :=
  ∃ s : String, ofString s = text ∧ t.find? place = some (.file (encodeUtf8 s))

/-- What is at a place in one tree is there in another, or nothing was there and a directory is. -/
def Keeps (t t' : FileTree) (place : Place) : Prop :=
  t'.find? place = t.find? place ∨ t.find? place = none ∧ t'.find? place = some .directory

theorem Keeps.refl (t : FileTree) (place : Place) : t.Keeps t place :=
  .inl rfl

theorem Keeps.trans (h : t.Keeps t' place) (h' : t'.Keeps t'' place) : t.Keeps t'' place := by
  rcases h with h | ⟨hnone, hdirectory⟩
  · rcases h' with h' | ⟨hnone', hdirectory'⟩
    · exact .inl (h'.trans h)
    · exact .inr ⟨h ▸ hnone', hdirectory'⟩
  · rcases h' with h' | ⟨hnone', -⟩
    · exact .inr ⟨hnone, h'.trans hdirectory⟩
    · rw [hdirectory] at hnone'
      exact nomatch hnone'

/-- A file stays as it is where no more than directories are made. -/
theorem Holds.of_keeps {text : Text} (h : t.Holds place text) (hkeeps : t.Keeps t' place) :
    t'.Holds place text := by
  obtain ⟨s, hs, hfile⟩ := h
  rcases hkeeps with hsame | ⟨hnone, -⟩
  · exact ⟨s, hs, hsame.trans hfile⟩
  · rw [hnone] at hfile
    exact nomatch hfile

/-! ### Texts that can be written -/

/-- A text without lone surrogates is that of a string. -/
theorem ofString_lossy {text : Text} {offset : Nat}
    (h : encodeFaultFrom (fun _ => false) offset text = none) : ofString text.lossy = text := by
  induction text generalizing offset with
  | nil => rfl
  | cons point rest ih =>
    unfold encodeFaultFrom at h
    cases point with
    | lone surrogate => cases h
    | char c =>
      have hrest := ih h
      simp only [ofString, ofChars, lossy, String.toList_ofList, List.map_cons] at hrest ⊢
      rw [hrest, CodePoint.lossy_char]

theorem ofString_of_encoded {text : Text} {s : String} (h : text.encoded = .ok s) :
    ofString s = text := by
  unfold encoded at h
  split at h
  · cases h
  · rename_i hnone
    cases h
    exact ofString_lossy hnone

/-! ### Places -/

theorem lookup_cons (other q : Place) (old : Entry) (rest : List (Place × Entry)) :
    ((q, old) :: rest).lookup other = if other = q then some old else rest.lookup other := by
  by_cases h : other = q
  · rw [h, if_pos rfl, List.lookup_cons_self]
  · rw [if_neg h, List.lookup_cons, beq_eq_false_iff_ne.mpr h]

theorem lookup_putIn (place other : Place) (e : Entry) (entries : List (Place × Entry)) :
    (putIn place e entries).lookup other =
      if other = place then some e else entries.lookup other := by
  induction entries with
  | nil =>
    unfold putIn
    rw [lookup_cons]
  | cons entry rest ih =>
    obtain ⟨q, old⟩ := entry
    unfold putIn
    by_cases hq : q = place
    · rw [if_pos hq, lookup_cons, lookup_cons, hq]
      by_cases h : other = place
      · rw [if_pos h, if_pos h]
      · rw [if_neg h, if_neg h, if_neg h]
    · rw [if_neg hq, lookup_cons, lookup_cons, ih]
      by_cases h : other = q
      · rw [if_pos h, if_pos h, if_neg (fun hplace => hq (h.symm.trans hplace))]
      · rw [if_neg h, if_neg h]

/-- What is put at a place that no tree has as a directory is there, and nowhere else. -/
theorem find?_put (hfree : isFixed place = false) (other : Place) :
    (t.put place e).find? other = if other = place then some e else t.find? other := by
  unfold find? put
  by_cases h : other = place
  · simp [h, hfree, lookup_putIn]
  · simp [h, lookup_putIn]

theorem isFixed_eq_false (h : t.find? place ≠ some .directory) : isFixed place = false := by
  unfold find? at h
  split at h
  · exact absurd rfl h
  · rename_i hfixed
    exact Bool.eq_false_iff.mpr hfixed

/-- A path that can be followed leads to the place that its names say. -/
theorem follow_eq_ok {names : List Text} {start : Place} (h : t.follow start names = .ok place) :
    place = names.foldl child start := by
  induction names generalizing start with
  | nil =>
    cases h
    rfl
  | cons name rest ih =>
    unfold follow at h
    split at h
    · split at h
      · cases h
      · exact ih h
    · cases h
    · cases h

theorem placeOf_eq_ok (h : t.placeOf p = .ok place) : place = p.place := by
  unfold placeOf at h
  split at h
  · cases h
  split at h
  · cases h
  split at h
  · cases h
  split at h
  · rename_i found hfound
    cases h
    exact follow_eq_ok hfound
  · cases h

/-! ### Reading -/

/-- The faults of a path that names no place in any tree. -/
inductive NoPlace (p : Path) : FileFault → Prop where
  | unencodable {fault : EncodeFault} (h : nameFault? p.text = some fault) :
    NoPlace p (.unencodable fault)
  | null (hname : nameFault? p.text = none) (hnull : p.text.contains '\x00' = true) :
    NoPlace p .nullInPath

theorem placeOf_eq_error {fault : FileFault} (h : t.placeOf p = .error fault) :
    (∃ problem, fault = .failed problem p.text) ∨ NoPlace p fault := by
  unfold placeOf at h
  split at h
  · rename_i hname
    cases h
    exact .inr (.unencodable hname)
  · rename_i hname
    split at h
    · rename_i hnull
      cases h
      exact .inr (.null hname hnull)
    split at h
    · cases h
      exact .inl ⟨_, rfl⟩
    split at h
    · cases h
    · cases h
      exact .inl ⟨_, rfl⟩

theorem NoPlace.placeOf {fault : FileFault} (h : NoPlace p fault) (t : FileTree) :
    t.placeOf p = .error fault := by
  unfold FileTree.placeOf
  cases h with
  | unencodable hname => rw [hname]
  | null hname hnull =>
    rw [hname]
    exact if_pos hnull

theorem read_eq (t : FileTree) (p : Path) :
    t.read p = t.placeOf p >>= fun place => match t.find? place with
      | some (.file bytes) => .ok bytes
      | some .directory => .error (.failed .isDirectory p.text)
      | none => .error (.failed .notFound p.text) :=
  rfl

/-- A file that cannot be read fails by its path, unless the path names no place. -/
theorem read_eq_error {fault : FileFault} (h : t.read p = .error fault) :
    (∃ problem, fault = .failed problem p.text) ∨ NoPlace p fault := by
  rw [read_eq] at h
  cases hplace : t.placeOf p with
  | error e =>
    rw [hplace] at h
    cases h
    exact placeOf_eq_error hplace
  | ok place =>
    rw [hplace] at h
    left
    simp only [bind, Except.bind] at h
    split at h
    · cases h
    · cases h
      exact ⟨_, rfl⟩
    · cases h
      exact ⟨_, rfl⟩

theorem NoPlace.read {fault : FileFault} (h : NoPlace p fault) (t : FileTree) :
    t.read p = .error fault := by
  rw [read_eq, h.placeOf t]
  rfl

/-! ### Changes -/

section

variable {α β : Type}

@[simp] theorem edit_throw (t : FileTree) (fault : FileFault) :
    t.edit (throw fault : Edit α) = (.error fault, t) := rfl

@[simp] theorem edit_liftExcept (t : FileTree) (result : Except FileFault α) :
    t.edit (liftExcept result) = (result, t) := by
  cases result <;> rfl

@[simp] theorem edit_get (t : FileTree) : t.edit get = (.ok t, t) := rfl

@[simp] theorem edit_set (t t' : FileTree) : t.edit (set t') = (.ok (), t') := rfl

theorem edit_bind (t : FileTree) (x : Edit α) (f : α → Edit β) :
    t.edit (x >>= f) = match t.edit x with
      | (.ok a, t') => t'.edit (f a)
      | (.error fault, t') => (.error fault, t') := by
  have hrun : t.edit (x >>= f) = (x.run >>= ExceptT.bindCont f).run t := rfl
  rw [hrun, StateT.run_bind]
  unfold edit
  rcases x.run.run t with ⟨result, t'⟩
  cases result <;> rfl

theorem edit_tryCatch (t : FileTree) (x : Edit α) (h : FileFault → Edit α) :
    t.edit (tryCatch x h) = match t.edit x with
      | (.ok a, t') => (.ok a, t')
      | (.error fault, t') => t'.edit (h fault) := by
  have hrun : t.edit (tryCatch x h) = (ExceptT.tryCatch x h).run.run t := rfl
  rw [hrun]
  unfold ExceptT.tryCatch edit
  rw [ExceptT.run_mk]
  show ((x.run : StateM FileTree _) >>= _).run t = _
  rw [StateT.run_bind]
  rcases x.run.run t with ⟨result, t'⟩
  cases result <;> rfl

end

/-- Files and directories are made alike: at the place of a path, unless what is there refuses it.
A refusal leaves the tree as it is. -/
theorem edit_placed (t : FileTree) (p : Path) (e : Entry) (problem : FileProblem)
    (refused : FileTree → Place → Prop) [∀ t place, Decidable (refused t place)]
    (x : Edit Unit)
    (hx : x = do
      let t ← get
      let place ← liftExcept (t.placeOf p)
      if refused t place then throw (.failed problem p.text)
      set (t.put place e)) :
    (∃ fault, t.edit x = (.error fault, t)) ∨
      ∃ place, t.placeOf p = .ok place ∧ ¬ refused t place ∧
        t.edit x = (.ok (), t.put place e) := by
  subst hx
  simp only [edit_bind, edit_get, edit_liftExcept]
  cases t.placeOf p with
  | error fault => exact .inl ⟨fault, rfl⟩
  | ok place =>
    by_cases hrefused : refused t place
    · left
      simp only [if_pos hrefused, edit_bind, edit_throw]
      exact ⟨_, rfl⟩
    · right
      simp only [if_neg hrefused, edit_set]
      exact ⟨place, rfl, hrefused, rfl⟩

theorem edit_write (t : FileTree) (p : Path) (bytes : List UInt8) :
    (∃ fault, t.edit (write p bytes) = (.error fault, t)) ∨
      ∃ place, t.placeOf p = .ok place ∧ t.find? place ≠ some .directory ∧
        t.edit (write p bytes) = (.ok (), t.put place (.file bytes)) :=
  edit_placed t p (.file bytes) .isDirectory (fun t place => t.find? place = some .directory) _ rfl

theorem edit_makeDirectory (t : FileTree) (p : Path) :
    (∃ fault, t.edit (makeDirectory p) = (.error fault, t)) ∨
      ∃ place, t.placeOf p = .ok place ∧ ¬ (t.find? place).isSome ∧
        t.edit (makeDirectory p) = (.ok (), t.put place .directory) :=
  edit_placed t p .directory .alreadyExists (fun t place => (t.find? place).isSome) _ rfl

/-! ### Making directories -/

/-- A change leaves a place as it is, or makes a directory of it, whether it fails or not. -/
def Spares (x : Edit Unit) (place : Place) : Prop :=
  ∀ ⦃t t' : FileTree⦄ ⦃result : Except FileFault Unit⦄,
    t.edit x = (result, t') → t.Keeps t' place

theorem Spares.bind {x : Edit Unit} {f : Unit → Edit Unit} (hx : Spares x place)
    (hf : ∀ u, Spares (f u) place) : Spares (x >>= f) place := by
  intro t t' result h
  rw [edit_bind] at h
  rcases hfirst : t.edit x with ⟨first, t₁⟩
  rw [hfirst] at h
  cases first with
  | ok u => exact (hx hfirst).trans (hf u h)
  | error fault =>
    cases h
    exact hx hfirst

theorem Spares.tryCatch {x : Edit Unit} {f : FileFault → Edit Unit} (hx : Spares x place)
    (hf : ∀ fault, Spares (f fault) place) : Spares (tryCatch x f) place := by
  intro t t' result h
  rw [edit_tryCatch] at h
  rcases hfirst : t.edit x with ⟨first, t₁⟩
  rw [hfirst] at h
  cases first with
  | ok u =>
    cases h
    exact hx hfirst
  | error fault => exact (hx hfirst).trans (hf fault h)

theorem spares_makeDirectory (p : Path) (place : Place) : Spares (makeDirectory p) place := by
  intro t t' result h
  rcases edit_makeDirectory t p with ⟨fault, hfailed⟩ | ⟨made, -, hentry, hmade⟩
  · cases hfailed.symm.trans h
    exact .refl t place
  · cases hmade.symm.trans h
    have hnone : t.find? made = none := Option.not_isSome_iff_eq_none.mp hentry
    have hfree : isFixed made = false := isFixed_eq_false (t := t) (by simp [hnone])
    unfold Keeps
    rw [find?_put hfree]
    by_cases hplace : place = made
    · rw [if_pos hplace, hplace]
      exact .inr ⟨hnone, rfl⟩
    · rw [if_neg hplace]
      exact .inl rfl

theorem spares_acceptDirectory (p : Path) (fault : FileFault) (place : Place) :
    Spares (acceptDirectory p fault) place := by
  intro t t' result h
  unfold acceptDirectory at h
  simp only [edit_bind, edit_get] at h
  split at h
  · cases h
    exact .refl t place
  · cases h
    exact .refl t place

theorem spares_ensureDirectory (p : Path) (place : Place) : Spares (ensureDirectory p) place :=
  (spares_makeDirectory p place).tryCatch fun fault => spares_acceptDirectory p fault place

theorem spares_ensureDirectoriesTo (p : Path) (depth : Nat) (place : Place) :
    Spares (ensureDirectoriesTo p depth) place := by
  -- One level of depth more makes the directories above first, so the path changes with the depth.
  induction depth generalizing p with
  | zero => exact spares_ensureDirectory p place
  | succ depth ih =>
    unfold ensureDirectoriesTo
    apply (spares_makeDirectory p place).tryCatch
    intro fault
    split
    · exact (ih p.parent).bind fun _ => spares_ensureDirectory p place
    · exact spares_acceptDirectory p _ place

/-! ### Writing texts -/

/-- Bytes that have been written are at the place of their path, and nothing else has changed. -/
theorem find?_of_write {bytes : List UInt8} (h : t.edit (write p bytes) = (.ok (), t'))
    (place : Place) :
    t'.find? place = if place = p.place then some (.file bytes) else t.find? place := by
  rcases edit_write t p bytes with ⟨fault, hfailed⟩ | ⟨found, hfound, hdirectory, hwritten⟩
  · cases hfailed.symm.trans h
  · cases hwritten.symm.trans h
    obtain rfl := placeOf_eq_ok hfound
    exact find?_put (isFixed_eq_false hdirectory) place

/-- A text that has been written is at the place of its path, and nothing else has changed but for
directories that were made. -/
theorem keeps_of_writeText {text : Text} (h : t.edit (writeText p text) = (.ok (), t')) :
    t'.Holds p.place text ∧ ∀ place, place ≠ p.place → t.Keeps t' place := by
  unfold writeText ensureDirectories at h
  rw [edit_bind] at h
  rcases hmade : t.edit (ensureDirectoriesTo p.parent p.parent.names.length) with ⟨result, t₁⟩
  rw [hmade] at h
  cases result with
  | error fault => cases h
  | ok u =>
    dsimp only at h
    split at h
    · rename_i s hs
      have hfind := find?_of_write h
      constructor
      · refine ⟨s, ofString_of_encoded hs, ?_⟩
        rw [hfind, if_pos rfl]
      · intro place hne
        apply (spares_ensureDirectoriesTo _ _ place hmade).trans
        rw [Keeps, hfind, if_neg hne]
        exact .inl rfl
    · -- A text that cannot be written fails after its file has been emptied.
      rw [edit_bind] at h
      split at h
      · cases h
      · cases h

end FileTree

end GridAsm
