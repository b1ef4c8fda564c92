import GridAsm.Notice

/-!
# What an attempt gives

`x.Gives a ns` says that the attempt `x` succeeds with `a` and leaves the notices `ns`.  The lemmas
here take an attempt apart where it is put together: a sequence gives what its second part gives on
the value of the first, with the notices of both.

`x.outcome` is the value or the fault of `x` without its notices.  It turns an attempt into a plain
`Except`, part by part (`outcome_bind`), so that both ways an attempt can end are one equation.  Its
notices are there in both ways too (`notices_bind_of_quiet`).
-/

namespace GridAsm.Attempt

variable {ε α β : Type}

/-- The attempt succeeds with a value and leaves notices. -/
def Gives (x : Attempt ε α) (a : α) (ns : List Notice) : Prop :=
  x.run = ⟨.ok a, ns⟩

theorem gives_iff {x : Attempt ε α} {a : α} {ns : List Notice} :
    x.Gives a ns ↔ x.run.value = .ok a ∧ x.run.notices = ns := by
  constructor
  · intro h
    rw [Gives] at h
    rw [h]
    exact ⟨rfl, rfl⟩
  · rintro ⟨hv, hn⟩
    exact Logged.ext hv hn

instance [DecidableEq α] (x : Attempt ε α) (a : α) (ns : List Notice) : Decidable (x.Gives a ns) :=
  decidable_of_iff (x.run.value.toOption = some a ∧ x.run.notices = ns) <| by
    rw [gives_iff]
    cases x.run.value <;> simp [Except.toOption]

@[simp] theorem gives_pure {a b : α} {ns : List Notice} :
    (pure a : Attempt ε α).Gives b ns ↔ b = a ∧ ns = [] := by
  rw [gives_iff]
  simp [eq_comm]

@[simp] theorem not_gives_throw {e : ε} {a : α} {ns : List Notice} :
    ¬ (throw e : Attempt ε α).Gives a ns := by
  intro h
  exact nomatch (gives_iff.mp h).1

@[simp] theorem gives_note {n : Notice} {u : Unit} {ns : List Notice} :
    (note n : Attempt ε Unit).Gives u ns ↔ ns = [n] := by
  rw [gives_iff]
  constructor
  · rintro ⟨-, hn⟩
    exact hn.symm
  · rintro rfl
    exact ⟨rfl, rfl⟩

@[simp] theorem gives_liftExcept {x : Except ε α} {a : α} {ns : List Notice} :
    (liftExcept x : Attempt ε α).Gives a ns ↔ x = .ok a ∧ ns = [] := by
  cases x with
  | ok b => simp [liftExcept, eq_comm]
  | error e => simp [liftExcept]

@[simp] theorem gives_liftM {x : Logged α} {a : α} {ns : List Notice} :
    (liftM x : Attempt ε α).Gives a ns ↔ a = x.value ∧ ns = x.notices := by
  have hx : (liftM x : Attempt ε α).run = ⟨.ok x.value, x.notices⟩ :=
    Logged.ext rfl (List.append_nil _)
  rw [Gives, hx]
  constructor
  · intro h
    cases h
    exact ⟨rfl, rfl⟩
  · rintro ⟨rfl, rfl⟩
    rfl

/-- A sequence gives what its second part gives, with the notices of both parts. -/
theorem gives_bind {x : Attempt ε α} {f : α → Attempt ε β} {b : β} {ns : List Notice} :
    (x >>= f).Gives b ns ↔
      ∃ a n₁ n₂, x.Gives a n₁ ∧ (f a).Gives b n₂ ∧ ns = n₁ ++ n₂ := by
  have hrun : (x >>= f).run = x.run >>= ExceptT.bindCont f := rfl
  simp only [gives_iff, hrun, Logged.value_bind, Logged.notices_bind]
  cases hx : x.run.value with
  | ok a =>
    constructor
    · rintro ⟨hv, rfl⟩
      exact ⟨a, _, _, ⟨rfl, rfl⟩, ⟨hv, rfl⟩, rfl⟩
    · rintro ⟨a', n₁, n₂, ⟨ha, rfl⟩, ⟨hv, rfl⟩, rfl⟩
      obtain rfl := Except.ok.inj ha
      exact ⟨hv, rfl⟩
  | error e =>
    constructor
    · rintro ⟨hv, -⟩
      exact nomatch hv
    · rintro ⟨a, n₁, n₂, ⟨ha, -⟩, -⟩
      exact nomatch ha

/-- A mapped attempt gives the image of what the attempt gives. -/
theorem gives_map {x : Attempt ε α} {f : α → β} {b : β} {ns : List Notice} :
    (f <$> x).Gives b ns ↔ ∃ a, x.Gives a ns ∧ b = f a := by
  rw [map_eq_pure_bind, gives_bind]
  constructor
  · rintro ⟨a, n₁, n₂, hx, hf, rfl⟩
    obtain ⟨rfl, rfl⟩ := gives_pure.mp hf
    exact ⟨a, by simpa using hx, rfl⟩
  · rintro ⟨a, hx, rfl⟩
    exact ⟨a, ns, [], hx, gives_pure.mpr ⟨rfl, rfl⟩, (List.append_nil ns).symm⟩

/-! ### Success -/

/-- The attempt succeeds, with some value and some notices. -/
def Succeeds (x : Attempt ε α) : Prop :=
  ∃ a ns, x.Gives a ns

theorem succeeds_pure (a : α) : (pure a : Attempt ε α).Succeeds :=
  ⟨a, [], gives_pure.mpr ⟨rfl, rfl⟩⟩

/-- A sequence succeeds if its second part does so on the value of the first. -/
theorem Gives.succeeds_bind {x : Attempt ε α} {a : α} {ns : List Notice} (hx : x.Gives a ns)
    {f : α → Attempt ε β} (hf : (f a).Succeeds) : (x >>= f).Succeeds := by
  obtain ⟨b, ms, hb⟩ := hf
  exact ⟨b, ns ++ ms, gives_bind.mpr ⟨a, ns, ms, hx, hb, rfl⟩⟩

/-- What an attempt gives is determined. -/
theorem Gives.unique {x : Attempt ε α} {a b : α} {ns ms : List Notice} (ha : x.Gives a ns)
    (hb : x.Gives b ms) : a = b :=
  Except.ok.inj ((gives_iff.mp ha).1.symm.trans (gives_iff.mp hb).1)

/-- After a part that succeeds, a sequence succeeds exactly if its second part does. -/
theorem Gives.succeeds_bind_iff {x : Attempt ε α} {a : α} {ns : List Notice} (hx : x.Gives a ns)
    {f : α → Attempt ε β} : (x >>= f).Succeeds ↔ (f a).Succeeds := by
  refine ⟨?_, hx.succeeds_bind⟩
  rintro ⟨b, ms, h⟩
  obtain ⟨a', _, n₂, hx', hf, -⟩ := gives_bind.mp h
  obtain rfl := hx.unique hx'
  exact ⟨b, n₂, hf⟩

/-- A last part that cannot fail does not matter. -/
theorem succeeds_bind_pure_iff {x : Attempt ε α} {f : α → β} :
    (x >>= fun a => pure (f a)).Succeeds ↔ x.Succeeds := by
  constructor
  · rintro ⟨_, _, h⟩
    obtain ⟨a, ns, _, hx, -, -⟩ := gives_bind.mp h
    exact ⟨a, ns, hx⟩
  · rintro ⟨a, ns, hx⟩
    exact hx.succeeds_bind (succeeds_pure _)

theorem succeeds_note_bind {n : Notice} {f : Unit → Attempt ε β} (h : (f ()).Succeeds) :
    (note n >>= f).Succeeds := by
  have hnote : (note n : Attempt ε Unit).Gives () [n] := gives_note.mpr rfl
  exact hnote.succeeds_bind h

/-! ### Outcomes -/

/-- The value of an attempt, or the fault it stops with. -/
def outcome (x : Attempt ε α) : Except ε α :=
  x.run.value

theorem succeeds_iff_outcome {x : Attempt ε α} : x.Succeeds ↔ ∃ a, x.outcome = .ok a := by
  constructor
  · rintro ⟨a, ns, h⟩
    exact ⟨a, (gives_iff.mp h).1⟩
  · rintro ⟨a, h⟩
    exact ⟨a, _, gives_iff.mpr ⟨h, rfl⟩⟩

theorem not_succeeds_iff {x : Attempt ε α} : ¬ x.Succeeds ↔ ∃ e, x.outcome = .error e := by
  rw [succeeds_iff_outcome]
  cases x.outcome with
  | ok a => exact iff_of_false (fun h => h ⟨a, rfl⟩) (fun ⟨_, h⟩ => nomatch h)
  | error e => exact iff_of_true (fun ⟨_, h⟩ => nomatch h) ⟨e, rfl⟩

/-- The fault that an attempt stops with, if it does. -/
def fault? (x : Attempt ε α) : Option ε :=
  match x.outcome with
  | .ok _ => none
  | .error e => some e

@[simp] theorem outcome_pure (a : α) : (pure a : Attempt ε α).outcome = .ok a := rfl

@[simp] theorem outcome_throw (e : ε) : (throw e : Attempt ε α).outcome = .error e := rfl

@[simp] theorem outcome_liftExcept (x : Except ε α) :
    (liftExcept x : Attempt ε α).outcome = x := by
  cases x <;> rfl

@[simp] theorem outcome_liftM (x : Logged α) :
    (liftM x : Attempt ε α).outcome = .ok x.value := rfl

/-- The outcome of a sequence is that of its parts. -/
theorem outcome_bind (x : Attempt ε α) (f : α → Attempt ε β) :
    (x >>= f).outcome = x.outcome >>= fun a => (f a).outcome := by
  have hrun : (x >>= f).run = x.run >>= ExceptT.bindCont f := rfl
  simp only [outcome, hrun, Logged.value_bind]
  cases x.run.value <;> rfl

@[simp] theorem outcome_map (f : α → β) (x : Attempt ε α) :
    (f <$> x).outcome = x.outcome.map f := by
  rw [map_eq_pure_bind, outcome_bind]
  cases x.outcome <;> rfl

/-! ### Notices -/

@[simp] theorem notices_liftExcept (x : Except ε α) :
    (liftExcept x : Attempt ε α).run.notices = [] := by
  cases x <;> rfl

@[simp] theorem notices_liftM (x : Logged α) :
    (liftM x : Attempt ε α).run.notices = x.notices :=
  List.append_nil _

/-- A sequence whose second part leaves no notices leaves those of the first, whether the second part
is reached or not. -/
theorem notices_bind_of_quiet (x : Attempt ε α) {f : α → Attempt ε β}
    (hf : ∀ a, (f a).run.notices = []) : (x >>= f).run.notices = x.run.notices := by
  have hrun : (x >>= f).run = x.run >>= ExceptT.bindCont f := rfl
  have hrest : (ExceptT.bindCont f x.run.value).notices = [] := by
    cases x.run.value with
    | ok a => exact hf a
    | error e => rfl
  rw [hrun, Logged.notices_bind, hrest, List.append_nil]

end GridAsm.Attempt

namespace GridAsm.Logged

theorem warnings_bind {α β : Type} (x : Logged α) (f : α → Logged β) :
    (x >>= f).warnings = x.warnings ++ (f x.value).warnings := by
  unfold warnings
  rw [notices_bind, List.filter_append]

end GridAsm.Logged
