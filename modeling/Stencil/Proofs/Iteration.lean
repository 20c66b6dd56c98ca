import Stencil.Action

/-!
# Failures in iterations

A failure comes out of an iteration as it is, with one exception: the sign by which iterations end
would end this one, and a failure of another kind takes its place. This happens once, however many
iterations the failure comes out of. Several things are done in an iteration, a single one is not,
so what becomes of a failure depends on how many there are (`Action.among`).
-/

namespace Stencil

namespace Failure

/-- What becomes of a failure of one of so many things that are done in a row. Only several are
iterated over. -/
def among (count : Nat) (e : Failure) : Failure :=
  if count ≤ 1 then e else e.iterated

section

variable {count : Nat} {e : Failure}

/-- A failure that is no sign of an end comes out of an iteration as it is. -/
theorem iterated_of_endsIteration_eq_false (he : e.endsIteration = false) : e.iterated = e := by
  rw [iterated, he, if_neg Bool.false_ne_true]

/-- The sign of an end does not come out of an iteration. -/
theorem iterated_of_endsIteration (he : e.endsIteration = true) :
    e.iterated = .brokenIteration := by
  rw [iterated, if_pos he]

/-- What comes out of an iteration is no sign of an end. -/
theorem endsIteration_iterated (e : Failure) : e.iterated.endsIteration = false := by
  cases he : e.endsIteration with
  | true =>
    rw [iterated_of_endsIteration he]
    decide
  | false => rwa [iterated_of_endsIteration_eq_false he]

/-- Coming out of one more iteration changes nothing. -/
@[simp] theorem iterated_iterated (e : Failure) : e.iterated.iterated = e.iterated :=
  iterated_of_endsIteration_eq_false e.endsIteration_iterated

/-- A single thing fails as it does. -/
theorem among_of_le_one (hcount : count ≤ 1) : e.among count = e := if_pos hcount

/-- Several things are iterated over. -/
theorem among_of_one_lt (hcount : 1 < count) : e.among count = e.iterated :=
  if_neg (Nat.not_le.mpr hcount)

/-- How many things there are does not count for a failure that is no sign of an end. -/
theorem among_of_endsIteration_eq_false (he : e.endsIteration = false) (count : Nat) :
    e.among count = e := by
  rw [among, iterated_of_endsIteration_eq_false he, ite_self]

/-- That a leaf is no text is no sign of an end. -/
@[simp] theorem among_notText (count : Nat) (leaf result : Value) :
    (notText leaf result).among count = .notText leaf result :=
  among_of_endsIteration_eq_false rfl count

/-- A failure stays as it is, or it is the sign of an end among several things. -/
theorem among_eq_or (count : Nat) (e : Failure) :
    e.among count = e ∨
      (1 < count ∧ e.kind = "StopIteration" ∧ e.among count = .brokenIteration) := by
  cases he : e.endsIteration with
  | false => exact .inl (among_of_endsIteration_eq_false he count)
  | true =>
    rcases Nat.lt_or_ge 1 count with hcount | hcount
    · have hbroken := (among_of_one_lt hcount).trans (iterated_of_endsIteration he)
      exact .inr ⟨hcount, eq_of_beq he, hbroken⟩
    · exact .inl (among_of_le_one hcount)

/-- It stays as it is exactly if it is no such sign or there are not several things. -/
theorem among_eq_self_iff : e.among count = e ↔ (e.kind = "StopIteration" → count ≤ 1) := by
  constructor
  · intro hkept hkind
    rcases Nat.lt_or_ge 1 count with hcount | hcount
    · have hbroken : e.among count = .brokenIteration :=
        (among_of_one_lt hcount).trans (iterated_of_endsIteration (beq_iff_eq.mpr hkind))
      rw [← hkept, hbroken] at hkind
      exact absurd hkind (by decide)
    · exact hcount
  · intro hkind
    rcases e.among_eq_or count with hkept | ⟨hcount, hstop, -⟩
    · exact hkept
    · exact absurd (hkind hstop) (Nat.not_le.mpr hcount)

end

end Failure

namespace Action

/-- An action as one of so many that are done in a row, of which only several are iterated over. -/
def among {α : Type} (count : Nat) (a : Action α) : Action α :=
  if count ≤ 1 then a else a.iterated

section

variable {α β : Type} {a : Action α} {f : α → Action β} {s t : State} {count n m : Nat}

/-- In an iteration the same comes about. -/
theorem run_iterated_eq_ok_iff {x : α} : a.iterated.run s = .ok x t ↔ a.run s = .ok x t := by
  simp only [EStateM.run, iterated]
  cases a s <;> simp

/-- In an iteration the same fails, and its failure comes out of the iteration. -/
theorem run_iterated_eq_error_iff {e : Failure} :
    a.iterated.run s = .error e t ↔ ∃ cause, a.run s = .error cause t ∧ e = cause.iterated := by
  simp only [EStateM.run, iterated]
  cases a s with
  | ok x u => simp
  | error cause u =>
    constructor
    · rintro ⟨⟩
      exact ⟨cause, rfl, rfl⟩
    · rintro ⟨_, ⟨⟩, rfl⟩
      rfl

/-- Two actions that come to the same from a state do so in an iteration. -/
theorem run_iterated_congr {b : Action α} {u : State} (hab : a.run s = b.run u) :
    a.iterated.run s = b.iterated.run u := by
  simp only [EStateM.run] at hab
  simp only [EStateM.run, iterated, hab]

/-- What cannot fail is not changed by an iteration. -/
@[simp] theorem iterated_pure (x : α) : (pure x : Action α).iterated = pure x := rfl

/-- Steps in a row are iterated over one by one. -/
theorem iterated_bind (a : Action α) (f : α → Action β) :
    (a >>= f).iterated = a.iterated >>= fun x => (f x).iterated := by
  funext s
  show (a >>= f).iterated.run s = (a.iterated >>= fun x => (f x).iterated).run s
  cases ha : a.run s with
  | ok x t =>
    rw [EStateM.run_bind, run_iterated_eq_ok_iff.mpr ha]
    exact run_iterated_congr (by rw [EStateM.run_bind, ha])
  | error e t =>
    have hfail : (a >>= f).run s = .error e t := by rw [EStateM.run_bind, ha]
    rw [EStateM.run_bind, run_iterated_eq_error_iff.mpr ⟨e, ha, rfl⟩,
      run_iterated_eq_error_iff.mpr ⟨e, hfail, rfl⟩]

/-- What is made of a result plays no part in an iteration. -/
theorem iterated_map (g : α → β) (a : Action α) : (g <$> a).iterated = g <$> a.iterated := by
  rw [map_eq_pure_bind, map_eq_pure_bind, iterated_bind]
  rfl

/-- An iteration inside another one changes nothing. -/
@[simp] theorem iterated_iterated (a : Action α) : a.iterated.iterated = a.iterated := by
  funext s
  show a.iterated.iterated.run s = a.iterated.run s
  cases ha : a.run s with
  | ok x t =>
    have honce := run_iterated_eq_ok_iff.mpr ha
    rw [honce, run_iterated_eq_ok_iff.mpr honce]
  | error e t =>
    have honce : a.iterated.run s = .error e.iterated t :=
      run_iterated_eq_error_iff.mpr ⟨e, ha, rfl⟩
    rw [honce, run_iterated_eq_error_iff.mpr ⟨_, honce, rfl⟩, Failure.iterated_iterated]

theorem among_of_le_one (hcount : count ≤ 1) (a : Action α) : a.among count = a := if_pos hcount

theorem among_of_one_lt (hcount : 1 < count) (a : Action α) : a.among count = a.iterated :=
  if_neg (Nat.not_le.mpr hcount)

/-- Among others, an action is done as it is or in an iteration. -/
theorem among_eq_or (count : Nat) (a : Action α) :
    a.among count = a ∨ a.among count = a.iterated := by
  rw [among]
  split
  · exact .inl rfl
  · exact .inr rfl

/-- Among others, an action has the result that it has alone. -/
theorem run_among_eq_ok_iff {x : α} : (a.among count).run s = .ok x t ↔ a.run s = .ok x t := by
  rcases a.among_eq_or count with ha | ha
  · rw [ha]
  · rw [ha, run_iterated_eq_ok_iff]

/-- Among others, an action fails where it does alone. -/
theorem run_among_eq_error_iff {e : Failure} :
    (a.among count).run s = .error e t ↔
      ∃ cause, a.run s = .error cause t ∧ e = cause.among count := by
  rcases Nat.lt_or_ge 1 count with hcount | hcount
  · simp only [among_of_one_lt hcount, Failure.among_of_one_lt hcount, run_iterated_eq_error_iff]
  · simp only [among_of_le_one hcount, Failure.among_of_le_one hcount, exists_eq_right']

/-- In an iteration it does not count among how many others an action is. -/
@[simp] theorem iterated_among (count : Nat) (a : Action α) :
    (a.among count).iterated = a.iterated := by
  rcases a.among_eq_or count with ha | ha
  · rw [ha]
  · rw [ha, iterated_iterated]

/-- Steps in a row are among others when each of them is. -/
theorem among_bind (count : Nat) (a : Action α) (f : α → Action β) :
    (a >>= f).among count = a.among count >>= fun x => (f x).among count := by
  rcases Nat.lt_or_ge 1 count with hcount | hcount
  · simp only [among_of_one_lt hcount, iterated_bind]
  · simp only [among_of_le_one hcount]

@[simp] theorem among_pure (count : Nat) (x : α) : (pure x : Action α).among count = pure x :=
  (among_eq_or count _).elim id id

/-- Giving out an identity cannot fail. -/
@[simp] theorem among_freshId (count : Nat) : freshId.among count = freshId :=
  (among_eq_or count _).elim id id

/-- Among others, an action comes to what it comes to alone exactly if it does not fail with the
sign of an end where there are several. -/
theorem run_among_eq_self_iff : (a.among count).run s = a.run s ↔
    ∀ e t, a.run s = .error e t → e.kind = "StopIteration" → count ≤ 1 := by
  cases ha : a.run s with
  | ok x t => simp [run_among_eq_ok_iff.mpr ha]
  | error e t =>
    rw [run_among_eq_error_iff.mpr ⟨e, ha, rfl⟩]
    constructor
    · intro hkept e' t' he
      obtain ⟨rfl, rfl⟩ := EStateM.Result.error.inj he
      exact Failure.among_eq_self_iff.mp (EStateM.Result.error.inj hkept).1
    · intro hkind
      rw [Failure.among_eq_self_iff.mpr (hkind e t rfl)]

/-- Two actions that come to the same from a state do so among others. -/
theorem run_among_congr {b : Action α} {u : State} (count : Nat) (hab : a.run s = b.run u) :
    (a.among count).run s = (b.among count).run u := by
  rcases Nat.lt_or_ge 1 count with hcount | hcount
  · rw [among_of_one_lt hcount, among_of_one_lt hcount]
    exact run_iterated_congr hab
  · rwa [among_of_le_one hcount, among_of_le_one hcount]

/-- Being among a part of others that one is among changes nothing. -/
theorem among_among (hnm : n ≤ m) (a : Action α) : (a.among n).among m = a.among m := by
  rcases Nat.lt_or_ge 1 m with hm | hm
  · rw [among_of_one_lt hm, among_of_one_lt hm, iterated_among]
  · rw [among_of_le_one hm, among_of_le_one hm, among_of_le_one (Nat.le_trans hnm hm)]

end

end Action

/-- A leaf that fails with the sign that an iteration is at its end. -/
def stoppingLeaf : Value :=
  .function ⟨0, "stop", none, .apply .fail [.one (.str "StopIteration"), .one (.str "x")], []⟩

end Stencil
