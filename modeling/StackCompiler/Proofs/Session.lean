import StackCompiler.Session

/-!
# Running sessions

`Session.exec` runs a session from a trail. The rules below say what the parts of a session do to
the trail. `Session.Erases x y` says that the session `x` does what `y` does and keeps something
more in its state, and `Session.Agree x y` that the two have the same result on any trails;
`Session.Blind x` says that `x` does not depend on the log, and `Session.Reads x` that it also leaves
the state as it is. Each of them holds of whole sessions as soon as it holds of their parts.
-/

namespace StackCompiler

namespace Session

variable {σ κ α β : Type}

/-- The result of a session that goes on from a trail, and the trail that it leaves. -/
def exec (x : Session σ α) (t : Trail σ) : Except Failure α × Trail σ := (ExceptT.run x).run t

@[simp] theorem exec_pure (a : α) (t : Trail σ) : (pure a : Session σ α).exec t = (.ok a, t) := rfl

@[simp] theorem exec_ofExcept (x : Except Failure α) (t : Trail σ) :
    (ofExcept x : Session σ α).exec t = (x, t) := by
  cases x <;> rfl

theorem exec_bind (x : Session σ α) (f : α → Session σ β) (t : Trail σ) :
    (x >>= f).exec t =
      match x.exec t with
      | (.ok a, t') => (f a).exec t'
      | (.error e, t') => (.error e, t') := by
  change (ExceptT.run x >>= ExceptT.bindCont f).run t = _
  rw [StateT.run_bind]
  change (ExceptT.bindCont f (x.exec t).1).run (x.exec t).2 = _
  rcases x.exec t with ⟨_ | a, t'⟩ <;> rfl

/-- After a part that succeeds the session goes on with its result. -/
theorem exec_bind_of_ok {x : Session σ α} {f : α → Session σ β} {t t' : Trail σ} {a : α}
    (h : x.exec t = (.ok a, t')) : (x >>= f).exec t = (f a).exec t' := by
  rw [exec_bind, h]

/-- A session ends with the first part that fails. -/
theorem exec_bind_of_error {x : Session σ α} {f : α → Session σ β} {t t' : Trail σ} {e : Failure}
    (h : x.exec t = (.error e, t')) : (x >>= f).exec t = (.error e, t') := by
  rw [exec_bind, h]

theorem fst_exec_bind_of_error {x : Session σ α} {f : α → Session σ β} {t : Trail σ} {e : Failure}
    (h : (x.exec t).1 = .error e) : ((x >>= f).exec t).1 = .error e := by
  rw [exec_bind_of_error (Prod.ext h rfl)]

theorem exec_bind_eq_ok_iff {x : Session σ α} {f : α → Session σ β} {t t' : Trail σ} {b : β} :
    (x >>= f).exec t = (.ok b, t') ↔
      ∃ a t₁, x.exec t = (.ok a, t₁) ∧ (f a).exec t₁ = (.ok b, t') := by
  rw [exec_bind]
  rcases x.exec t with ⟨e | a, t₁⟩
  · simp
  · constructor
    · exact fun h => ⟨a, t₁, rfl, h⟩
    · rintro ⟨_, _, ⟨⟩, h⟩
      exact h

/-! ## Erasing a part of the state -/

/-- The trail without the second part of its state. -/
def erase (t : Trail (σ × κ)) : Trail σ := ⟨t.state.1, t.log⟩

/-- A session on a larger state that leaves the second part of it alone. -/
def onFirst (x : Session σ α) : Session (σ × κ) α := ExceptT.mk fun t =>
  let (result, t') := x.exec (erase t)
  (result, ⟨(t'.state, t.state.2), t'.log⟩)

theorem exec_onFirst (x : Session σ α) (t : Trail (σ × κ)) :
    (onFirst x).exec t =
      ((x.exec (erase t)).1, ⟨((x.exec (erase t)).2.state, t.state.2), (x.exec (erase t)).2.log⟩) :=
  rfl

/-- The session `x` does what `y` does to the first part of the state. -/
def Erases (x : Session (σ × κ) α) (y : Session σ α) : Prop :=
  ∀ t, y.exec (erase t) = ((x.exec t).1, erase (x.exec t).2)

theorem erases_pure (a : α) : Erases (pure a : Session (σ × κ) α) (pure a) := fun _ => rfl

theorem erases_throw (f : Failure) : Erases (throw f : Session (σ × κ) α) (throw f) := fun _ => rfl

theorem erases_ofExcept (x : Except Failure α) :
    Erases (ofExcept x : Session (σ × κ) α) (ofExcept x) := by
  cases x <;> exact fun _ => rfl

theorem erases_note (r : Log.Record) : Erases (note r : Session (σ × κ) Unit) (note r) :=
  fun _ => rfl

theorem Erases.bind {x : Session (σ × κ) α} {y : Session σ α} {f : α → Session (σ × κ) β}
    {g : α → Session σ β} (hx : Erases x y) (hf : ∀ a, Erases (f a) (g a)) :
    Erases (x >>= f) (y >>= g) := by
  intro t
  have h := hx t
  rw [exec_bind, exec_bind, h]
  rcases x.exec t with ⟨_ | a, t'⟩
  · rfl
  · exact hf a t'

theorem erases_ite {c : Prop} [Decidable c] {x x' : Session (σ × κ) α} {y y' : Session σ α}
    (h : Erases x y) (h' : Erases x' y') :
    Erases (if c then x else x') (if c then y else y') := by
  split
  · exact h
  · exact h'

/-! ## The same result on any trails -/

section Agreement

variable {τ : Type}

/-- Both sessions have the same result, whatever their trails. -/
def Agree (x : Session σ α) (y : Session τ α) : Prop := ∀ t u, (x.exec t).1 = (y.exec u).1

/-- The session always has this result. -/
def Gives (x : Session σ α) (a : α) : Prop := ∀ t, ∃ t', x.exec t = (.ok a, t')

theorem gives_note (r : Log.Record) : Gives (note r : Session σ Unit) () := fun _ => ⟨_, rfl⟩

theorem agree_pure (a : α) : Agree (pure a : Session σ α) (pure a : Session τ α) := fun _ _ => rfl

theorem agree_throw (f : Failure) : Agree (throw f : Session σ α) (throw f : Session τ α) :=
  fun _ _ => rfl

theorem Gives.agree {x : Session σ α} {y : Session τ α} {a : α} (hx : Gives x a)
    (hy : Gives y a) : Agree x y := by
  intro t u
  obtain ⟨t', hx⟩ := hx t
  obtain ⟨u', hy⟩ := hy u
  rw [hx, hy]

theorem Agree.bind {x : Session σ α} {y : Session τ α} {f : α → Session σ β}
    {g : α → Session τ β} (hx : Agree x y) (hf : ∀ a, Agree (f a) (g a)) :
    Agree (x >>= f) (y >>= g) := by
  intro t u
  have h := hx t u
  rw [exec_bind, exec_bind]
  generalize x.exec t = rx at h ⊢
  generalize y.exec u = ry at h ⊢
  rcases rx with ⟨e | a, t'⟩ <;> rcases ry with ⟨e' | a', u'⟩ <;> cases h
  · rfl
  · exact hf a t' u'

/-- After parts with the same result it is enough that the sessions agree on that result. -/
theorem Agree.bind_of_gives {x : Session σ α} {y : Session τ α} {a : α} {f : α → Session σ β}
    {g : α → Session τ β} (hx : Gives x a) (hy : Gives y a) (hf : Agree (f a) (g a)) :
    Agree (x >>= f) (y >>= g) := by
  intro t u
  obtain ⟨t', hx⟩ := hx t
  obtain ⟨u', hy⟩ := hy u
  rw [exec_bind_of_ok hx, exec_bind_of_ok hy]
  exact hf t' u'

theorem agree_ite {c : Prop} [Decidable c] {x x' : Session σ α} {y y' : Session τ α}
    (h : Agree x y) (h' : Agree x' y') :
    Agree (if c then x else x') (if c then y else y') := by
  split
  · exact h
  · exact h'

end Agreement

/-! ## What a session reads -/

section Reading

variable {x : Session σ α} {f : α → Session σ β}

theorem runFrom_eq (s : σ) (x : Session σ α) : runFrom s x = x.exec ⟨s, []⟩ := rfl

/-- The result of the session and the state that it leaves do not depend on the log. -/
def Blind (x : Session σ α) : Prop :=
  ∀ t u, t.state = u.state →
    (x.exec t).1 = (x.exec u).1 ∧ (x.exec t).2.state = (x.exec u).2.state

theorem blind_pure (a : α) : Blind (pure a : Session σ α) := fun _ _ h => ⟨rfl, h⟩

theorem Blind.bind (hx : Blind x) (hf : ∀ a, Blind (f a)) : Blind (x >>= f) := by
  intro t u h
  obtain ⟨hresult, hstate⟩ := hx t u h
  rw [exec_bind, exec_bind]
  generalize x.exec t = rt at hresult hstate ⊢
  generalize x.exec u = ru at hresult hstate ⊢
  rcases rt with ⟨e | a, t'⟩ <;> rcases ru with ⟨e' | a', u'⟩ <;> cases hresult
  · exact ⟨rfl, hstate⟩
  · exact hf a t' u' hstate

theorem blind_foldlM {g : β → α → Session σ β} (hg : ∀ b a, Blind (g b a)) :
    ∀ (as : List α) (b : β), Blind (as.foldlM g b)
  | [], b => blind_pure b
  | a :: as, b => (hg b a).bind fun b' => blind_foldlM hg as b'

/-- What a session does that does not depend on the log. -/
theorem Blind.exec_of_runFrom (hx : Blind x) {t u : Trail σ} {r : Except Failure α}
    (h : runFrom t.state x = (r, u)) : ∃ t', x.exec t = (r, t') ∧ t'.state = u.state := by
  obtain ⟨hresult, hstate⟩ := hx t ⟨t.state, []⟩ rfl
  rw [runFrom_eq] at h
  rw [h] at hresult hstate
  exact ⟨(x.exec t).2, Prod.ext hresult rfl, hstate⟩

theorem Blind.runFrom_of_exec (hx : Blind x) {t u : Trail σ} {r : Except Failure α}
    (h : x.exec t = (r, u)) : ∃ v, runFrom t.state x = (r, v) ∧ v.state = u.state := by
  obtain ⟨hresult, hstate⟩ := hx ⟨t.state, []⟩ t rfl
  rw [h] at hresult hstate
  exact ⟨(runFrom t.state x).2, Prod.ext hresult rfl, hstate⟩

/-- The session does not depend on the log, and leaves the state as it is. -/
def Reads (x : Session σ α) : Prop :=
  ∀ t, ∃ log, x.exec t = ((runFrom t.state x).1, ⟨t.state, log⟩)

theorem reads_pure (a : α) : Reads (pure a : Session σ α) := fun t => ⟨t.log, rfl⟩

theorem reads_throw (e : Failure) : Reads (throw e : Session σ α) := fun t => ⟨t.log, rfl⟩

theorem reads_note (r : Log.Record) : Reads (note r : Session σ Unit) := fun _ => ⟨_, rfl⟩

theorem reads_ofExcept (x : Except Failure α) : Reads (ofExcept x : Session σ α) := by
  intro t
  rw [exec_ofExcept, runFrom_eq, exec_ofExcept]
  exact ⟨t.log, rfl⟩

theorem Reads.bind (hx : Reads x) (hf : ∀ a, Reads (f a)) : Reads (x >>= f) := by
  intro t
  obtain ⟨log, hexec⟩ := hx t
  obtain ⟨log₀, hexec₀⟩ := hx ⟨t.state, []⟩
  rw [runFrom_eq, exec_bind, exec_bind, hexec, hexec₀]
  rcases (runFrom t.state x).1 with e | a
  · exact ⟨log, rfl⟩
  · obtain ⟨log', hrest⟩ := hf a ⟨t.state, log⟩
    obtain ⟨log₀', hrest₀⟩ := hf a ⟨t.state, log₀⟩
    dsimp only
    rw [hrest, hrest₀]
    exact ⟨log', rfl⟩

theorem reads_ite {c : Prop} [Decidable c] {y : Session σ α} (hx : Reads x) (hy : Reads y) :
    Reads (if c then x else y) := by
  split
  · exact hx
  · exact hy

theorem Reads.blind (hx : Reads x) : Blind x := by
  intro t u h
  obtain ⟨log, ht⟩ := hx t
  obtain ⟨log', hu⟩ := hx u
  rw [ht, hu, h]
  exact ⟨rfl, rfl⟩

end Reading

end Session
end StackCompiler
