import StackCompiler.Proofs.Secrets.ReadBack

/-!
# The secrets store over time

`History path ids m` says that the store at a path was only ever written by `ensure` and `rotate`,
for some ids, before the machine came to be `m`. All values that can be read from it then are
generated ones (`History.keeps`), and `ensure` gives every id that it is asked for both its secrets
(`History.supplied_of_ensure`).
-/

namespace StackCompiler.Secrets

open Machine Session

variable {path : Path} {ids more : List String} {s : Secrets}

/-! ## Histories -/

/-- The machines with a store that was only ever written by `ensure` and `rotate` for some ids,
where there was no file at first. What else is done leaves what is found at the path as it is. -/
inductive History (path : Path) : List String → Machine → Prop where
  | start {m : Machine} : m.tree.contains path = .ok false → History path [] m
  | ensured {ids : List String} {t : Trail Machine} (more : List String) :
    History path ids t.state → History path (ids ++ more) ((ensure path more).exec t).2.state
  | rotated {ids : List String} {t : Trail Machine} (id : Option String) :
    History path ids t.state →
      History path (ids ++ id.toList) ((rotate path id).exec t).2.state
  | elsewhere {ids : List String} {m m' : Machine} : History path ids m →
    m'.tree.contains path = m.tree.contains path → m'.tree.read path = m.tree.read path →
      History path ids m'

/-- Whatever is stored is sound. -/
def Keeps (path : Path) (ids : List String) (t : Tree) : Prop :=
  ∀ s, stored path t = .ok s → s.Sound ids

theorem keeps_of_save (hs : s.Sound ids) {t : Trail Machine}
    (hkeeps : Keeps path ids t.state.tree) :
    Keeps path ids ((save path s).exec t).2.state.tree := by
  intro s' hs'
  rcases stored_of_save path s t with heq | heq | ⟨e, heq⟩ | heq
  · exact hkeeps s' (heq ▸ hs')
  · rw [heq] at hs'
    cases hs'
    exact sound_empty
  · rw [heq] at hs'
    cases hs'
  · rw [heq] at hs'
    exact eq_sorted_of_ofText hs hs' ▸ hs.sorted

/-- A session that makes sound secrets, saves them and then only writes notes. -/
theorem keeps_of_update {α : Type} {make : Action Secrets} {rest : Secrets → Unit → Action α}
    (hmake : Yields make (Sound ids))
    (hrest : ∀ s t, ((rest s ()).exec t).2.state.tree = t.state.tree) {t : Trail Machine}
    (hkeeps : Keeps path ids t.state.tree) :
    Keeps path ids ((make >>= fun s => save path s >>= rest s).exec t).2.state.tree := by
  obtain ⟨s, t₁, hexec, hs, htree⟩ := hmake t
  have hsaved := keeps_of_save hs (htree ▸ hkeeps)
  rw [exec_bind_of_ok hexec, exec_bind]
  rcases hsave : (save path s).exec t₁ with ⟨_ | _, t₂⟩
  · rwa [hsave] at hsaved
  · rw [hsave] at hsaved
    dsimp only
    rwa [hrest]

/-! ## Steps -/

theorem ensure_eq (path : Path) (ids : List String) :
    ensure path ids = load path >>= fun stored =>
      if stored.isComplete ids then
        said .debug s!"Reusing existing secrets from {path.text}" >>= fun _ => pure stored
      else fillAll stored ids >>= fun s => save path s >>= fun _ => pure s := by
  rw [ensure]
  simp only [fillAll, bind_assoc]

theorem rotate_eq (path : Path) (id : Option String) :
    rotate path id = load path >>= fun stored => renew stored id >>= fun s =>
      save path s >>= fun _ =>
        let whose := rotate.orElse id "all services"
        said .info s!"Rotated secrets for {whose}" >>= fun _ => pure s := by
  rw [rotate]
  refine bind_congr fun stored => ?_
  cases id with
  | some id => rfl
  | none => simp only [renew, bind_assoc]

theorem keeps_of_ensure (hmore : more ⊆ ids) {t : Trail Machine}
    (hkeeps : Keeps path ids t.state.tree) :
    Keeps path ids ((ensure path more).exec t).2.state.tree := by
  rw [ensure_eq, exec_bind, exec_load]
  cases hstored : stored path t.state.tree with
  | error e => exact hkeeps
  | ok s =>
    dsimp only
    split
    · exact hkeeps
    · exact keeps_of_update
        ((yields_fillAll (hkeeps s hstored) hmore).mono fun _ => Supplied.sound)
        (fun _ _ => rfl) hkeeps

theorem keeps_of_rotate {id : Option String} (hid : id.toList ⊆ ids) {t : Trail Machine}
    (hkeeps : Keeps path ids t.state.tree) :
    Keeps path ids ((rotate path id).exec t).2.state.tree := by
  rw [rotate_eq, exec_bind, exec_load]
  cases hstored : stored path t.state.tree with
  | error e => exact hkeeps
  | ok s =>
    exact keeps_of_update (yields_renew (hkeeps s hstored) hid) (fun _ _ => rfl) hkeeps

/-- Whatever is found in a store that was only ever written by `ensure` and `rotate` was
generated. -/
theorem History.keeps {m : Machine} (h : History path ids m) : Keeps path ids m.tree := by
  induction h with
  | start hnone =>
    intro s hs
    rw [stored, hnone] at hs
    cases hs
    exact sound_empty
  | ensured more _ ih =>
    refine keeps_of_ensure (List.subset_append_right _ _) fun s hs => ?_
    exact (ih s hs).mono (List.subset_append_left _ _)
  | rotated id _ ih =>
    refine keeps_of_rotate (List.subset_append_right _ _) fun s hs => ?_
    exact (ih s hs).mono (List.subset_append_left _ _)
  | elsewhere _ hcontains hread ih =>
    intro s hs
    rw [stored, hcontains, hread] at hs
    exact ih s hs

/-- The secrets that `ensure` returns for such a store. -/
theorem History.supplied_of_ensure {t : Trail Machine} (h : History path ids t.state)
    (hensure : ((ensure path more).exec t).1 = .ok s) :
    s.Supplied (ids ++ more) more := by
  rw [ensure_eq, exec_bind, exec_load] at hensure
  cases hstored : stored path t.state.tree with
  | error e =>
    rw [hstored] at hensure
    cases hensure
  | ok s₀ =>
    have hsound := (h.keeps s₀ hstored).mono (List.subset_append_left ids more)
    rw [hstored] at hensure
    dsimp only at hensure
    split at hensure
    · cases hensure
      exact hsound.supplied_of_isComplete ‹_›
    · obtain ⟨s₁, t₁, hexec, hs₁, -⟩ :=
        yields_fillAll hsound (List.subset_append_right ids more) t
      rw [exec_bind_of_ok hexec, exec_bind] at hensure
      rcases hsave : (save path s₁).exec t₁ with ⟨_ | _, t₂⟩
      · rw [hsave] at hensure
        cases hensure
      · rw [hsave] at hensure
        cases hensure
        exact hs₁

end StackCompiler.Secrets
