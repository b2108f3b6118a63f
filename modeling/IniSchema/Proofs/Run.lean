import Mathlib.Data.List.Basic

/-!
# Runs that stop at the first fault

A loop goes through the items of a list from state to state and stops when a step fails.  An
invariant relates the state to the items that are behind it.  Two facts follow from what one step
does: a run that ends has all items behind it, and a run that stops does so at an item in front
of which the invariant holds.
-/

namespace IniSchema.Run

variable {ε σ β : Type} {step : σ → β → Except ε σ} {invariant : List β → σ → Prop}
  {items : List β}

private theorem outcome
    (next : ∀ before item after s s', items = before ++ item :: after →
      invariant before s → step s item = .ok s' → invariant (before ++ [item]) s')
    (rest : List β) :
    ∀ (before : List β) (s : σ), items = before ++ rest → invariant before s →
      (∀ out, rest.foldlM step s = .ok out → invariant items out) ∧
      ∀ fault, rest.foldlM step s = .error fault →
        ∃ before item after s', items = before ++ item :: after ∧ invariant before s' ∧
          step s' item = .error fault := by
  -- The items in front shrink while those behind, which the invariant is about, grow.
  induction rest with
  | nil =>
      intro before s hitems hs
      constructor
      · intro out hout
        cases hout
        simpa [hitems] using hs
      · intro fault hfault
        cases hfault
  | cons item rest ih =>
      intro before s hitems hs
      rw [List.foldlM_cons]
      cases hstep : step s item with
      | error fault =>
          constructor
          · intro out hout
            cases hout
          · intro other hother
            cases hother
            exact ⟨before, item, rest, s, hitems, hs, hstep⟩
      | ok s' =>
          exact ih (before ++ [item]) s' (by simp [hitems])
            (next before item rest s s' hitems hs hstep)

variable (invariant)

/-- What every step keeps holds at the end of a run. -/
theorem invariant_of_ok {s out : σ} (start : invariant [] s)
    (next : ∀ before item after s s', items = before ++ item :: after →
      invariant before s → step s item = .ok s' → invariant (before ++ [item]) s')
    (run : items.foldlM step s = .ok out) : invariant items out :=
  (outcome next items [] s rfl start).1 out run

/-- A run that fails has an item at which it fails, with the invariant before it. -/
theorem exists_of_error {s : σ} {fault : ε} (start : invariant [] s)
    (next : ∀ before item after s s', items = before ++ item :: after →
      invariant before s → step s item = .ok s' → invariant (before ++ [item]) s')
    (run : items.foldlM step s = .error fault) :
    ∃ before item after s', items = before ++ item :: after ∧ invariant before s' ∧
      step s' item = .error fault :=
  (outcome next items [] s rfl start).2 fault run

/-! ## Steps that only look at their item -/

section Map

variable {γ : Type} {f : β → Except ε γ} {next : σ → β → γ → σ}

theorem map_eq_ok_iff {result : Except ε γ} {g : γ → σ} {out : σ} :
    result.map g = .ok out ↔ ∃ c, result = .ok c ∧ g c = out := by
  cases result <;> simp [Except.map]

/-- Two results that only differ in what a view does not see. -/
theorem map_eq_map_iff {result result' : Except ε γ} {g : γ → σ} :
    result'.map g = result.map g ↔ (∃ fault, result = .error fault ∧ result' = .error fault) ∨
      ∃ c c', result = .ok c ∧ result' = .ok c' ∧ g c' = g c := by
  cases result <;> cases result' <;> simp [Except.map, eq_comm]

theorem invariant_of_ok_map {s out : σ} (start : invariant [] s)
    (keep : ∀ before x after s c, items = before ++ x :: after → invariant before s →
      f x = .ok c → invariant (before ++ [x]) (next s x c))
    (run : items.foldlM (fun s x => (f x).map (next s x)) s = .ok out) : invariant items out := by
  refine invariant_of_ok invariant start ?_ run
  intro before x after s s' hitems hs hstep
  obtain ⟨c, hc, rfl⟩ := map_eq_ok_iff.mp hstep
  exact keep before x after s c hitems hs hc

theorem exists_ok_map_iff {s : σ} :
    (∃ out, items.foldlM (fun s x => (f x).map (next s x)) s = .ok out) ↔
      ∀ x ∈ items, ∃ c, f x = .ok c := by
  induction items generalizing s with
  | nil => exact ⟨fun _ _ hx => (List.not_mem_nil hx).elim, fun _ => ⟨s, rfl⟩⟩
  | cons x rest ih =>
      rw [List.foldlM_cons]
      cases hx : f x with
      | error fault =>
          constructor
          · rintro ⟨out, hout⟩
            cases hout
          · intro hall
            obtain ⟨c, hc⟩ := hall x List.mem_cons_self
            rw [hx] at hc
            cases hc
      | ok c =>
          refine ih.trans ?_
          simp [hx]

theorem error_map_iff {s : σ} {fault : ε} :
    items.foldlM (fun s x => (f x).map (next s x)) s = .error fault ↔
      ∃ before x after, items = before ++ x :: after ∧ (∀ y ∈ before, ∃ c, f y = .ok c) ∧
        f x = .error fault := by
  induction items generalizing s with
  | nil =>
      constructor
      · intro h
        cases h
      · rintro ⟨before, x, after, hitems, -⟩
        simp at hitems
  | cons x rest ih =>
      rw [List.foldlM_cons]
      cases hx : f x with
      | error other =>
          constructor
          · intro h
            cases h
            exact ⟨[], x, rest, rfl, by simp, hx⟩
          · rintro ⟨before, y, after, hitems, hbefore, hy⟩
            cases before with
            | nil =>
                obtain ⟨rfl, -⟩ := List.cons.inj hitems
                rw [hx] at hy
                cases hy
                rfl
            | cons first before =>
                obtain ⟨rfl, -⟩ := List.cons.inj hitems
                obtain ⟨c, hc⟩ := hbefore x List.mem_cons_self
                rw [hx] at hc
                cases hc
      | ok c =>
          refine ih.trans ?_
          constructor
          · rintro ⟨before, y, after, rfl, hbefore, hy⟩
            refine ⟨x :: before, y, after, rfl, ?_, hy⟩
            intro z hz
            rcases List.mem_cons.mp hz with rfl | hz
            · exact ⟨c, hx⟩
            · exact hbefore z hz
          · rintro ⟨before, y, after, hitems, hbefore, hy⟩
            cases before with
            | nil =>
                obtain ⟨rfl, -⟩ := List.cons.inj hitems
                rw [hx] at hy
                cases hy
            | cons first before =>
                obtain ⟨-, hrest⟩ := List.cons.inj hitems
                exact ⟨before, y, after, hrest, fun z hz => hbefore z (.tail _ hz), hy⟩

end Map

end IniSchema.Run
