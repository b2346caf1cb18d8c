import Mathlib.Data.List.Forall2

/-!
# Steps that may fail

A reader is a chain of steps, and the first that fails ends it. `bind_eq_ok`
and `bind_eq_error` take such a chain apart once, so no proof about a reader
has to split its binds by hand. Reading every piece of a list is a chain too:
it gives one result for each piece, or the fault of the first piece that has
one.
-/

namespace Rollup.Except

variable {ε α β : Type}

theorem bind_eq_ok {x : Except ε α} {f : α → Except ε β} {b : β} :
    x >>= f = .ok b ↔ ∃ a, x = .ok a ∧ f a = .ok b := by
  cases x with
  | error e =>
      constructor
      · intro h; cases h
      · rintro ⟨_, h, _⟩; cases h
  | ok a =>
      constructor
      · intro h; exact ⟨a, rfl, h⟩
      · rintro ⟨_, ha, h⟩; cases ha; exact h

theorem bind_eq_error {x : Except ε α} {f : α → Except ε β} {e : ε} :
    x >>= f = .error e ↔ x = .error e ∨ ∃ a, x = .ok a ∧ f a = .error e := by
  cases x with
  | error e' =>
      constructor
      · intro h; cases h; exact Or.inl rfl
      · rintro (h | ⟨_, h, _⟩)
        · cases h; rfl
        · cases h
  | ok a =>
      constructor
      · intro h; exact Or.inr ⟨a, rfl, h⟩
      · rintro (h | ⟨_, ha, h⟩)
        · cases h
        · cases ha; exact h

theorem mapError_eq_ok {ε' : Type} {x : Except ε α} {f : ε → ε'} {a : α} :
    x.mapError f = .ok a ↔ x = .ok a := by
  cases x <;> simp [Except.mapError]

theorem mapError_eq_error {ε' : Type} {x : Except ε α} {f : ε → ε'} {e' : ε'} :
    x.mapError f = .error e' ↔ ∃ e, x = .error e ∧ f e = e' := by
  cases x <;> simp [Except.mapError]

variable {f : α → Except ε β}

theorem mapM_nil : ([] : List α).mapM f = .ok [] := rfl

theorem mapM_cons {a : α} {as : List α} :
    (a :: as).mapM f = f a >>= fun b => as.mapM f >>= fun bs => .ok (b :: bs) := by
  rw [List.mapM_cons]
  rfl

/-- Every piece is read, and the results stand in the order of the pieces. -/
theorem mapM_eq_ok {as : List α} {bs : List β} :
    as.mapM f = .ok bs ↔ List.Forall₂ (fun a b => f a = .ok b) as bs := by
  induction as generalizing bs with
  | nil =>
      rw [mapM_nil]
      constructor
      · intro h; cases h; exact .nil
      · intro h; cases h; rfl
  | cons a as ih =>
      rw [mapM_cons, bind_eq_ok]
      constructor
      · rintro ⟨b, hb, h⟩
        obtain ⟨rest, hrest, h⟩ := bind_eq_ok.mp h
        cases h
        exact .cons hb (ih.mp hrest)
      · intro h
        cases h with
        | cons hb hrest => exact ⟨_, hb, bind_eq_ok.mpr ⟨_, ih.mpr hrest, rfl⟩⟩

theorem exists_of_mapM_eq_ok {as : List α} {bs : List β} (h : as.mapM f = .ok bs) :
    ∀ a ∈ as, ∃ b, f a = .ok b := by
  have hall := mapM_eq_ok.mp h
  clear h
  induction hall with
  | nil => intro a ha; cases ha
  | cons hb _ ih => exact List.forall_mem_cons.mpr ⟨⟨_, hb⟩, ih⟩

/-- The fault is that of the first piece that has one. -/
theorem mapM_eq_error {as : List α} {e : ε} :
    as.mapM f = .error e ↔
      ∃ before a after, as = before ++ a :: after ∧
        (∀ x ∈ before, ∃ b, f x = .ok b) ∧ f a = .error e := by
  induction as with
  | nil =>
      rw [mapM_nil]
      constructor
      · intro h; cases h
      · rintro ⟨before, a, after, h, -, -⟩
        exact absurd h (by simp)
  | cons first as ih =>
      rw [mapM_cons, bind_eq_error]
      constructor
      · rintro (h | ⟨b, hb, h⟩)
        · exact ⟨[], first, as, rfl, by simp, h⟩
        · rcases bind_eq_error.mp h with h | ⟨_, _, h⟩
          · obtain ⟨before, a, after, rfl, hbefore, ha⟩ := ih.mp h
            refine ⟨first :: before, a, after, rfl, ?_, ha⟩
            intro x hx
            rcases List.mem_cons.mp hx with rfl | hx
            · exact ⟨b, hb⟩
            · exact hbefore x hx
          · cases h
      · rintro ⟨before, a, after, heq, hbefore, ha⟩
        cases before with
        | nil => cases heq; exact Or.inl ha
        | cons x before =>
            cases heq
            obtain ⟨b, hb⟩ := hbefore _ List.mem_cons_self
            refine Or.inr ⟨b, hb, bind_eq_error.mpr (Or.inl (ih.mpr ?_))⟩
            exact ⟨before, a, after, rfl,
              fun y hy => hbefore y (List.mem_cons_of_mem _ hy), ha⟩

end Rollup.Except
