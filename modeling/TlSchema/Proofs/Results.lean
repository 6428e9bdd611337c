/-!
# Results of computations that can fail

What follows from a computation giving a result: its parts have given theirs. A loop that gives a
result has taken all its steps, so what every step keeps holds at the end.
-/

namespace TlSchema.Results

variable {ε α β σ : Type}

theorem bind_eq_ok {x : Except ε α} {f : α → Except ε β} {b : β} :
    x >>= f = .ok b ↔ ∃ a, x = .ok a ∧ f a = .ok b := by
  cases x with
  | ok a =>
    constructor
    · intro h
      exact ⟨a, rfl, h⟩
    · rintro ⟨a', ha, h⟩
      cases ha
      exact h
  | error e =>
    constructor
    · intro h
      cases h
    · rintro ⟨a, ha, -⟩
      cases ha

theorem bind_eq_error {x : Except ε α} {f : α → Except ε β} {e : ε} :
    x >>= f = .error e ↔ x = .error e ∨ ∃ a, x = .ok a ∧ f a = .error e := by
  cases x with
  | ok a =>
    constructor
    · intro h
      exact Or.inr ⟨a, rfl, h⟩
    · rintro (h | ⟨a', ha, h⟩)
      · cases h
      · cases ha
        exact h
  | error e' =>
    constructor
    · intro h
      cases h
      exact Or.inl rfl
    · rintro (h | ⟨a, ha, -⟩)
      · cases h
        rfl
      · cases ha

theorem mapError_eq_ok {ε' : Type} {x : Except ε α} {f : ε → ε'} {a : α} :
    x.mapError f = .ok a ↔ x = .ok a := by
  cases x with
  | ok b =>
    constructor
    · intro h
      cases h
      rfl
    · intro h
      cases h
      rfl
  | error cause =>
    constructor
    · intro h
      cases h
    · intro h
      cases h

theorem mapError_eq_error {ε' : Type} {x : Except ε α} {f : ε → ε'} {e : ε'} :
    x.mapError f = .error e ↔ ∃ cause, x = .error cause ∧ e = f cause := by
  cases x with
  | ok b =>
    constructor
    · intro h
      cases h
    · rintro ⟨cause, h, -⟩
      cases h
  | error cause =>
    constructor
    · intro h
      cases h
      exact ⟨cause, rfl, rfl⟩
    · rintro ⟨cause', h, rfl⟩
      cases h
      rfl

theorem forM_eq_ok {f : α → Except ε Unit} {as : List α} :
    as.forM f = .ok () ↔ ∀ a ∈ as, f a = .ok () := by
  induction as with
  | nil => simp [pure, Except.pure]
  | cons a as ih =>
    rw [List.forM_eq_forM] at ih ⊢
    rw [List.forM_cons, bind_eq_ok, List.forall_mem_cons, ← ih]
    constructor
    · rintro ⟨⟨⟩, ha, has⟩
      exact ⟨ha, has⟩
    · rintro ⟨ha, has⟩
      exact ⟨(), ha, has⟩

/-- A loop over a list fails at the first element that fails. -/
theorem forM_eq_error {f : α → Except ε Unit} {as : List α} {e : ε} :
    as.forM f = .error e ↔
      ∃ before a after, as = before ++ a :: after ∧ (∀ b ∈ before, f b = .ok ()) ∧
        f a = .error e := by
  constructor
  · intro h
    induction as with
    | nil => cases h
    | cons first as ih =>
      rw [List.forM_eq_forM, List.forM_cons, bind_eq_error] at h
      rcases h with hfirst | ⟨⟨⟩, hfirst, hrest⟩
      · exact ⟨[], first, as, rfl, by simp, hfirst⟩
      · obtain ⟨before, a, after, rfl, hbefore, ha⟩ := ih hrest
        exact ⟨first :: before, a, after, rfl, List.forall_mem_cons.mpr ⟨hfirst, hbefore⟩, ha⟩
  · rintro ⟨before, a, after, rfl, hbefore, ha⟩
    have hseen : forM before f = .ok () := forM_eq_ok.mpr hbefore
    rw [List.forM_eq_forM, List.forM_append, hseen]
    show forM (a :: after) f = .error e
    rw [List.forM_cons, ha]
    rfl

theorem allM_eq_true {p : α → Except ε Bool} {as : List α} :
    as.allM p = .ok true ↔ ∀ a ∈ as, p a = .ok true := by
  induction as with
  | nil => simp [pure, Except.pure]
  | cons a as ih =>
    rw [List.allM_cons, bind_eq_ok, List.forall_mem_cons, ← ih]
    constructor
    · rintro ⟨b, hb, hrest⟩
      cases b with
      | true => exact ⟨hb, hrest⟩
      | false => cases hrest
    · rintro ⟨ha, has⟩
      exact ⟨true, ha, has⟩

theorem exists_of_allM_eq_false {p : α → Except ε Bool} {as : List α}
    (h : as.allM p = .ok false) : ∃ a ∈ as, p a = .ok false := by
  induction as with
  | nil => cases h
  | cons a as ih =>
    rw [List.allM_cons, bind_eq_ok] at h
    obtain ⟨b, hb, hrest⟩ := h
    cases b with
    | true =>
      obtain ⟨a', ha', hfalse⟩ := ih hrest
      exact ⟨a', List.mem_cons_of_mem a ha', hfalse⟩
    | false => exact ⟨a, List.mem_cons_self, hb⟩

theorem exists_allM_eq_ok {p : α → Except ε Bool} {as : List α}
    (h : ∀ a ∈ as, ∃ b, p a = .ok b) : ∃ b, as.allM p = .ok b := by
  induction as with
  | nil => exact ⟨true, rfl⟩
  | cons a as ih =>
    obtain ⟨b, hb⟩ := h a List.mem_cons_self
    rw [List.allM_cons, hb]
    cases b with
    | true => exact ih fun a' ha' => h a' (List.mem_cons_of_mem a ha')
    | false => exact ⟨false, rfl⟩

theorem allM_congr {p q : α → Except ε Bool} {as : List α} (h : ∀ a ∈ as, p a = q a) :
    as.allM p = as.allM q := by
  induction as with
  | nil => rfl
  | cons a as ih =>
    rw [List.allM_cons, List.allM_cons, h a List.mem_cons_self,
      ih fun b hb => h b (List.mem_cons_of_mem a hb)]

theorem exists_of_allM_eq_error {p : α → Except ε Bool} {as : List α} {e : ε}
    (h : as.allM p = .error e) : ∃ a ∈ as, p a = .error e := by
  induction as with
  | nil => cases h
  | cons a as ih =>
    rw [List.allM_cons] at h
    cases ha : p a with
    | error e' =>
      rw [ha] at h
      cases h
      exact ⟨a, List.mem_cons_self, ha⟩
    | ok b =>
      rw [ha] at h
      cases b with
      | true =>
        obtain ⟨a', ha', herror⟩ := ih h
        exact ⟨a', List.mem_cons_of_mem a ha', herror⟩
      | false => cases h

/-- A loop fails at the first step that fails. -/
theorem foldlM_eq_error {step : σ → α → Except ε σ} {as : List α} {s : σ} {e : ε} :
    as.foldlM step s = .error e ↔
      ∃ seen a rest t, as = seen ++ a :: rest ∧ seen.foldlM step s = .ok t ∧
        step t a = .error e := by
  constructor
  · intro h
    induction as generalizing s with
    | nil => cases h
    | cons a as ih =>
      rw [List.foldlM_cons, bind_eq_error] at h
      rcases h with ha | ⟨t, ha, hrest⟩
      · exact ⟨[], a, as, s, rfl, rfl, ha⟩
      · obtain ⟨seen, b, rest, u, rfl, hseen, hb⟩ := ih hrest
        refine ⟨a :: seen, b, rest, u, rfl, ?_, hb⟩
        rw [List.foldlM_cons, ha]
        exact hseen
  · rintro ⟨seen, a, rest, t, rfl, hseen, ha⟩
    rw [List.foldlM_append, hseen]
    show (a :: rest).foldlM step t = .error e
    rw [List.foldlM_cons, ha]
    rfl

theorem exists_of_foldlM_eq_error {step : σ → α → Except ε σ} {as : List α} {s : σ} {e : ε}
    (h : as.foldlM step s = .error e) : ∃ a ∈ as, ∃ t, step t a = .error e := by
  obtain ⟨seen, a, rest, t, rfl, -, ha⟩ := foldlM_eq_error.mp h
  exact ⟨a, by simp, t, ha⟩

/-- What every step of a loop keeps holds at its end. -/
theorem foldlM_invariant {step : σ → α → Except ε σ} (P : σ → Prop) :
    ∀ {as : List α} {s s' : σ}, as.foldlM step s = .ok s' → P s →
      (∀ a ∈ as, ∀ t t', step t a = .ok t' → P t → P t') → P s' := by
  intro as
  induction as with
  | nil =>
    intro s s' h hs _
    cases h
    exact hs
  | cons a as ih =>
    intro s s' h hs hstep
    rw [List.foldlM_cons, bind_eq_ok] at h
    obtain ⟨t, ht, hrest⟩ := h
    exact ih hrest (hstep a List.mem_cons_self s t ht hs)
      fun b hb => hstep b (List.mem_cons_of_mem a hb)

/-- As `foldlM_invariant`, for what also speaks of the elements that the loop has seen. -/
theorem foldlM_trace {step : σ → α → Except ε σ} (P : List α → σ → Prop)
    (hstep : ∀ seen a t t', step t a = .ok t' → P seen t → P (seen ++ [a]) t') :
    ∀ {as seen : List α} {s s' : σ}, as.foldlM step s = .ok s' → P seen s → P (seen ++ as) s' := by
  intro as
  induction as with
  | nil =>
    intro seen s s' h hs
    cases h
    rwa [List.append_nil]
  | cons a as ih =>
    intro seen s s' h hs
    rw [List.foldlM_cons, bind_eq_ok] at h
    obtain ⟨t, ht, hrest⟩ := h
    have := ih hrest (hstep seen a s t ht hs)
    rwa [List.append_assoc] at this

end TlSchema.Results
