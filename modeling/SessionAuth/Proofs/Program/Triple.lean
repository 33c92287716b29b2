import SessionAuth.Proofs.Program.Contract

/-!
# What programs do to states

Where one party answers all questions of a program, the program takes states to results and states.
A `Triple` says so much of that as a proof needs: from which states the program starts, and what is
true of the result and the state in the end.  Programs that keep a property of states whatever they
end with (`Preserves`) are put together by their parts, and a part whose questions all keep the
property needs no further look (`Preserves.of_asks`).
-/

set_option autoImplicit false

namespace SessionAuth
namespace Fallible

variable {I : Interface} {α β σ : Type} {answer : Program.Server I σ} {P P' Inv : σ → Prop}
  {Q : Except Error α → σ → Prop}

/-- From states with a property a program comes to results and states with another one. -/
structure Triple (answer : Program.Server I σ) (P : σ → Prop) (p : Fallible I α)
    (Q : Except Error α → σ → Prop) : Prop where
  run : ∀ s, P s → Q (p.runOn answer s).1 (p.runOn answer s).2

namespace Triple

theorem pure {a : α} (h : ∀ s, P s → Q (.ok a) s) :
    Triple answer P (Pure.pure a : Fallible I α) Q := ⟨h⟩

theorem throw {e : Error} (h : ∀ s, P s → Q (.error e) s) :
    Triple answer P (MonadExcept.throw e : Fallible I α) Q := ⟨h⟩

theorem lift {r : Except Error α} (h : ∀ s, P s → Q r s) :
    Triple answer P (liftM r : Fallible I α) Q := by
  refine ⟨fun s hs => ?_⟩
  rw [runOn_lift]
  exact h s hs

theorem mono {Q' : Except Error α → σ → Prop} {p : Fallible I α} (h : Triple answer P p Q)
    (hpre : ∀ s, P' s → P s) (hpost : ∀ r s, Q r s → Q' r s) : Triple answer P' p Q' :=
  ⟨fun s hs => hpost _ _ (h.run s (hpre s hs))⟩

/-- Of two programs the second starts where the first succeeds. -/
theorem bind {Q : Except Error β → σ → Prop} {R : Except Error α → σ → Prop} {p : Fallible I α}
    {f : α → Fallible I β} (hp : Triple answer P p R)
    (hok : ∀ a, Triple answer (R (.ok a)) (f a) Q)
    (herror : ∀ e s, R (.error e) s → Q (.error e) s) :
    Triple answer P (p >>= f) Q := by
  refine ⟨fun s hs => ?_⟩
  have hR := hp.run s hs
  rw [runOn_bind]
  cases h : p.runOn answer s with
  | mk r t =>
    rw [h] at hR
    cases r with
    | ok a => exact (hok a).run t hR
    | error e => exact herror e t hR

/-- What stands behind a failure is not run. -/
theorem throw_bind {Q : Except Error β → σ → Prop} {e : Error} {f : α → Fallible I β}
    (h : ∀ s, P s → Q (.error e) s) :
    Triple answer P ((MonadExcept.throw e : Fallible I α) >>= f) Q := ⟨h⟩

end Triple

/-- A program keeps a property of states, whatever it ends with. -/
abbrev Preserves (answer : Program.Server I σ) (Inv : σ → Prop) (p : Fallible I α) : Prop :=
  Triple answer Inv p fun _ => Inv

namespace Preserves

theorem pure (a : α) : Preserves answer Inv (Pure.pure a : Fallible I α) :=
  Triple.pure fun _ hs => hs

theorem throw (e : Error) : Preserves answer Inv (MonadExcept.throw e : Fallible I α) :=
  Triple.throw fun _ hs => hs

theorem lift (r : Except Error α) : Preserves answer Inv (liftM r : Fallible I α) :=
  Triple.lift fun _ hs => hs

theorem bind {p : Fallible I α} {f : α → Fallible I β} (hp : Preserves answer Inv p)
    (hf : ∀ a, Preserves answer Inv (f a)) : Preserves answer Inv (p >>= f) :=
  Triple.bind hp hf fun _ _ hs => hs

theorem attempt {p : Fallible I α} (hp : Preserves answer Inv p) :
    Preserves answer Inv p.attempt := by
  refine ⟨fun s hs => ?_⟩
  rw [runOn_attempt]
  exact hp.run s hs

theorem throw_bind (e : Error) (f : α → Fallible I β) :
    Preserves answer Inv ((MonadExcept.throw e : Fallible I α) >>= f) :=
  Triple.throw_bind fun _ hs => hs

/-- A part that keeps a property can stand in front of what starts from it. -/
theorem triple_bind {Q : Except Error β → σ → Prop} {p : Fallible I α} {f : α → Fallible I β}
    (hp : Preserves answer Inv p) (hok : ∀ a, Triple answer Inv (f a) Q)
    (herror : ∀ e s, Inv s → Q (.error e) s) : Triple answer Inv (p >>= f) Q :=
  Triple.bind hp hok herror

/-- What all questions of a program keep, the program keeps. -/
theorem of_asks {A : I.Question → Prop} {p : Fallible I α} (hp : Asks A p)
    (hanswer : ∀ q s, A q → Inv s → Inv (answer q s).2) : Preserves answer Inv p :=
  ⟨fun _ hs => Asks.run hanswer hp hs⟩

/-- What every question keeps, every program keeps. -/
theorem of_all (hanswer : ∀ q s, Inv s → Inv (answer q s).2) (p : Fallible I α) :
    Preserves answer Inv p :=
  of_asks (asks_of_forall (fun _ => trivial) p) fun q s _ => hanswer q s

end Preserves
end Fallible
end SessionAuth
