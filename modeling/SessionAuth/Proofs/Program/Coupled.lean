import SessionAuth.Proofs.Program.Contract

/-!
# Two programs with one result

Two programs are run on one server, from two states that are alike in some way.  They are `Coupled`
if they end with the same result, be it a value or an error, and in states that are alike again.
Like triples, couplings are put together as the programs are, and a program is coupled with itself
if all its questions have the same answer in states that are alike (`Coupled.of_asks`).
-/

set_option autoImplicit false

namespace SessionAuth
namespace Fallible

variable {I : Interface} {α β σ : Type} {answer : Program.Server I σ} {P P' : σ → σ → Prop}
  {Q : Except Error α → σ → σ → Prop}

/-- From states that are alike in one way, two programs come to the same result, and to states that
are alike in another way. -/
structure Coupled (answer : Program.Server I σ) (P : σ → σ → Prop) (p p' : Fallible I α)
    (Q : Except Error α → σ → σ → Prop) : Prop where
  run : ∀ s t, P s t → (p.runOn answer s).1 = (p'.runOn answer t).1 ∧
    Q (p.runOn answer s).1 (p.runOn answer s).2 (p'.runOn answer t).2

namespace Coupled

theorem pure {a : α} (h : ∀ s t, P s t → Q (.ok a) s t) :
    Coupled answer P (Pure.pure a : Fallible I α) (Pure.pure a) Q :=
  ⟨fun s t hst => ⟨rfl, h s t hst⟩⟩

theorem throw {e : Error} (h : ∀ s t, P s t → Q (.error e) s t) :
    Coupled answer P (MonadExcept.throw e : Fallible I α) (MonadExcept.throw e) Q :=
  ⟨fun s t hst => ⟨rfl, h s t hst⟩⟩

theorem lift {r : Except Error α} (h : ∀ s t, P s t → Q r s t) :
    Coupled answer P (liftM r : Fallible I α) (liftM r) Q := by
  refine ⟨fun s t hst => ?_⟩
  rw [runOn_lift, runOn_lift]
  exact ⟨rfl, h s t hst⟩

theorem mono {Q' : Except Error α → σ → σ → Prop} {p p' : Fallible I α}
    (h : Coupled answer P p p' Q) (hpre : ∀ s t, P' s t → P s t)
    (hpost : ∀ r s t, Q r s t → Q' r s t) : Coupled answer P' p p' Q' := by
  refine ⟨fun s t hst => ?_⟩
  obtain ⟨hr, hQ⟩ := h.run s t (hpre s t hst)
  exact ⟨hr, hpost _ _ _ hQ⟩

/-- Programs that are coupled go on with programs that are coupled after each result. -/
theorem bind {Q : Except Error β → σ → σ → Prop} {R : Except Error α → σ → σ → Prop}
    {p p' : Fallible I α} {f f' : α → Fallible I β} (hp : Coupled answer P p p' R)
    (hok : ∀ a, Coupled answer (R (.ok a)) (f a) (f' a) Q)
    (herror : ∀ e s t, R (.error e) s t → Q (.error e) s t) :
    Coupled answer P (p >>= f) (p' >>= f') Q := by
  refine ⟨fun s t hst => ?_⟩
  obtain ⟨hr, hR⟩ := hp.run s t hst
  rw [runOn_bind, runOn_bind]
  generalize p.runOn answer s = x at hr hR
  generalize p'.runOn answer t = y at hr hR
  obtain ⟨r, s'⟩ := x
  obtain ⟨r', t'⟩ := y
  obtain rfl : r = r' := hr
  cases r with
  | ok a => exact (hok a).run s' t' hR
  | error e => exact ⟨rfl, herror e s' t' hR⟩

/-- What stands behind a failure is not run. -/
theorem throw_bind {Q : Except Error β → σ → σ → Prop} {e : Error} {f f' : α → Fallible I β}
    (h : ∀ s t, P s t → Q (.error e) s t) :
    Coupled answer P ((MonadExcept.throw e : Fallible I α) >>= f) (MonadExcept.throw e >>= f') Q :=
  ⟨fun s t hst => ⟨rfl, h s t hst⟩⟩

/-- Programs that are coupled are so if their failures become results. -/
theorem attempt {R : σ → σ → Prop} {p p' : Fallible I α}
    (h : Coupled answer P p p' fun _ => R) :
    Coupled answer P p.attempt p'.attempt fun _ => R := by
  refine ⟨fun s t hst => ?_⟩
  obtain ⟨hr, hR⟩ := h.run s t hst
  rw [runOn_attempt, runOn_attempt, hr]
  exact ⟨rfl, hR⟩

/-- A program is coupled with itself if its questions cannot tell the two states apart. -/
theorem of_asks {A : I.Question → Prop} {p : Fallible I α} (hp : Asks A p)
    (hanswer : ∀ q s t, A q → P s t →
      (answer q s).1 = (answer q t).1 ∧ P (answer q s).2 (answer q t).2) :
    Coupled answer P p p fun _ => P := by
  unfold Asks at hp
  refine ⟨fun s t hst => ?_⟩
  show (Program.run answer p.run s).1 = (Program.run answer p.run t).1 ∧
    P (Program.run answer p.run s).2 (Program.run answer p.run t).2
  generalize p.run = tree at hp
  induction tree generalizing s t with
  | done a => exact ⟨rfl, hst⟩
  | ask q next ih =>
    obtain ⟨hq, hnext⟩ := hp
    obtain ⟨hsame, hst'⟩ := hanswer q s t hq hst
    simp only [Program.run, hsame]
    exact ih _ _ _ hst' (hnext _)

end Coupled
end Fallible
end SessionAuth
