import SessionAuth.Environment

/-!
# Running programs that may fail

`Fallible.runOn` follows the way in which a program is put together: what comes after an error is
not run, and everything else is run in the state that the part before it left.  The equations here
hold of every server, so that a use case can be followed step by step whoever answers it.
-/

set_option autoImplicit false

namespace SessionAuth

namespace Program

/-- A program does not tell a server from one that answers as it does in all states of an invariant,
where each state is seen through a view. -/
theorem run_view {I : Interface} {α σ τ : Type} {answer : Server I τ} {answer' : Server I σ}
    {view : τ → σ} (Inv : τ → Prop)
    (hanswer : ∀ q t, Inv t → answer' q (view t) = ((answer q t).1, view (answer q t).2))
    (hinv : ∀ q t, Inv t → Inv (answer q t).2) (p : Program I α) {t : τ} (ht : Inv t) :
    p.run answer' (view t) = ((p.run answer t).1, view (p.run answer t).2) := by
  induction p generalizing t with
  | done a => rfl
  | ask q next ih =>
    rw [run, run, hanswer q t ht]
    exact ih _ (hinv q t ht)

end Program

namespace Fallible

variable {I : Interface} {α β σ : Type} (answer : Program.Server I σ) (s : σ)

@[simp] theorem runOn_pure (a : α) : runOn answer (pure a : Fallible I α) s = (.ok a, s) := rfl

@[simp] theorem runOn_throw (e : Error) :
    runOn answer (throw e : Fallible I α) s = (.error e, s) := rfl

theorem runOn_bind (p : Fallible I α) (f : α → Fallible I β) :
    runOn answer (p >>= f) s =
      match runOn answer p s with
      | (.ok a, t) => runOn answer (f a) t
      | (.error e, t) => (.error e, t) := by
  show Program.run answer (p.run >>= ExceptT.bindCont f) s = _
  rw [Program.run_bind]
  cases h : Program.run answer p.run s with
  | mk r t =>
    simp only [runOn, h]
    cases r <;> rfl

/-- A program goes on after a part that succeeds. -/
theorem runOn_bind_of_ok {p : Fallible I α} {a : α} {t : σ} (h : runOn answer p s = (.ok a, t))
    (f : α → Fallible I β) : runOn answer (p >>= f) s = runOn answer (f a) t := by
  rw [runOn_bind, h]

/-- A program that succeeds does so part by part. -/
theorem runOn_bind_eq_ok_iff {p : Fallible I α} {f : α → Fallible I β} {b : β} {u : σ} :
    runOn answer (p >>= f) s = (.ok b, u) ↔
      ∃ a t, runOn answer p s = (.ok a, t) ∧ runOn answer (f a) t = (.ok b, u) := by
  rw [runOn_bind]
  rcases runOn answer p s with ⟨e | a, t⟩
  · simp
  · simp only [Prod.mk.injEq, Except.ok.injEq]
    constructor
    · exact fun h => ⟨a, t, ⟨rfl, rfl⟩, h⟩
    · rintro ⟨_, _, ⟨rfl, rfl⟩, h⟩
      exact h

@[simp] theorem runOn_lift (r : Except Error α) :
    runOn answer (liftM r : Fallible I α) s = (r, s) := by
  cases r <;> rfl

@[simp] theorem runOn_attempt (p : Fallible I α) :
    runOn answer p.attempt s = (.ok (runOn answer p s).1, (runOn answer p s).2) := by
  show Program.run answer (Except.ok <$> p.run) s = _
  rw [map_eq_pure_bind, Program.run_bind]
  rfl

end Fallible

/-! ## Asking the environment -/

namespace Environment

open Fallible

variable {σ : Type} (answer : Program.Server Environment.interface σ) (s : σ)

@[simp] theorem runOn_now : runOn answer now s = (.ok (answer .now s).1, (answer .now s).2) := rfl

@[simp] theorem runOn_newId :
    runOn answer newId s = (.ok (answer .newId s).1, (answer .newId s).2) := rfl

@[simp] theorem runOn_newSalt :
    runOn answer newSalt s = (.ok (answer .newSalt s).1, (answer .newSalt s).2) := rfl

@[simp] theorem runOn_publish (e : Event) :
    runOn answer (publish e) s = (.ok (answer (.publish e) s).1, (answer (.publish e) s).2) := rfl

/-! The type of an answer is computed from the call, so that it must not be matched against the type
of the program: a use case mentions it in its computed form. -/

@[simp] theorem runOn_sessions (c : SessionStore.Call) :
    @runOn _ (no_index _) σ answer (@sessions (no_index _) (SessionStore.call c)) s =
      answer (.sessions (.call c)) s := rfl

@[simp] theorem runOn_users (c : UserRepository.Call) :
    @runOn _ (no_index _) σ answer (@users (no_index _) (UserRepository.call c)) s =
      answer (.users c) s := rfl

@[simp] theorem runOn_grants (c : Grants.Call) :
    @runOn _ (no_index _) σ answer (@grants (no_index _) (Grants.call c)) s =
      answer (.grants c) s := rfl

@[simp] theorem runOn_cache (c : Cache.Call) :
    @runOn _ (no_index _) σ answer (@cache (no_index _) (Cache.call c)) s =
      answer (.cache c) s := rfl

/-- A program on the cache is put together like any other. -/
theorem cache_bind {α β : Type} (p : Fallible Cache.interface α)
    (f : α → Fallible Cache.interface β) : cache (p >>= f) = cache p >>= fun a => cache (f a) := by
  refine (Program.interpret_bind (I := Cache.interface) (J := interface) _ p.run
    (ExceptT.bindCont f)).trans ?_
  show _ = (cache p).run >>= _
  refine congrArg _ (funext fun r => ?_)
  cases r <;> rfl

/-- A value is read from the text that the cache keeps. -/
theorem runOn_getJson {α : Type} (d : Json.Decoder α) (key : String) :
    runOn answer (cache (Cache.getJson d key)) s =
      match answer (.cache (.get key)) s with
      | (.ok (some text), t) => (some <$> Json.fromText d text, t)
      | (.ok none, t) => (.ok none, t)
      | (.error e, t) => (.error e, t) := by
  rw [Cache.getJson, cache_bind, runOn_bind, runOn_cache]
  cases answer (.cache (.get key)) s with
  | mk r t =>
    rcases r with e | _ | text
    · rfl
    · rfl
    · cases h : Json.fromText d text <;> simp only [h] <;> rfl

end Environment
end SessionAuth
