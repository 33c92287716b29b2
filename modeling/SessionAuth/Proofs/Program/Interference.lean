import SessionAuth.Proofs.Program.Concurrent

/-!
# Programs that share a server

Where programs run side by side over one server, each finds a state that the others may have changed
since its last question.  `Program.Ensures` says what one of them achieves nevertheless: as long as
the others change the state only as they may, it does so as well, and what holds in the end is not
undone by them.  This is shown of each program by itself, question by question.
`Reachable.ensures` carries it over to all of them at once, however their questions are interleaved.
-/

set_option autoImplicit false

namespace SessionAuth
namespace Program

variable {I : Interface} {α β σ : Type} {answer : Server I σ} {May : σ → σ → Prop}

/-- Whether a program comes to a result and a state with a property, and changes the state as it may
and not otherwise, where others may change the state at any time. -/
def Ensures (answer : Server I σ) (May : σ → σ → Prop) (Q : α → σ → Prop) :
    Program I α → σ → Prop
  | done a, s => ∀ t, May s t → Q a t
  | ask q next, s => ∀ t, May s t →
      May t (answer q t).2 ∧ (next (answer q t).1).Ensures answer May Q (answer q t).2

section Rules

variable {Q : α → σ → Prop} {R : β → σ → Prop} {p : Program I α} {s t : σ}

/-- What a program ensures is not undone by the others. -/
theorem Ensures.of_may [IsTrans σ May] (h : p.Ensures answer May Q s) (hst : May s t) :
    p.Ensures answer May Q t := by
  cases p with
  | done a => exact fun u htu => h u (trans_of May hst htu)
  | ask q next => exact fun u htu => h u (trans_of May hst htu)

/-- A program goes on where its first part has come to. -/
theorem Ensures.bind {f : α → Program I β} (h : p.Ensures answer May Q s)
    (hf : ∀ a t, (∀ u, May t u → Q a u) → (f a).Ensures answer May R t) :
    (p >>= f).Ensures answer May R s := by
  induction p generalizing s with
  | done a => exact hf a s h
  | ask q next ih => exact fun t hst => ⟨(h t hst).1, ih _ (h t hst).2⟩

end Rules

end Program

/-! ## Programs that may fail -/

namespace Fallible

open Program (Ensures)

variable {I : Interface} {α β σ : Type} {answer : Program.Server I σ} {May : σ → σ → Prop} {s : σ}
  {Q : Except Error α → σ → Prop} {R : Except Error β → σ → Prop}

/-- Of two programs the second starts where the first succeeds. -/
theorem ensures_bind {p : Fallible I α} {f : α → Fallible I β}
    (h : p.run.Ensures answer May Q s)
    (hok : ∀ a t, (∀ u, May t u → Q (.ok a) u) → (f a).run.Ensures answer May R t)
    (herror : ∀ e t, Q (.error e) t → R (.error e) t) :
    (p >>= f).run.Ensures answer May R s := by
  refine Ensures.bind h (f := ExceptT.bindCont f) fun r t hQ => ?_
  cases r with
  | ok a => exact hok a t hQ
  | error e => exact fun u htu => herror e u (hQ u htu)

theorem ensures_pure {a : α} (h : ∀ t, May s t → Q (.ok a) t) :
    (pure a : Fallible I α).run.Ensures answer May Q s := h

end Fallible

namespace Program

variable {I : Interface} {ρ α σ : Type} {answer : Server I σ} {May : σ → σ → Prop}

/-! ## Programs side by side -/

/-- Programs that share one server; the state changes only when it answers. -/
def sharing (answer : Server I σ) (body : ρ → Program I α) : System I ρ α σ where
  body := body
  Responds s x t := answer x.question s = (x.answer, t)
  Passes _ _ := False

variable {body : ρ → Program I α} {Q : ρ → α → σ → Prop}

/-- **Programs ensure together what each ensures by itself.**  However the questions of programs are
interleaved, the state changes as each of them may change it, and each ends as it ensures. -/
theorem System.Reachable.ensures [Std.Refl May] [IsTrans σ May] {start : σ}
    {w : World I ρ α σ} (h : (sharing answer body).Reachable start w)
    (hbody : ∀ {i : Nat} {r : ρ}, w.request? i = some r → ∀ s, May start s →
      (body r).Ensures answer May (Q r) s) :
    May start w.env ∧ ∀ {i : Nat} {r : ρ} {p : Program I α}, w.calls[i]? = some (r, p) →
      p.Ensures answer May (Q r) w.env := by
  induction h with
  | refl => exact ⟨refl_of May start, fun h => by cases h⟩
  | @tail w w' hpast hstep ih =>
    obtain ⟨hmay, hcalls⟩ := ih fun hr => hbody (Steps.request? (.single hstep) hr)
    cases hstep with
    | pass hpass => exact hpass.elim
    | arrive r =>
      refine ⟨hmay, fun {i r' p} hi => ?_⟩
      have hr : (w.calls ++ [(r, body r)])[i]?.map (·.1) = some r' := congrArg (Option.map (·.1)) hi
      rw [List.getElem?_append] at hi
      split at hi
      · exact hcalls hi
      · obtain ⟨rfl, rfl⟩ := Prod.mk.inj (List.mem_singleton.1 (List.mem_of_getElem? hi))
        exact hbody hr _ hmay
    | @turn i r q next a env hcall hresponds =>
      have hanswer : answer q w.env = (a, env) := hresponds
      obtain ⟨hturn, hnext⟩ := hcalls hcall w.env (refl_of May _)
      rw [hanswer] at hturn hnext
      refine ⟨trans_of May hmay hturn, fun {j r' p} hj => ?_⟩
      rw [List.getElem?_set] at hj
      split at hj
      · split at hj
        · obtain ⟨rfl, rfl⟩ := Prod.mk.inj (Option.some.inj hj)
          exact hnext
        · cases hj
      · exact (hcalls hj).of_may hturn

end Program
end SessionAuth
