import Mathlib.Logic.Relation
import SessionAuth.Proofs.Program.Contract

/-!
# Programs side by side

Requests arrive at any time and each starts a program.  Its questions are answered one at a time,
between those of all others, and in between the environment may move on by itself.  A `World` holds
the environment, the requests with what is left of their programs, and a log of all exchanges.

Nothing is assumed of the order of steps: `Reachable` has a world for each.  What a program promises
about its own conversation carries over to its part of the log, however that part was interleaved
with others; `Reachable.kept` says so.
-/

set_option autoImplicit false

namespace SessionAuth
namespace Program

/-- An environment with programs that talk to it. -/
structure World (I : Interface) (ρ α σ : Type) where
  env : σ
  /-- The requests in order of arrival, with what is left of their programs. -/
  calls : List (ρ × Program I α)
  /-- All exchanges in order, with the number of the request that they belong to. -/
  log : List (Nat × Exchange I)

variable {I : Interface} {ρ α σ : Type}

/-- The exchanges of one request. -/
def transcript (i : Nat) (log : List (Nat × Exchange I)) : List (Exchange I) :=
  log.filterMap fun e => if e.1 = i then some e.2 else none

theorem transcript_append (i : Nat) (log more : List (Nat × Exchange I)) :
    transcript i (log ++ more) = transcript i log ++ transcript i more :=
  List.filterMap_append

@[simp] theorem transcript_singleton_self (i : Nat) (x : Exchange I) :
    transcript i [(i, x)] = [x] := by
  simp [transcript]

theorem transcript_singleton_of_ne {i j : Nat} (h : j ≠ i) (x : Exchange I) :
    transcript i [(j, x)] = [] := by
  simp [transcript, h]

theorem transcript_append_cons_self (i : Nat) (past rest : List (Nat × Exchange I))
    (x : Exchange I) : transcript i (past ++ (i, x) :: rest) =
      transcript i past ++ x :: transcript i rest := by
  simp [transcript]

@[simp] theorem mem_transcript {i : Nat} {log : List (Nat × Exchange I)} {x : Exchange I} :
    x ∈ transcript i log ↔ (i, x) ∈ log := by
  simp [transcript]

/-- A place in the exchanges of one request is a place in the log. -/
theorem transcript_eq_append_cons {i : Nat} {log : List (Nat × Exchange I)}
    {past rest : List (Exchange I)} {x : Exchange I} (h : transcript i log = past ++ x :: rest) :
    ∃ past' rest', log = past' ++ (i, x) :: rest' ∧ transcript i past' = past ∧
      transcript i rest' = rest := by
  obtain ⟨past', l, rfl, hpast, hl⟩ := List.filterMap_eq_append_iff.1 h
  obtain ⟨skipped, ⟨j, y⟩, rest', rfl, hskipped, hy, hrest⟩ := List.filterMap_eq_cons_iff.1 hl
  split at hy
  · rename_i hj
    cases hj
    cases hy
    refine ⟨past' ++ skipped, rest', by simp, ?_, hrest⟩
    rw [transcript_append, ← hpast]
    simpa [transcript] using hskipped
  · cases hy

namespace World

/-- The result of a request that is done. -/
def result? (w : World I ρ α σ) (i : Nat) : Option α :=
  match w.calls[i]? with
  | some (_, .done a) => some a
  | _ => none

/-- The request with a number. -/
def request? (w : World I ρ α σ) (i : Nat) : Option ρ := w.calls[i]?.map (·.1)

theorem result?_eq_some_iff {w : World I ρ α σ} {i : Nat} {a : α} :
    w.result? i = some a ↔ ∃ r, w.calls[i]? = some (r, .done a) := by
  rw [result?]
  split
  · rename_i r b h
    simp [h]
  · rename_i h
    simp only [reduceCtorEq, false_iff]
    exact fun ⟨r, hr⟩ => h r a hr

end World

/-! ## Steps -/

/-- A system of programs: the program of each request, how the environment answers, and how it moves
on by itself. -/
structure System (I : Interface) (ρ α σ : Type) where
  body : ρ → Program I α
  /-- Which answers the environment may give, and what it is then. -/
  Responds : σ → Exchange I → σ → Prop
  Passes : σ → σ → Prop

variable (S : System I ρ α σ)

/-- What happens next: a request arrives, a question is answered, or the environment moves on. -/
inductive System.Step : World I ρ α σ → World I ρ α σ → Prop
  | arrive (w : World I ρ α σ) (r : ρ) :
      Step w { w with calls := w.calls ++ [(r, S.body r)] }
  | turn (w : World I ρ α σ) {i : Nat} {r : ρ} {q : I.Question} {next : I.Answer q → Program I α}
      {a : I.Answer q} {env : σ} (hcall : w.calls[i]? = some (r, .ask q next))
      (hresponds : S.Responds w.env ⟨q, a⟩ env) :
      Step w ⟨env, w.calls.set i (r, next a), w.log ++ [(i, ⟨q, a⟩)]⟩
  | pass (w : World I ρ α σ) {env : σ} (h : S.Passes w.env env) : Step w { w with env := env }

/-- A world comes after another. -/
abbrev System.Steps : World I ρ α σ → World I ρ α σ → Prop := Relation.ReflTransGen S.Step

/-- The world before the first request. -/
def World.start (env : σ) : World I ρ α σ := ⟨env, [], []⟩

/-- A world comes from an environment without requests. -/
def System.Reachable (env : σ) (w : World I ρ α σ) : Prop := S.Steps (.start env) w

namespace System

variable {S} {w w' : World I ρ α σ}

/-- Requests stay what they are. -/
theorem Steps.request? (h : S.Steps w w') {i : Nat} {r : ρ} (hr : w.request? i = some r) :
    w'.request? i = some r := by
  induction h with
  | refl => exact hr
  | tail _ hstep ih =>
    obtain ⟨⟨_, p⟩, hi, rfl⟩ := Option.map_eq_some_iff.1 ih
    have hlt := (List.getElem?_eq_some_iff.1 hi).1
    cases hstep with
    | arrive => simp [World.request?, List.getElem?_append_left hlt, hi]
    | pass => exact ih
    | @turn j r' q next a env hcall =>
      by_cases hij : j = i
      · subst hij
        rw [hi, Option.some.injEq, Prod.mk.injEq] at hcall
        simp [World.request?, List.getElem?_set_self hlt, hcall.1]
      · simp [World.request?, List.getElem?_set_ne hij, hi]

/-- The log only grows. -/
theorem Steps.log_prefix (h : S.Steps w w') : w.log <+: w'.log := by
  induction h with
  | refl => exact List.prefix_rfl
  | tail _ hstep ih =>
    cases hstep with
    | arrive => exact ih
    | pass => exact ih
    | turn => exact ih.trans (List.prefix_append ..)

/-- A request that is done keeps its result, and has no further exchanges. -/
theorem Steps.done (h : S.Steps w w') {i : Nat} {a : α} (ha : w.result? i = some a) :
    w'.result? i = some a ∧ transcript i w'.log = transcript i w.log := by
  induction h with
  | refl => exact ⟨ha, rfl⟩
  | tail _ hstep ih =>
    obtain ⟨hdone, hlog⟩ := ih
    obtain ⟨r, hi⟩ := World.result?_eq_some_iff.1 hdone
    have hlt := (List.getElem?_eq_some_iff.1 hi).1
    cases hstep with
    | arrive =>
      refine ⟨World.result?_eq_some_iff.2 ⟨r, ?_⟩, hlog⟩
      rw [List.getElem?_append_left hlt, hi]
    | pass => exact ⟨hdone, hlog⟩
    | @turn j r' q next b env hcall =>
      have hij : j ≠ i := by
        rintro rfl
        cases hi.symm.trans hcall
      refine ⟨World.result?_eq_some_iff.2 ⟨r, ?_⟩, ?_⟩
      · rw [List.getElem?_set_ne hij, hi]
      · rw [transcript_append, transcript_singleton_of_ne hij, List.append_nil, hlog]

/-- The first part of a request may be run without an interruption: if the environment may answer as
some party does, the world comes to what that party makes of it, and the second part is left. -/
theorem Steps.of_run_bind {β τ : Type} {answer : Server I τ} {view : τ → σ} (Inv : τ → Prop)
    (hresponds : ∀ q t, Inv t → S.Responds (view t) ⟨q, (answer q t).1⟩ (view (answer q t).2))
    (hinv : ∀ q t, Inv t → Inv (answer q t).2) {p : Program I β} {rest : β → Program I α} {t : τ}
    (ht : Inv t) {w : World I ρ α σ} (henv : w.env = view t) {i : Nat} {r : ρ}
    (hcall : w.calls[i]? = some (r, p >>= rest)) :
    Inv (p.run answer t).2 ∧ ∃ log, S.Steps w
      ⟨view (p.run answer t).2, w.calls.set i (r, rest (p.run answer t).1), log⟩ := by
  induction p generalizing t w with
  | done a =>
    rw [done_bind] at hcall
    obtain ⟨hlt, hget⟩ := List.getElem?_eq_some_iff.1 hcall
    refine ⟨ht, w.log, ?_⟩
    rw [Program.run, ← henv, ← hget, List.set_getElem_self]
  | ask q next ih =>
    rw [ask_bind] at hcall
    have hturn : S.Step w ⟨view (answer q t).2, w.calls.set i (r, next (answer q t).1 >>= rest),
        w.log ++ [(i, ⟨q, (answer q t).1⟩)]⟩ := .turn w hcall (henv ▸ hresponds q t ht)
    obtain ⟨hrun, log, hlog⟩ := ih (answer q t).1 (hinv q t ht)
      (w := ⟨view (answer q t).2, w.calls.set i (r, next (answer q t).1 >>= rest),
        w.log ++ [(i, ⟨q, (answer q t).1⟩)]⟩) rfl
      (List.getElem?_set_self (List.getElem?_eq_some_iff.1 hcall).1)
    rw [List.set_set] at hlog
    exact ⟨hrun, log, .head hturn hlog⟩

/-! ## Schedules

A world can be computed if one party answers: requests arrive in the beginning, and a schedule says
whose turn it is. -/

/-- The world after some requests have arrived. -/
def arrived (env : σ) (requests : List ρ) : World I ρ α σ :=
  ⟨env, requests.map fun r => (r, S.body r), []⟩

/-- The world after the next question of a request is answered, if it has one left. -/
def turn (answer : Server I σ) (w : World I ρ α σ) (i : Nat) : World I ρ α σ :=
  match w.calls[i]? with
  | some (r, .ask q next) => ⟨(answer q w.env).2, w.calls.set i (r, next (answer q w.env).1),
      w.log ++ [(i, ⟨q, (answer q w.env).1⟩)]⟩
  | _ => w

theorem reachable_arrived (env : σ) (requests : List ρ) :
    S.Reachable env (S.arrived env requests) := by
  have h : ∀ (calls : List (ρ × Program I α)) (rs : List ρ),
      S.Steps ⟨env, calls, []⟩ ⟨env, calls ++ rs.map fun r => (r, S.body r), []⟩ := by
    intro calls rs
    induction rs generalizing calls with
    | nil => simpa using Relation.ReflTransGen.refl
    | cons r rs ih =>
      have hstep : S.Step ⟨env, calls, []⟩ ⟨env, calls ++ [(r, S.body r)], []⟩ := .arrive _ r
      simpa using Relation.ReflTransGen.head hstep (ih _)
  exact h [] requests

/-- A world that is computed is one that can be reached. -/
theorem reachable_turns {answer : Server I σ}
    (hresponds : ∀ q env, S.Responds env ⟨q, (answer q env).1⟩ (answer q env).2) {env : σ}
    (h : S.Reachable env w) (schedule : List Nat) :
    S.Reachable env (schedule.foldl (turn answer) w) := by
  induction schedule generalizing w with
  | nil => exact h
  | cons i schedule ih =>
    refine ih ?_
    rw [turn]
    split
    · rename_i r q next hcall
      exact h.tail (.turn w hcall (hresponds q w.env))
    · exact h

/-! ## Contracts -/

/-- What the programs of a world have kept to so far, and what is left of them will keep to. -/
structure Kept (mayAsk : ρ → List (Exchange I) → I.Question → Prop)
    (mayEnd : ρ → List (Exchange I) → α → Prop) (w : World I ρ α σ) : Prop where
  calls : ∀ {i : Nat} {r : ρ} {p : Program I α}, w.calls[i]? = some (r, p) →
    p.Keeps (mayAsk r) (mayEnd r) (transcript i w.log)
  asked : ∀ {past rest : List (Nat × Exchange I)} {i : Nat} {x : Exchange I},
    w.log = past ++ (i, x) :: rest →
      ∃ r, w.request? i = some r ∧ mayAsk r (transcript i past) x.question

variable {mayAsk : ρ → List (Exchange I) → I.Question → Prop}
  {mayEnd : ρ → List (Exchange I) → α → Prop}

/-- A request that is done has ended as it may. -/
theorem Kept.ended (h : Kept mayAsk mayEnd w) {i : Nat} {r : ρ} {a : α}
    (hr : w.request? i = some r) (ha : w.result? i = some a) :
    mayEnd r (transcript i w.log) a := by
  obtain ⟨r', hcall⟩ := World.result?_eq_some_iff.1 ha
  obtain rfl : r' = r := by
    rw [World.request?, hcall] at hr
    exact Option.some.inj hr
  exact h.calls hcall

/-- The programs of a world keep their contracts in the order of their own exchanges, however these
were interleaved. -/
theorem Reachable.kept {env : σ} (h : S.Reachable env w)
    (hbody : ∀ r, (S.body r).Keeps (mayAsk r) (mayEnd r) []) : Kept mayAsk mayEnd w := by
  induction h with
  | refl => exact ⟨nofun, fun h => absurd h (by simp [World.start])⟩
  | @tail w w' _ hstep ih =>
    have hrequest : ∀ {i r}, w.request? i = some r → w'.request? i = some r :=
      Steps.request? (.single hstep)
    cases hstep with
    | pass => exact ⟨ih.calls, ih.asked⟩
    | arrive r =>
      constructor
      case asked =>
        intro past rest i x hlog
        obtain ⟨r', hr', hask⟩ := ih.asked hlog
        exact ⟨r', hrequest hr', hask⟩
      case calls =>
        intro i r' p hi
        rw [List.getElem?_append] at hi
        split at hi
        · exact ih.calls hi
        · -- nothing was said in the name of a request that has only arrived
          rename_i hlen
          have hnone : transcript i w.log = [] := by
            refine List.eq_nil_iff_forall_not_mem.2 fun x hx => hlen ?_
            obtain ⟨past, rest, hlog⟩ := List.append_of_mem (mem_transcript.1 hx)
            obtain ⟨r₀, hr₀, -⟩ := ih.asked hlog
            obtain ⟨c, hc, -⟩ := Option.map_eq_some_iff.1 hr₀
            exact (List.getElem?_eq_some_iff.1 hc).1
          obtain ⟨rfl, rfl⟩ : r = r' ∧ S.body r = p :=
            Prod.mk.inj (List.mem_singleton.1 (List.mem_of_getElem? hi)).symm
          rw [hnone]
          exact hbody r
    | @turn i r q next a env hcall =>
      have hkeeps := ih.calls hcall
      constructor
      case asked =>
        intro past rest j x hlog
        rcases concat_eq_append_cons hlog with ⟨rfl, heq⟩ | ⟨rest', hlog, -⟩
        · obtain ⟨rfl, rfl⟩ := Prod.mk.inj heq
          refine ⟨r, hrequest ?_, hkeeps.1⟩
          rw [World.request?, hcall, Option.map_some]
        · obtain ⟨r', hr', hask⟩ := ih.asked hlog
          exact ⟨r', hrequest hr', hask⟩
      case calls =>
        intro j r' p hj
        by_cases hij : i = j
        · subst hij
          rw [List.getElem?_set_self (List.getElem?_eq_some_iff.1 hcall).1, Option.some.injEq,
            Prod.mk.injEq] at hj
          obtain ⟨rfl, rfl⟩ := hj
          rw [transcript_append, transcript_singleton_self]
          exact hkeeps.2 a
        · rw [List.getElem?_set_ne hij] at hj
          rw [transcript_append, transcript_singleton_of_ne hij, List.append_nil]
          exact ih.calls hj

end System
end Program
end SessionAuth
