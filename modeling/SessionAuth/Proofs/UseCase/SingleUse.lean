import SessionAuth.Proofs.Program.Concurrent
import SessionAuth.Proofs.UseCase.Conversation
import SessionAuth.Proofs.UseCase.Refresh

/-!
# Refresh tokens are used once

That a refresh token is exchanged once cannot rest on the question whether it is in use, which is
asked long before the exchange.  It rests on the exchange, which takes the pointer of the token
away.

Logins and refreshes run side by side over one store (`Auth.system`), and each of them keeps to what
it promises (`MayAsk`).  From this it follows that a pointer which was taken away is never written
again (`Sound`), and `refresh_single_use` is what callers see of it.
-/

set_option autoImplicit false

namespace SessionAuth
namespace Auth

open Environment Fallible

/-! ## Logins and refreshes side by side -/

/-- What logins and refreshes talk to, as far as it matters for sessions. -/
structure Backend where
  clock : Clock
  sessions : SessionStore
  /-- The ids that were given out. -/
  ids : List String

/-- A question that neither the clock nor the session store answers, nor the source of ids. -/
def IsForeign : Question → Prop
  | .now => False
  | .newId => False
  | .sessions _ => False
  | _ => True

/-- How questions are answered: no id is given out twice, and what is asked of users, permissions,
the cache and others may be answered in any way. -/
inductive Backend.Responds (b : Backend) : Exchange Environment.interface → Backend → Prop
  | now : Responds b ⟨.now, b.clock.wall⟩ b
  | newId {id : String} (hnew : id ∉ b.ids) :
      Responds b ⟨.newId, id⟩ { b with ids := id :: b.ids }
  | sessions (q : SessionStore.Question) :
      Responds b ⟨.sessions q, (SessionStore.answer b.clock.elapsed q b.sessions).1⟩
        { b with sessions := (SessionStore.answer b.clock.elapsed q b.sessions).2 }
  | foreign {x : Exchange Environment.interface} (h : IsForeign x.question) : Responds b x b

/-- Time passes.  The wall clock may be set to any time. -/
inductive Backend.Passes (b : Backend) : Backend → Prop
  | advance {clock : Clock} (h : b.clock.elapsed ≤ clock.elapsed) :
      Passes b { b with clock := clock }

/-- Logins and refreshes, any number of them, whose questions are answered in any order. -/
def system (s : Setup) :
    Program.System Environment.interface Request (Except Error Tokens) Backend where
  body := Request.body s
  Responds := Backend.Responds
  Passes := Backend.Passes

/-- What logins and refreshes see of a process. -/
def Backend.ofProcess (f : Supply) (d : Deployment) : Backend where
  clock := d.clock
  sessions := d.sessions
  ids := f.given d.idCount

/-- A process whose sessions are in reach answers as it may, if its supply repeats no id. -/
theorem Backend.responds_serve {f : Supply} (hf : Function.Injective f.ids) (q : Question)
    {d : Deployment} (hd : d.sessionsReachable = true) :
    Backend.Responds (.ofProcess f d) ⟨q, (Deployment.serve f q d).1⟩
      (.ofProcess f (Deployment.serve f q d).2) := by
  cases q with
  | now => exact .now
  | newId =>
    obtain ⟨hnew, hgiven⟩ := Deployment.serve_newId hf d
    rw [ofProcess, ofProcess, hgiven]
    exact .newId hnew
  | sessions q =>
    rw [Deployment.serve_sessions hd]
    exact .sessions q
  | users c =>
    simp only [Deployment.serve, Deployment.answer]
    split <;> exact .foreign trivial
  | _ => exact .foreign trivial

/-- Logins and refreshes that are under way or done, over one session store. -/
abbrev World : Type := Program.World Environment.interface Request (Except Error Tokens) Backend

/-- The exchanges of logins and refreshes, each with the number of its request. -/
abbrev Log : Type := List (Nat × Exchange Environment.interface)

/-! ## Runs by a process -/

/-- A process has brought a request to what is left of it, and the others are where they were. -/
structure Brings (s : Setup) (f : Supply) (d : Deployment) (w : World) (i : Nat)
    (call : Request × Program Environment.interface (Except Error Tokens)) (w' : World) : Prop where
  steps : (system s).Steps w w'
  env : w'.env = .ofProcess f d
  reachable : d.sessionsReachable = true
  call : w'.calls[i]? = some call
  others : ∀ {j : Nat}, i ≠ j → w'.calls[j]? = w.calls[j]?

section Runs

variable {s : Setup} {f : Supply} {w : World} {d d' : Deployment} {i : Nat} {request : Request}

/-- A process may run the first part of a program without an interruption. -/
theorem exists_brings (hf : Function.Injective f.ids) (henv : w.env = .ofProcess f d)
    (hd : d.sessionsReachable = true) {β : Type} {p : Program Environment.interface β}
    {rest : β → Program Environment.interface (Except Error Tokens)} {b : β}
    (hrun : p.run (Deployment.serve f) d = (b, d'))
    (hcall : w.calls[i]? = some (request, p >>= rest)) :
    ∃ w', Brings s f d' w i (request, rest b) w' := by
  obtain ⟨hreachable, log, hsteps⟩ := Program.System.Steps.of_run_bind (S := system s)
    (fun d => d.sessionsReachable = true) (fun q _ => Backend.responds_serve hf q)
    (fun q d hd => (Deployment.serve_frame q d).2.1.trans hd) hd henv hcall
  rw [hrun] at hreachable hsteps
  have hlt := (List.getElem?_eq_some_iff.1 hcall).1
  exact ⟨_, hsteps, rfl, hreachable, List.getElem?_set_self hlt,
    fun hij => List.getElem?_set_ne hij⟩

/-- A part of a request that succeeds brings the request to what comes after it. -/
theorem brings_of_ok (hf : Function.Injective f.ids) (henv : w.env = .ofProcess f d)
    (hd : d.sessionsReachable = true) {α : Type} {p : UseCase α} {rest : α → UseCase Tokens} {a : α}
    (hrun : p.runOn (Deployment.serve f) d = (.ok a, d'))
    (hcall : w.calls[i]? = some (request, (p >>= rest).run)) :
    ∃ w', Brings s f d' w i (request, (rest a).run) w' := by
  have hcall' : w.calls[i]? = some (request, p.run >>= ExceptT.bindCont rest) := hcall
  have hrun' : p.run.run (Deployment.serve f) d = (.ok a, d') := hrun
  obtain ⟨w', hbrings⟩ := exists_brings (s := s) hf henv hd hrun' hcall'
  exact ⟨w', hbrings⟩

/-- What is left of a request may be run to its end. -/
theorem brings_done (hf : Function.Injective f.ids) (henv : w.env = .ofProcess f d)
    (hd : d.sessionsReachable = true) {p : UseCase Tokens} {r : Except Error Tokens}
    (hrun : p.runOn (Deployment.serve f) d = (r, d'))
    (hcall : w.calls[i]? = some (request, p.run)) :
    ∃ w', Brings s f d' w i (request, .done r) w' := by
  have hcall' : w.calls[i]? = some (request, p.run >>= Program.done) := by
    rw [Program.bind_done, hcall]
  exact exists_brings hf henv hd hrun hcall'

/-- Two refreshes may both come to their exchange before the one exchanges its token, and then the
other. -/
theorem steps_contested (hf : Function.Injective f.ids) (henv : w.env = .ofProcess f d)
    (hd : d.sessionsReachable = true) {j : Nat} (hij : i ≠ j) {input : Refresh}
    (hi : w.calls[i]? = some (request, (refresh s input).run))
    (hj : w.calls[j]? = some (request, (refresh s input).run))
    {p p' : Claims × Codec.Issued} {r r' : Except Error Tokens} {d₁ d₂ d₃ d₄ : Deployment}
    (hprepared : (prepare s input).runOn (Deployment.serve f) d = (.ok p, d₁))
    (hprepared' : (prepare s input).runOn (Deployment.serve f) d₁ = (.ok p', d₂))
    (hexchanged : (exchange s input p.1 p.2).runOn (Deployment.serve f) d₂ = (r, d₃))
    (hexchanged' : (exchange s input p'.1 p'.2).runOn (Deployment.serve f) d₃ = (r', d₄)) :
    ∃ w', (system s).Steps w w' ∧ w'.result? i = some r ∧ w'.result? j = some r' := by
  rw [refresh_eq] at hi hj
  obtain ⟨w₁, h₁⟩ := brings_of_ok (s := s) hf henv hd hprepared hi
  obtain ⟨w₂, h₂⟩ := brings_of_ok (s := s) hf h₁.env h₁.reachable hprepared'
    ((h₁.others hij).trans hj)
  obtain ⟨w₃, h₃⟩ := brings_done (s := s) hf h₂.env h₂.reachable hexchanged
    ((h₂.others hij.symm).trans h₁.call)
  obtain ⟨w₄, h₄⟩ := brings_done (s := s) hf h₃.env h₃.reachable hexchanged'
    ((h₃.others hij).trans h₂.call)
  refine ⟨w₄, ((h₁.steps.trans h₂.steps).trans h₃.steps).trans h₄.steps, ?_, ?_⟩
  · exact Program.World.result?_eq_some_iff.2 ⟨request, (h₄.others hij.symm).trans h₃.call⟩
  · exact Program.World.result?_eq_some_iff.2 ⟨request, h₄.call⟩

end Runs

/-! ## Tokens in the log -/

/-- A request brought a refresh token into the store. -/
inductive Wrote (log : Log) (i : Nat) : String → Prop
  | create {session : Session} {ttls : Ttls}
      (h : (i, ⟨.sessions (.call (.create session ttls)), .ok ()⟩) ∈ log) :
      Wrote log i session.currentJti
  | rotate {r : Rotation} {id : String}
      (h : (i, ⟨.sessions (.call (.rotate r)), .ok id⟩) ∈ log) : Wrote log i r.newJti

theorem Wrote.mono {log more : Log} {i : Nat} {jti : String} (h : Wrote log i jti)
    (hle : log ⊆ more) : Wrote more i jti := by
  cases h with
  | create h => exact .create (hle h)
  | rotate h => exact .rotate (hle h)

/-- The number of a request that tries to exchange a token, once for each time that it does. -/
def attempt? (jti : String) (e : Nat × Exchange Environment.interface) : Option Nat :=
  match e.2.question with
  | .sessions (.call (.rotate r)) => if r.oldJti = jti then some e.1 else none
  | _ => none

/-- The requests that tried to exchange a token, in the order in which they did. -/
def attempts (jti : String) (log : Log) : List Nat := log.filterMap (attempt? jti)

theorem attempts_append (jti : String) (log more : Log) :
    attempts jti (log ++ more) = attempts jti log ++ attempts jti more :=
  List.filterMap_append

theorem mem_attempts {jti : String} {log : Log} {i : Nat} : i ∈ attempts jti log ↔
    ∃ r a, (i, ⟨.sessions (.call (.rotate r)), a⟩) ∈ log ∧ r.oldJti = jti := by
  simp only [attempts, List.mem_filterMap]
  constructor
  · rintro ⟨⟨j, q, a⟩, hmem, hattempt⟩
    simp only [attempt?] at hattempt
    split at hattempt
    · split at hattempt
      · cases hattempt
        exact ⟨_, _, hmem, ‹_›⟩
      · cases hattempt
    · cases hattempt
  · rintro ⟨r, a, hmem, hjti⟩
    exact ⟨_, hmem, by simp [attempt?, hjti]⟩

/-! ## What the log says -/

section Kept

variable {s : Setup} {w : World} {i : Nat}

/-- The requests of a world kept to their contracts. -/
abbrev Kept (s : Setup) (w : World) : Prop := Program.System.Kept (MayAsk s) MayEnd w

/-- What was asked was allowed, by what the request had said before. -/
theorem Kept.mayAsk (hkept : Kept s w) {x : Exchange Environment.interface} (h : (i, x) ∈ w.log) :
    ∃ past, past <+: w.log ∧ ∃ request, w.request? i = some request ∧
      MayAsk s request (Program.transcript i past) x.question := by
  obtain ⟨past, rest, hlog⟩ := List.append_of_mem h
  exact ⟨past, ⟨_, hlog.symm⟩, hkept.asked hlog⟩

/-- A request has at most one exchange that is not quiet. -/
theorem Kept.once (hkept : Kept s w) {x y : Exchange Environment.interface}
    (hx : (i, x) ∈ w.log) (hy : (i, y) ∈ w.log) (hlx : ¬ IsQuiet x.question)
    (hly : ¬ IsQuiet y.question) : x = y := by
  have hfirst : ∀ {past rest z z'}, w.log = past ++ (i, z) :: rest → ¬ IsQuiet z.question →
      (i, z') ∈ past → IsQuiet z'.question := by
    intro past rest z z' hlog hz hmem
    obtain ⟨request, -, hask⟩ := hkept.asked hlog
    exact hask.first hz _ (Program.mem_transcript.2 hmem)
  obtain ⟨past, rest, hlog⟩ := List.append_of_mem hx
  rw [hlog, List.mem_append, List.mem_cons] at hy
  rcases hy with hpast | heq | hrest
  · exact absurd (hfirst hlog hlx hpast) hly
  · exact (Prod.mk.inj heq).2.symm
  · obtain ⟨middle, last, rfl⟩ := List.append_of_mem hrest
    have hlog' : w.log = (past ++ (i, x) :: middle) ++ (i, y) :: last := by
      rw [hlog, List.append_assoc, List.cons_append]
    have hbefore : (i, x) ∈ past ++ (i, x) :: middle :=
      List.mem_append_right _ (List.mem_cons_self ..)
    exact absurd (hfirst hlog' hly hbefore) hlx

/-- A request writes only under an id that was given out to it. -/
theorem Kept.minted (hkept : Kept s w) {jti : String} (h : Wrote w.log i jti) :
    (i, ⟨.newId, jti⟩) ∈ w.log := by
  cases h with
  | create h =>
    obtain ⟨past, hpast, request, -, hask⟩ := hkept.mayAsk h
    cases hask with
    | quiet h => exact h.elim
    | create hnew => exact hpast.subset (Program.mem_transcript.1 hnew)
  | rotate h =>
    obtain ⟨past, hpast, request, -, hask⟩ := hkept.mayAsk h
    cases hask with
    | quiet h => exact h.elim
    | rotate _ _ _ hnew => exact hpast.subset (Program.mem_transcript.1 hnew)

/-- A request exchanges only a token that it saw in use. -/
theorem Kept.used (hkept : Kept s w) {r : Rotation} {a : Except Error String}
    (h : (i, ⟨.sessions (.call (.rotate r)), a⟩) ∈ w.log) :
    (i, ⟨.sessions (.call (.hasJti r.oldJti)), .ok true⟩) ∈ w.log := by
  obtain ⟨past, hpast, request, -, hask⟩ := hkept.mayAsk h
  cases hask with
  | quiet h => exact h.elim
  | rotate _ _ hused => exact hpast.subset (Program.mem_transcript.1 hused)

end Kept

/-! ## The invariant -/

/-- Ids are given out once, pointers come from the log, a pointer that a request tried to exchange
is gone, and an exchange that succeeded was the first to be tried. -/
structure Sound (w : World) : Prop where
  given : ∀ {i id}, (i, ⟨.newId, id⟩) ∈ w.log → id ∈ w.env.ids
  once : ∀ {i j id}, (i, ⟨.newId, id⟩) ∈ w.log → (j, ⟨.newId, id⟩) ∈ w.log → i = j
  pointer : ∀ {jti p}, w.env.sessions.pointers.get? jti = some p → ∃ i, Wrote w.log i jti
  seen : ∀ {i jti}, (i, ⟨.sessions (.call (.hasJti jti)), .ok true⟩) ∈ w.log →
    ∃ j, Wrote w.log j jti
  spent : ∀ {i jti}, i ∈ attempts jti w.log → w.env.sessions.pointers.get? jti = none
  first : ∀ {past i r id rest},
    w.log = past ++ (i, ⟨.sessions (.call (.rotate r)), .ok id⟩) :: rest →
      attempts r.oldJti past = []

namespace Sound

variable {s : Setup} {w : World}

/-- An id that was given out to a request is not seen in use before the request writes. -/
theorem not_seen (hkept : Kept s w) (h : Sound w) {i j : Nat} {jti : String}
    (hnew : (i, ⟨.newId, jti⟩) ∈ w.log) (hfirst : ∀ jti, ¬ Wrote w.log i jti) :
    (j, ⟨.sessions (.call (.hasJti jti)), .ok true⟩) ∉ w.log := by
  intro hj
  obtain ⟨k, hk⟩ := h.seen hj
  obtain rfl := h.once hnew (hkept.minted hk)
  exact hfirst _ hk

/-- Nor is it exchanged. -/
theorem not_attempted (hkept : Kept s w) (h : Sound w) {i j : Nat} {jti : String}
    (hnew : (i, ⟨.newId, jti⟩) ∈ w.log) (hfirst : ∀ jti, ¬ Wrote w.log i jti) :
    j ∉ attempts jti w.log := by
  intro hj
  obtain ⟨r, a, hmem, rfl⟩ := mem_attempts.1 hj
  exact h.not_seen hkept hnew hfirst (hkept.used hmem)

/-- A request that said nothing but quiet questions wrote nothing. -/
theorem not_wrote_of_quiet {log : Log} {i : Nat}
    (h : ∀ x ∈ Program.transcript i log, IsQuiet x.question) (jti : String) :
    ¬ Wrote log i jti := by
  intro hwrote
  cases hwrote with
  | create hmem => exact h _ (Program.mem_transcript.2 hmem)
  | rotate hmem => exact h _ (Program.mem_transcript.2 hmem)

/-- What a turn has to add to the invariant: the new exchange tells an id that was not given out, or
a pointer that is there, or writes a pointer under an id that is its own, or takes one away. -/
theorem turn (h : Sound w) {env : Backend} {calls : List (Request × Program _ _)} {i : Nat}
    {x : Exchange Environment.interface}
    (hids : w.env.ids ⊆ env.ids)
    (hgiven : ∀ id, x = ⟨.newId, id⟩ → id ∈ env.ids ∧ id ∉ w.env.ids)
    (hpointer : ∀ {jti p}, env.sessions.pointers.get? jti = some p →
      w.env.sessions.pointers.get? jti = some p ∧ attempt? jti (i, x) = none ∨
        Wrote [(i, x)] i jti ∧ ∀ j, j ∉ attempts jti (w.log ++ [(i, x)]))
    (hseen : ∀ jti, x = ⟨.sessions (.call (.hasJti jti)), .ok true⟩ →
      ∃ p, w.env.sessions.pointers.get? jti = some p)
    (hfirst : ∀ r id, x = ⟨.sessions (.call (.rotate r)), .ok id⟩ →
      ∃ p, w.env.sessions.pointers.get? r.oldJti = some p) :
    Sound ⟨env, calls, w.log ++ [(i, x)]⟩ := by
  have hwrote : ∀ {j jti}, Wrote w.log j jti → ∃ j, Wrote (w.log ++ [(i, x)]) j jti :=
    fun h => ⟨_, h.mono (List.subset_append_left ..)⟩
  have hsplit : ∀ {j y}, (j, y) ∈ w.log ++ [(i, x)] → (j, y) ∈ w.log ∨ j = i ∧ y = x :=
    fun hmem => (List.mem_append.1 hmem).imp_right fun h => Prod.mk.inj (List.mem_singleton.1 h)
  constructor
  case given =>
    intro j id hmem
    rcases hsplit hmem with hmem | ⟨-, hx⟩
    · exact hids (h.given hmem)
    · exact (hgiven id hx.symm).1
  case once =>
    intro j k id hj hk
    rcases hsplit hj with hold | ⟨hji, hx⟩ <;> rcases hsplit hk with hold' | ⟨hki, hx'⟩
    · exact h.once hold hold'
    · exact absurd (h.given hold) (hgiven id hx'.symm).2
    · exact absurd (h.given hold') (hgiven id hx.symm).2
    · exact hji.trans hki.symm
  case pointer =>
    intro jti p hp
    rcases hpointer hp with ⟨hold, -⟩ | ⟨hnew, -⟩
    · obtain ⟨j, hj⟩ := h.pointer hold
      exact hwrote hj
    · exact ⟨i, hnew.mono (List.subset_append_right ..)⟩
  case seen =>
    intro j jti hmem
    rcases hsplit hmem with hmem | ⟨-, hx⟩
    · obtain ⟨k, hk⟩ := h.seen hmem
      exact hwrote hk
    · obtain ⟨p, hp⟩ := hseen jti hx.symm
      obtain ⟨k, hk⟩ := h.pointer hp
      exact hwrote hk
  case spent =>
    intro j jti hj
    refine Option.eq_none_iff_forall_ne_some.2 fun p hp => ?_
    rcases hpointer hp with ⟨hold, hx⟩ | ⟨-, hnone⟩
    · have hj : j ∈ attempts jti w.log := by simpa [attempts, hx] using hj
      cases (h.spent hj).symm.trans hold
    · exact hnone j hj
  case first =>
    intro past j r id rest hlog
    rcases concat_eq_append_cons hlog with ⟨rfl, heq⟩ | ⟨rest', hlog, -⟩
    · obtain ⟨rfl, rfl⟩ := Prod.mk.inj heq
      obtain ⟨p, hp⟩ := hfirst r id rfl
      refine List.eq_nil_iff_forall_not_mem.2 fun j hj => ?_
      cases (h.spent hj).symm.trans hp
    · exact h.first hlog

/-- A question to the session store keeps the invariant, if the request may ask it. -/
theorem sessions_turn (hkept : Kept s w) (h : Sound w) {calls : List (Request × Program _ _)}
    {i : Nat} {request : Request} {q : SessionStore.Question}
    (hask : MayAsk s request (Program.transcript i w.log) (.sessions q)) :
    let answered := SessionStore.answer w.env.clock.elapsed q w.env.sessions
    Sound ⟨{ w.env with sessions := answered.2 }, calls,
      w.log ++ [(i, ⟨.sessions q, answered.1⟩)]⟩ := by
  intro answered
  cases hask with
  | quiet hquiet =>
    obtain ⟨jti, rfl⟩ : ∃ jti, q = .call (.hasJti jti) := by
      cases q with
      | indexedUsers => exact hquiet.elim
      | call c =>
        cases c with
        | hasJti jti => exact ⟨jti, rfl⟩
        | _ => exact hquiet.elim
    refine h.turn (List.Subset.refl _) (by simp) (fun hp => .inl ⟨hp, rfl⟩) (fun jti' hx => ?_)
      (by simp)
    obtain ⟨rfl, hjti⟩ := by simpa [answered, SessionStore.answer] using hx
    obtain ⟨id, hid⟩ := Option.isSome_iff_exists.1 hjti
    obtain ⟨p, hp, -⟩ := SessionStore.pointer?_eq_some_iff.1 hid
    exact ⟨p, hp⟩
  | @create input _ session ttls hnew hfirst =>
    have hsilent := not_wrote_of_quiet hfirst
    have hnew := Program.mem_transcript.1 hnew
    refine h.turn (List.Subset.refl _) (by simp) (fun {jti p} hp => ?_) (by simp) (by simp)
    cases hvalid : ttls.isValid with
    | false =>
      have hanswered : answered = (.error .ttlsNotPositive, w.env.sessions) := by
        simp [answered, SessionStore.answer, SessionStore.create, hvalid]
      rw [hanswered] at hp
      exact .inl ⟨hp, rfl⟩
    | true =>
      have hanswered : answered = (.ok (), SessionStore.opened w.env.clock.elapsed w.env.sessions
          session ttls) := by
        simp [answered, SessionStore.answer, SessionStore.create, hvalid, SessionStore.opened]
      rw [hanswered] at hp ⊢
      rw [SessionStore.pointers_opened, Table.get?_set_eq_some_iff] at hp
      rcases hp with ⟨rfl, -⟩ | ⟨-, hp⟩
      · refine .inr ⟨.create (List.mem_singleton_self _), fun j hj => ?_⟩
        exact h.not_attempted hkept hnew hsilent (by simpa [attempts, attempt?] using hj)
      · exact .inl ⟨hp, rfl⟩
  | @rotate input _ r claims _ _ hused hnew hfirst hvalid =>
    have hsilent := not_wrote_of_quiet hfirst
    have hnew := Program.mem_transcript.1 hnew
    have hused := Program.mem_transcript.1 hused
    -- the new token is not the old one, which was seen in use
    have hne : r.oldJti ≠ r.newJti := fun heq => h.not_seen hkept hnew hsilent (heq ▸ hused)
    refine h.turn (List.Subset.refl _) (by simp) (fun {jti p} hp => ?_) (by simp) fun r' id hx => ?_
    · rcases SessionStore.pointer_of_rotate _ _ hvalid hp with ⟨hold, hp⟩ | ⟨rfl, id, hok⟩
      · exact .inl ⟨hp, by simp [attempt?, Ne.symm hold]⟩
      · refine .inr ⟨?_, fun j hj => ?_⟩
        · have hanswered : answered.1 = .ok id := hok
          rw [hanswered]
          exact .rotate (List.mem_singleton_self _)
        · refine h.not_attempted hkept hnew hsilent (j := j) ?_
          simpa [attempts, attempt?, hne] using hj
    · obtain ⟨rfl, hok⟩ := by simpa [answered, SessionStore.answer] using hx
      obtain ⟨-, hptr, -⟩ := (SessionStore.rotate_eq_ok_iff _ _).1 hok
      obtain ⟨p, hp, -⟩ := SessionStore.pointer?_eq_some_iff.1 hptr
      exact ⟨p, hp⟩

end Sound

/-- The invariant holds in every world. -/
theorem sound_of_reachable {s : Setup} {clock : Clock} {w : World}
    (h : (system s).Reachable ⟨clock, .empty, []⟩ w) : Sound w := by
  induction h with
  | refl =>
    have hnil : ∀ {β : Type} {a : β} {past rest : List β}, [] ≠ past ++ a :: rest := by simp
    exact ⟨nofun, nofun, nofun, nofun, nofun, fun h => absurd h hnil⟩
  | @tail w w' hsteps hstep ih =>
    have hkept : Kept s w := Program.System.Reachable.kept hsteps fun r => keeps_body r
    cases hstep with
    | arrive => exact ⟨ih.given, ih.once, ih.pointer, ih.seen, ih.spent, ih.first⟩
    | pass hpass =>
      cases hpass with
      | advance => exact ⟨ih.given, ih.once, ih.pointer, ih.seen, ih.spent, ih.first⟩
    | @turn i r q next a env hcall hresponds =>
      cases hresponds with
      | now =>
        exact ih.turn (List.Subset.refl _) (by simp) (fun hp => .inl ⟨hp, rfl⟩) (by simp) (by simp)
      | @newId id hnew =>
        refine ih.turn (List.subset_cons_self ..) ?_ (fun hp => .inl ⟨hp, rfl⟩) (by simp) (by simp)
        rintro id' ⟨⟩
        exact ⟨List.mem_cons_self .., hnew⟩
      | sessions q => exact ih.sessions_turn hkept (hkept.calls hcall).1
      | foreign h =>
        refine ih.turn (List.Subset.refl _) ?_ (fun hp => .inl ⟨hp, ?_⟩) ?_ ?_
        · rintro id ⟨⟩
          exact h.elim
        · cases q <;> first | rfl | exact h.elim
        · rintro jti ⟨⟩
          exact h.elim
        · rintro r id ⟨⟩
          exact h.elim

/-! ## Single use -/

/-- A request is a refresh with the token of a given id. -/
def Presents (s : Setup) (w : World) (k : Nat) (jti : String) : Prop :=
  ∃ input claims, w.request? k = some (.refresh input) ∧
    s.codec.verify input.refreshToken = .ok claims ∧ claims.jti = jti

/-- A request that does not come to exchange a token any more: another request tried before it, or
it ended before it tried, or its own exchange was refused. -/
inductive Loses (w : World) (k : Nat) (jti : String) : Prop
  | late (hfirst : (attempts jti w.log).head? ≠ some k) (htried : attempts jti w.log ≠ [])
  | ended (hfirst : (attempts jti w.log).head? ≠ some k) {result : Except Error Tokens}
      (hresult : w.result? k = some result)
  | refused {r : Rotation} {e : Error}
      (hmem : (k, ⟨.sessions (.call (.rotate r)), .error e⟩) ∈ w.log)

section SingleUse

variable {s : Setup} {w w' : World} {k : Nat} {jti : String}

theorem Presents.mono (h : Presents s w k jti) (hsteps : (system s).Steps w w') :
    Presents s w' k jti := by
  obtain ⟨input, claims, hrequest, hclaims⟩ := h
  exact ⟨input, claims, hsteps.request? hrequest, hclaims⟩

/-- A refresh exchanges the token that it presents. -/
theorem Presents.oldJti (h : Presents s w k jti) (hkept : Kept s w) {r : Rotation}
    {a : Except Error String} (hmem : (k, ⟨.sessions (.call (.rotate r)), a⟩) ∈ w.log) :
    r.oldJti = jti := by
  obtain ⟨input, claims, hrequest, hclaims, rfl⟩ := h
  obtain ⟨past, -, request, hrequest', hask⟩ := hkept.mayAsk hmem
  obtain rfl : request = .refresh input := Option.some.inj (hrequest'.symm.trans hrequest)
  cases hask with
  | quiet h => exact h.elim
  | rotate hclaims' hjti =>
    obtain rfl := Except.ok.inj (hclaims.symm.trans hclaims')
    exact hjti.symm

/-- A refresh writes a token only by an exchange. -/
theorem Presents.exchanged (h : Presents s w k jti) (hkept : Kept s w) {new : String}
    (hwrote : Wrote w.log k new) :
    ∃ r id, (k, ⟨.sessions (.call (.rotate r)), .ok id⟩) ∈ w.log := by
  cases hwrote with
  | rotate hmem => exact ⟨_, _, hmem⟩
  | create hmem =>
    obtain ⟨input, claims, hrequest, -, -⟩ := h
    obtain ⟨past, -, request, hrequest', hask⟩ := hkept.mayAsk hmem
    obtain rfl : request = .refresh input := Option.some.inj (hrequest'.symm.trans hrequest)
    cases hask with
    | quiet h => exact h.elim

/-- A refresh that succeeds exchanged its token. -/
theorem Presents.exchanged_of_ok (h : Presents s w k jti) (hkept : Kept s w) {tokens : Tokens}
    (hok : w.result? k = some (.ok tokens)) :
    ∃ r id, (k, ⟨.sessions (.call (.rotate r)), .ok id⟩) ∈ w.log := by
  obtain ⟨input, claims, hrequest, -, -⟩ := h
  obtain ⟨request, hcall⟩ := Program.World.result?_eq_some_iff.1 hok
  obtain rfl : request = .refresh input := by
    rw [Program.World.request?, hcall] at hrequest
    exact Option.some.inj hrequest
  obtain ⟨r, id, hmem⟩ := hkept.calls hcall
  exact ⟨r, id, Program.mem_transcript.1 hmem⟩

/-- An exchange that succeeds is the first one that was tried. -/
theorem Sound.head?_attempts (h : Sound w) {r : Rotation} {id : String}
    (hmem : (k, ⟨.sessions (.call (.rotate r)), .ok id⟩) ∈ w.log) :
    (attempts r.oldJti w.log).head? = some k := by
  obtain ⟨past, rest, hlog⟩ := List.append_of_mem hmem
  rw [hlog, attempts_append, h.first hlog]
  simp [attempts, attempt?]

/-- A request that loses never exchanges its token, whatever happens later. -/
theorem Loses.not_exchanged (hloses : Loses w k jti) (hpresents : Presents s w k jti)
    (hkept : Kept s w') (hsound : Sound w) (hsound' : Sound w') (hsteps : (system s).Steps w w')
    {r : Rotation} {id : String} :
    (k, ⟨.sessions (.call (.rotate r)), .ok id⟩) ∉ w'.log := by
  intro hmem
  have hjti := (hpresents.mono hsteps).oldJti hkept hmem
  cases hloses with
  | late hfirst htried =>
    obtain ⟨more, hmore⟩ := hsteps.log_prefix
    obtain ⟨i, others, hi⟩ := List.exists_cons_of_ne_nil htried
    have hhead := hsound'.head?_attempts hmem
    rw [hjti, ← hmore, attempts_append, hi] at hhead
    rw [hi] at hfirst
    exact hfirst hhead
  | ended hfirst hresult =>
    have hold : (k, ⟨.sessions (.call (.rotate r)), .ok id⟩) ∈ w.log := by
      rwa [← Program.mem_transcript, (hsteps.done hresult).2, Program.mem_transcript] at hmem
    exact hfirst (hjti ▸ hsound.head?_attempts hold)
  | refused hrefused =>
    have heq := hkept.once (hsteps.log_prefix.subset hrefused) hmem not_false not_false
    injection heq with hq ha
    cases hq
    cases ha

/-- **Refresh tokens are used once.**  Of all requests that present a token, however their steps and
those of others are interleaved, at most one succeeds, and that is the first to try the exchange.
One that loses has no other end than an error, and no id that was given out to it ever leads to a
session. -/
theorem refresh_single_use {clock : Clock}
    (h : (system s).Reachable ⟨clock, .empty, []⟩ w) (jti : String) :
    (∀ k k' tokens tokens', Presents s w k jti → Presents s w k' jti →
      w.result? k = some (.ok tokens) → w.result? k' = some (.ok tokens') → k = k') ∧
    (∀ k tokens, Presents s w k jti → w.result? k = some (.ok tokens) →
      (attempts jti w.log).head? = some k) ∧
    ∀ k, Presents s w k jti → Loses w k jti → ∀ w', (system s).Steps w w' →
      (∀ result, w'.result? k = some result → ∃ e, result = .error e) ∧
      ∀ id, (k, ⟨.newId, id⟩) ∈ w'.log →
        w'.env.sessions.hasJti w'.env.clock.elapsed id = false := by
  have kept : ∀ {w : World}, (system s).Reachable ⟨clock, .empty, []⟩ w → Kept s w :=
    fun h => Program.System.Reachable.kept h keeps_body
  have first : ∀ k tokens, Presents s w k jti → w.result? k = some (.ok tokens) →
      (attempts jti w.log).head? = some k := by
    intro k tokens hpresents hok
    obtain ⟨r, id, hmem⟩ := hpresents.exchanged_of_ok (kept h) hok
    exact hpresents.oldJti (kept h) hmem ▸ (sound_of_reachable h).head?_attempts hmem
  refine ⟨fun k k' tokens tokens' hk hk' hok hok' => ?_, first, ?_⟩
  · exact Option.some.inj ((first k tokens hk hok).symm.trans (first k' tokens' hk' hok'))
  intro k hpresents hloses w' hsteps
  have h' : (system s).Reachable ⟨clock, .empty, []⟩ w' := h.trans hsteps
  have hpresents' := hpresents.mono hsteps
  have hnever : ¬ ∃ r id, (k, ⟨.sessions (.call (.rotate r)), .ok id⟩) ∈ w'.log :=
    fun ⟨_, _, hmem⟩ => hloses.not_exchanged hpresents (kept h') (sound_of_reachable h)
      (sound_of_reachable h') hsteps hmem
  constructor
  · intro result hresult
    cases result with
    | error e => exact ⟨e, rfl⟩
    | ok tokens => exact absurd (hpresents'.exchanged_of_ok (kept h') hresult) hnever
  · intro id hnew
    refine SessionStore.hasJti_eq_false_iff.2 (Option.eq_none_iff_forall_ne_some.2 fun i hi => ?_)
    obtain ⟨p, hp, -⟩ := SessionStore.pointer?_eq_some_iff.1 hi
    obtain ⟨j, hwrote⟩ := (sound_of_reachable h').pointer hp
    obtain rfl := (sound_of_reachable h').once hnew ((kept h').minted hwrote)
    exact hnever (hpresents'.exchanged (kept h') hwrote)

open FirstLogin Sample in
/-- Of two refreshes that both find the token of a first login in use, the first to try the exchange
succeeds, and the other is refused. -/
theorem refresh_single_use_firstLogin : ∃ w t,
    (system setup).Reachable ⟨process.clock, .empty, []⟩ w ∧
      Presents setup w 1 "x" ∧ Presents setup w 2 "x" ∧
      w.result? 1 = some (.ok t) ∧ w.result? 2 = some (.error .refreshTokenSpent) ∧
        (attempts "x" w.log).head? = some 1 ∧
          ∀ w', (system setup).Steps w w' → ∀ id, (2, ⟨.newId, id⟩) ∈ w'.log →
            w'.env.sessions.hasJti w'.env.clock.elapsed id = false := by
  let first : Request := .login input
  let second : Request := .refresh again
  obtain ⟨_, hlogin, -⟩ := runOn_process
  obtain ⟨p, d₁, p', d₂, t, d₃, d₄, hprepared, hprepared', hexchanged, hrefused⟩ := runOn_contested
  -- all three requests arrive, the login is run to its end, and then the refreshes are interleaved
  have harrive : (system setup).Reachable ⟨process.clock, .empty, []⟩ ⟨.ofProcess supply process,
      [(first, first.body setup), (second, second.body setup), (second, second.body setup)], []⟩ :=
    ((Relation.ReflTransGen.single (.arrive _ first)).tail (.arrive _ second)).tail
      (.arrive _ second)
  obtain ⟨w₀, h₀⟩ := brings_done (s := setup) (i := 0) injective_ids rfl rfl hlogin
    (w := ⟨.ofProcess supply process,
      [(first, first.body setup), (second, second.body setup), (second, second.body setup)], []⟩)
    rfl
  obtain ⟨w, hsteps, hok, herror⟩ := steps_contested injective_ids h₀.env h₀.reachable (by decide)
    ((h₀.others (j := 1) (by decide)).trans rfl) ((h₀.others (j := 2) (by decide)).trans rfl)
    hprepared hprepared' hexchanged hrefused
  have hreach := (harrive.trans h₀.steps).trans hsteps
  have hrest : (system setup).Steps _ w := h₀.steps.trans hsteps
  have hone : Presents setup w 1 "x" := ⟨again, claims, hrest.request? rfl, verify_again, rfl⟩
  have htwo : Presents setup w 2 "x" := ⟨again, claims, hrest.request? rfl, verify_again, rfl⟩
  obtain ⟨-, hfirst, hlosers⟩ := refresh_single_use hreach "x"
  have hhead := hfirst 1 t hone hok
  have hloses : Loses w 2 "x" := .ended (by rw [hhead]; decide) herror
  exact ⟨w, t, hreach, hone, htwo, hok, herror, hhead,
    fun w' hw' id hid => (hlosers 2 htwo hloses w' hw').2 id hid⟩

end SingleUse

end Auth
end SessionAuth
