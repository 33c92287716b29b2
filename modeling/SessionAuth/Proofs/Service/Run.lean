import Mathlib.Logic.Relation
import SessionAuth.Proofs.Service.Operation
import SessionAuth.Proofs.Token.Codec

/-!
# Runs of the service

A process runs operations one after the other, in any order and with any arguments.  In between time
passes, the cache loses entries, sessions are swept, and handlers of events that were published run,
each at any later time or never.  `Service.Reachable` has what can become of a process in this way,
together with all tokens that it has given out.

`Service.reachable_settled` and `Service.reachable_minted` are what is always true: the cache agrees
with the repository, and every access token that was given out says what a token of its session
should.
-/

set_option autoImplicit false

namespace SessionAuth

open Environment Fallible Deployment Text

/-! ## Steps -/

/-- A process, and the tokens that it gave out. -/
structure Service where
  process : Deployment
  issued : List Auth.Tokens

/-- Whether the time can be written into a new access token: it is not before the epoch, and the end
of the lifetime has sixty-four bits. -/
structure Setup.Dates (s : Setup) (now : Timestamp) : Prop where
  nonneg : 0 ≤ now.seconds
  representable : now.seconds + s.codec.accessTtl ≤ maxInt64

namespace Service

/-- The service after an operation, in which a new user, if any, gets the given id. -/
def perform (s : Setup) (f : Supply) (w : Service) (next : UserId) {α : Type}
    (op : Operation α) : Service :=
  let start : Deployment :=
    { w.process with users := { w.process.users with nextId := next } }
  let (result, process) := (op.body s).runOn (serve f) start
  ⟨process, w.issued ++ match result with
    | .ok a => op.tokens a
    | .error _ => []⟩

/-- What can happen next. -/
inductive Step (s : Setup) (f : Supply) (w : Service) : Service → Prop
  /-- An operation is run.  If it creates a user, the id is one that nobody has. -/
  | perform {α : Type} (op : Operation α) {next : UserId}
      (hnext : w.process.users.users.get? next = none) : Step s f w (w.perform s f next op)
  /-- One of the handlers that wait runs. -/
  | handle {before after : List (Invalidator × Event)} {task : Invalidator × Event}
      (htasks : w.process.tasks = before ++ task :: after) :
      Step s f w { w with process :=
        ((task.1.handle task.2).runOn (serve f) { w.process with tasks := before ++ after }).2 }
  /-- The sessions are swept. -/
  | sweep : Step s f w { w with process :=
      ((sessions SessionStore.sweepAll).runOn (serve f) w.process).2 }
  /-- The cache loses an entry. -/
  | evict (key : String) : Step s f w { w with process :=
      { w.process with cache := ⟨w.process.cache.entries.erase key⟩ } }
  /-- Time passes. -/
  | advance {clock : Clock} (hwall : w.process.clock.wall.seconds ≤ clock.wall.seconds)
      (helapsed : w.process.clock.elapsed ≤ clock.elapsed) (hdates : s.Dates clock.wall) :
      Step s f w { w with process := { w.process with clock := clock } }

/-- A service that starts with any accounts and permissions, but without sessions. -/
structure IsStart (s : Setup) (w : Service) : Prop where
  inReach : w.process.InReach
  sessions : w.process.sessions = .empty
  cache : w.process.cache = .empty
  tasks : w.process.tasks = []
  issued : w.issued = []
  dates : s.Dates w.process.clock.wall

/-- What can become of a service. -/
inductive Reachable (s : Setup) (f : Supply) : Service → Prop
  | start {w : Service} (h : IsStart s w) : Reachable s f w
  | step {w w' : Service} (h : Reachable s f w) (hstep : Step s f w w') : Reachable s f w'

variable {s : Setup} {f : Supply} {w : Service}

/-! ## The cache -/

/-- A step keeps the cache right. -/
theorem Step.settled {w' : Service} (hstep : Step s f w w') (h : w.process.Settled none) :
    w'.process.Settled none := by
  cases hstep with
  | @perform α op next hnext =>
    have hstart := h.set w.process.clock w.process.tasks next
    exact op.settles.run _ ⟨hstart, UserTable.facts?_eq_none_iff.2 hnext⟩
  | @handle before after task htasks =>
    refine (Invalidator.consults_handle task.1 task.2).preserves_settled.run _ ?_
    exact h.set w.process.clock (before ++ after) w.process.users.nextId
  | sweep => exact (preserves_settled (asks_sweepAll trivial fun _ => trivial)).run _ h
  | evict key => exact h.evict key
  | advance => exact h.set _ w.process.tasks w.process.users.nextId

/-- **The cache agrees with the repository.**  So it does in whatever becomes of the service. -/
theorem reachable_settled (h : Reachable s f w) : w.process.Settled none := by
  induction h with
  | start h =>
    refine ⟨h.inReach, fun _ he => ?_, fun he => ?_⟩
    · rw [h.cache] at he
      cases he
    · rw [h.sessions] at he
      cases he
  | step _ hstep ih => exact hstep.settled ih

end Service

/-! ## The tokens that were given out -/

/-- An access token that was made up to some time, and says what a token of its session should. -/
inductive Minted (s : Setup) (now : Timestamp) (t : Auth.Tokens) : Prop
  | intro {made : Timestamp} {user : UserId} {jti : String} (hmade : made.seconds ≤ now.seconds)
      (hdates : s.Dates made) (hissuable : Codec.Issuable user jti s.codec.accessTtl)
      (hsession : t.sessionId.isEmpty = false)
      (htoken : t.accessToken = s.codec.encode
        (Codec.claimsAt made .access user t.sessionId jti s.codec.accessTtl))

section Minted

variable {s : Setup} {f : Supply} {now : Timestamp}

theorem Minted.mono {later : Timestamp} {t : Auth.Tokens} (h : Minted s now t)
    (hle : now.seconds ≤ later.seconds) : Minted s later t := by
  obtain ⟨hmade, hdates, hissuable, hsession, htoken⟩ := h
  exact ⟨hmade.trans hle, hdates, hissuable, hsession, htoken⟩

/-- What a program gives out, if anything, is minted. -/
abbrev Mints (s : Setup) (f : Supply) (now : Timestamp) (p : UseCase Auth.Tokens) : Prop :=
  Triple (serve f) (fun d => d.clock.wall = now) p fun r _ => ∀ t, r = .ok t → Minted s now t

/-- Whatever comes before, what is minted in the end is minted now. -/
theorem Mints.bind {α : Type} {p : UseCase α} {k : α → UseCase Auth.Tokens}
    (h : ∀ a, Mints s f now (k a)) : Mints s f now (p >>= k) := by
  have hclock : Preserves (serve f) (fun d => d.clock.wall = now) p := by
    refine Preserves.of_all (fun q d hd => ?_) p
    rw [clock_serve]
    exact hd
  exact Preserves.triple_bind hclock h fun _ _ _ _ hr => by cases hr

/-- A program that fails mints nothing. -/
theorem Mints.throw_bind {α : Type} {e : Error} {k : α → UseCase Auth.Tokens} :
    Mints s f now (throw e >>= k) :=
  Triple.throw_bind fun _ _ _ hr => by cases hr

theorem mints_completePair (hdates : s.Dates now) (user : UserId) (session : String)
    (refresh : Codec.Issued) : Mints s f now (Auth.completePair s user session refresh) := by
  refine Mints.bind fun jti => ⟨fun d hd t ht => ?_⟩
  subst hd
  rw [runOn_bind_of_ok _ _ (runOn_now _ _), runOn_bind, runOn_lift] at ht
  cases hissue : s.codec.issueAccess d.clock.wall user session jti s.codec.accessTtl with
  | error e =>
    simp only [serve, answer, hissue] at ht
    cases ht
  | ok access =>
    obtain ⟨hsession, hissuable, htoken, hclaims⟩ := Codec.issueAccess_eq_ok_iff.1 hissue
    simp only [serve, answer, hissue] at ht
    cases ht
    refine ⟨le_refl _, hdates, hissuable, hsession, ?_⟩
    exact htoken.symm.trans (congrArg s.codec.encode hclaims.symm)

theorem mints_login (hdates : s.Dates now) (input : Auth.Login) :
    Mints s f now (Auth.login s input) := by
  simp only [Auth.login]
  split
  · exact Mints.throw_bind
  refine Mints.bind fun user => Mints.bind fun _ => Mints.bind fun issued => ?_
  exact Mints.bind fun id => mints_completePair hdates _ _ _

theorem mints_refresh (hdates : s.Dates now) (input : Auth.Refresh) :
    Mints s f now (Auth.refresh s input) := by
  refine Mints.bind fun now => Mints.bind fun claims => Mints.bind fun used => ?_
  dsimp only
  split
  · exact Mints.throw_bind
  refine Mints.bind fun facts => Mints.bind fun issued => ?_
  exact Mints.bind fun id => mints_completePair hdates _ _ _

/-- What an operation gives out is minted. -/
theorem Operation.mints {α : Type} (op : Operation α) (hdates : s.Dates now) :
    Triple (serve f) (fun d => d.clock.wall = now) (op.body s) fun r _ =>
      ∀ a, r = .ok a → ∀ t ∈ op.tokens a, Minted s now t := by
  have hnone : ∀ {β : Type} (p : UseCase β) {ts : β → List Auth.Tokens}, (∀ b, ts b = []) →
      Triple (serve f) (fun d => d.clock.wall = now) p fun r _ =>
        ∀ b, r = .ok b → ∀ t ∈ ts b, Minted s now t :=
    fun p ts hts => ⟨fun d hd b hb t ht => absurd (hts b ▸ ht) (by simp)⟩
  cases op with
  | login input =>
    refine (mints_login hdates input).mono (fun _ hd => hd) fun r d hr t ht => ?_
    exact List.forall_mem_singleton.2 (hr t ht)
  | refresh input =>
    refine (mints_refresh hdates input).mono (fun _ hd => hd) fun r d hr t ht => ?_
    exact List.forall_mem_singleton.2 (hr t ht)
  | _ => exact hnone _ fun _ => rfl

end Minted

namespace Service

variable {s : Setup} {f : Supply} {w : Service}

/-- **Tokens are what they should be.**  The time can always be written into a token, and all tokens
that were given out are minted. -/
theorem reachable_minted (h : Reachable s f w) :
    s.Dates w.process.clock.wall ∧ ∀ t ∈ w.issued, Minted s w.process.clock.wall t := by
  induction h with
  | start h => exact ⟨h.dates, by simp [h.issued]⟩
  | @step w w' _ hstep ih =>
    obtain ⟨hdates, hissued⟩ := ih
    cases hstep with
    | @perform α op next hnext =>
      have hmints := (op.mints (f := f) hdates).run
        { w.process with users := { w.process.users with nextId := next } } rfl
      have hclock : (w.perform s f next op).process.clock = w.process.clock := clock_run _ _
      rw [hclock]
      refine ⟨hdates, fun t ht => ?_⟩
      rcases List.mem_append.1 ht with ht | ht
      · exact hissued t ht
      · split at ht
        · rename_i a ha
          exact hmints a ha t ht
        · cases ht
    | handle | sweep =>
      dsimp only
      rw [clock_run]
      exact ⟨hdates, hissued⟩
    | evict => exact ⟨hdates, hissued⟩
    | advance hwall _ hdates' => exact ⟨hdates', fun t ht => (hissued t ht).mono hwall⟩

end Service
end SessionAuth
