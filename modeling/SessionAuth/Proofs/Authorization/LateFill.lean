import SessionAuth.Proofs.Authorization.Promises
import SessionAuth.Proofs.Authorization.Transparent
import SessionAuth.Proofs.Program.Concurrent
import SessionAuth.Proofs.Service.Process

/-!
# Entries that are filled too late

Facts and permissions are read while accounts and roles are changed, and while the handlers run to
which changes are published.  A read looks into the cache, asks the repository and fills the cache,
and anything may happen between these three steps.

An entry can be out of date when all is done, then, and stay so until it expires
(`not_always_upToDate`): the change with all its evictions falls between the question to the
repository and the fill.  Nothing notices, since an entry says nothing of when it was read.

This is the only way.  By `upToDate_or_lateFill` an entry is up to date when all is done, unless
there was such a `LateFill` of it, and without any later decisions do not show the cache.
-/

set_option autoImplicit false

namespace SessionAuth
namespace Authorization

open Environment Fallible

variable {κ ρ : Type} {b : Surroundings κ ρ} {holds : κ → String → String → Prop} {s : Setup}

/-! ## Requests side by side -/

/-- A repository is out of reach. -/
inductive Fails : Exchange Environment.interface → Prop
  | users {c : UserRepository.Call} {e : Error} : Fails ⟨.users c, .error e⟩
  | grants {c : Grants.Call} {e : Error} : Fails ⟨.grants c, .error e⟩

/-- Requests that run side by side, with repositories that may be out of reach and a cache that may
lose entries at any time. -/
def system (s : Setup) (b : Surroundings κ ρ) (holds : κ → String → String → Prop) :
    Program.System Environment.interface Request (Except Error Unit) (Parts κ ρ) where
  body r := (r.useCase s).run
  Responds w x w' :=
    x.answer = (b.answer x.question w).1 ∧ w' = (b.answer x.question w).2 ∨ Fails x ∧ w' = w
  Passes w w' := ∃ cache rest, w' = { w with cache := cache, rest := rest } ∧
    ∀ key text, holds cache key text → holds w.cache key text

/-- The exchanges of all requests. -/
abbrev Log : Type := List (Nat × Exchange Environment.interface)

/-- Whether nothing in a log deletes the entry of a subject. -/
def Undisturbed (subject : Subject) (log : Log) : Prop :=
  ∀ x ∈ log, x.2.question ≠ .cache (.delete subject.key)

/-- A request was told what the entry of a subject has to be, and wrote it into the cache only after
another request had changed the subject and had deleted the entry; it was not deleted since. -/
inductive LateFill (subject : Subject) (log : Log) : Prop
  | intro {i j : Nat} {past before clearing after rest : Log}
      {told changed : Exchange Environment.interface} {text : String} {nanos : Nat}
      {deleted written : Except Error Unit}
      (hlog : log = past ++ (i, told) :: (before ++ (j, changed) :: (clearing ++
        (j, ⟨.cache (.delete subject.key), deleted⟩) :: (after ++
          (i, ⟨.cache (.set subject.key text nanos), written⟩) :: rest))))
      (htold : Tells told subject text) (hchanged : Changes changed subject)
      (hrest : Undisturbed subject rest)

/-- Whether the entries of a process are up to date. -/
def UpToDate (holds : κ → String → String → Prop) (w : Parts κ ρ) : Prop :=
  ∀ subject text, holds w.cache subject.key text → w.text? subject = some text

/-- A process whose entries are up to date is in step with itself. -/
theorem UpToDate.inStep {w : Parts κ ρ} (h : UpToDate holds w) : InStep holds none w w :=
  ⟨⟨rfl, rfl, rfl, rfl⟩, fun _ hholds => h _ _ hholds⟩

/-! ## What a log says of the cache -/

section Answers

variable {w : Parts κ ρ} {x : Exchange Environment.interface} {subject : Subject} {text : String}

/-- What is told is so. -/
theorem text?_of_tells (hx : x.answer = (b.answer x.question w).1) (h : Tells x subject text) :
    (b.answer x.question w).2.text? subject = some text := by
  cases h with
  | user =>
    have hu := (Except.ok.inj hx).symm
    exact Option.map_eq_some_iff.2 ⟨_, UserTable.facts?_eq_some_iff.2 ⟨_, hu, rfl⟩, rfl⟩
  | role =>
    have hheld := Except.ok.inj hx
    rw [hheld]
    rfl

/-- What there is to say of a subject stays so until the subject is changed. -/
theorem changes_or_text? (hx : x.answer = (b.answer x.question w).1)
    (hcreate : ∀ new, x.question ≠ .users (.create new)) (h : w.text? subject = some text) :
    Changes x subject ∨ (b.answer x.question w).2.text? subject = some text := by
  by_cases htarget : w.target? x.question = some subject
  case neg => exact .inr ((Parts.text?_answer htarget).trans h)
  obtain ⟨q, a⟩ := x
  obtain rfl : a = (b.answer q w).1 := hx
  cases q with
  | users c =>
    have hthere : ∀ {id}, subject = .user id → (w.users.users.get? id).isSome = true := by
      rintro id rfl
      obtain ⟨facts, hfacts, -⟩ := Option.map_eq_some_iff.1 h
      obtain ⟨u, hu, -⟩ := UserTable.facts?_eq_some_iff.1 hfacts
      rw [hu, Option.isSome_some]
    cases c with
    | create new => exact absurd rfl (hcreate new)
    | setRole id r =>
      obtain rfl := Option.some.inj htarget
      have hanswer : (b.answer (.users (.setRole id r)) w).1 = .ok true :=
        congrArg Except.ok (hthere rfl)
      exact .inl (hanswer ▸ .setRole)
    | setStatus id status =>
      obtain rfl := Option.some.inj htarget
      have hanswer : (b.answer (.users (.setStatus id status)) w).1 = .ok true :=
        congrArg Except.ok (hthere rfl)
      exact .inl (hanswer ▸ .setStatus)
    | delete id =>
      obtain rfl := Option.some.inj htarget
      have hanswer : (b.answer (.users (.delete id)) w).1 = .ok true :=
        congrArg Except.ok (hthere rfl)
      exact .inl (hanswer ▸ .delete)
    | _ => cases htarget
  | grants c =>
    cases c with
    | ofRole => cases htarget
    | grant r p =>
      obtain rfl := Option.some.inj htarget
      by_cases hheld : p ∈ (w.grants.ofRole r).toList
      · exact .inr ((Parts.text?_grant_of_mem hheld _).trans h)
      · have hanswer : (b.answer (.grants (.grant r p)) w).1 = .ok true :=
          congrArg Except.ok (by simpa using hheld)
        exact .inl (hanswer ▸ .grant)
    | revoke r p =>
      obtain rfl := Option.some.inj htarget
      by_cases hheld : p ∈ (w.grants.ofRole r).toList
      · have hanswer : (b.answer (.grants (.revoke r p)) w).1 = .ok true :=
          congrArg Except.ok (by simpa using hheld)
        exact .inl (hanswer ▸ .revoke)
      · exact .inr ((Parts.text?_revoke_of_not_mem hheld _).trans h)
  | _ => cases htarget

end Answers

/-- What is known of a process and the log of all that happened to it since it started. -/
structure Sound (holds : κ → String → String → Prop) (start w : Parts κ ρ) (log : Log) : Prop where
  /-- An entry stems from the start or was written, and was not deleted since. -/
  entries : ∀ {subject : Subject} {text : String}, holds w.cache subject.key text →
    start.text? subject = some text ∧ Undisturbed subject log ∨
      ∃ past i nanos written rest,
        log = past ++ (i, ⟨.cache (.set subject.key text nanos), written⟩) :: rest ∧
          Undisturbed subject rest
  /-- What was so at the start is so until it is changed. -/
  started : ∀ {subject : Subject} {text : String}, start.text? subject = some text →
    (∃ x ∈ log, Changes x.2 subject) ∨ w.text? subject = some text
  /-- What was told is so until it is changed. -/
  told : ∀ {past rest : Log} {i : Nat} {x : Exchange Environment.interface} {subject : Subject}
    {text : String}, log = past ++ (i, x) :: rest → Tells x subject text →
      (∃ y ∈ rest, Changes y.2 subject) ∨ w.text? subject = some text

namespace Sound

variable {start w : Parts κ ρ} {log : Log}

/-- A process stays sound if its repositories stay as they are and its cache gets no entry. -/
theorem lapse (h : Sound holds start w log) {cache : κ}
    (hcache : ∀ key text, holds cache key text → holds w.cache key text) (rest : ρ) :
    Sound holds start { w with cache := cache, rest := rest } log :=
  ⟨fun hholds => h.entries (hcache _ _ hholds), h.started, h.told⟩

/-- What an exchange has to keep to: it adds no entry but the one that it writes, deletes what it is
to delete, tells what is so, and leaves so what it does not change. -/
theorem turn (h : Sound holds start w log) {w' : Parts κ ρ} {x : Exchange Environment.interface}
    (hentries : ∀ {subject : Subject} {text}, holds w'.cache subject.key text →
      holds w.cache subject.key text ∧ x.question ≠ .cache (.delete subject.key) ∨
        ∃ nanos written, x = ⟨.cache (.set subject.key text nanos), written⟩)
    (htold : ∀ {subject text}, Tells x subject text → w'.text? subject = some text)
    (hkept : ∀ {subject text}, w.text? subject = some text →
      Changes x subject ∨ w'.text? subject = some text) (i : Nat) :
    Sound holds start w' (log ++ [(i, x)]) where
  entries := by
    intro subject text hholds
    rcases hentries hholds with ⟨hholds, hdelete⟩ | ⟨nanos, written, rfl⟩
    · have hlast : Undisturbed subject [(i, x)] := List.forall_mem_singleton.2 hdelete
      rcases h.entries hholds with ⟨hstart, hlog⟩ | ⟨past, i', nanos, written, rest, rfl, hrest⟩
      · exact .inl ⟨hstart, List.forall_mem_append.2 ⟨hlog, hlast⟩⟩
      · exact .inr ⟨past, i', nanos, written, rest ++ [(i, x)], by simp,
          List.forall_mem_append.2 ⟨hrest, hlast⟩⟩
    · exact .inr ⟨log, i, nanos, written, [], rfl, List.forall_mem_nil _⟩
  started := by
    intro subject text hstart
    exact exists_mem_concat_or (h.started hstart) hkept
  told := by
    intro past rest i' y subject text hlog htells
    rcases concat_eq_append_cons hlog with ⟨-, heq⟩ | ⟨rest', hplace, rfl⟩
    · obtain ⟨rfl, rfl⟩ := Prod.mk.inj heq
      exact .inr (htold htells)
    · exact exists_mem_concat_or (h.told hplace htells) hkept

/-- The answer to a question keeps a process sound. -/
theorem answer (hcache : Unreliable b.cache holds) (h : Sound holds start w log)
    {x : Exchange Environment.interface} (hx : x.answer = (b.answer x.question w).1)
    (hcreate : ∀ new, x.question ≠ .users (.create new)) (i : Nat) :
    Sound holds start (b.answer x.question w).2 (log ++ [(i, x)]) := by
  refine h.turn ?_ (text?_of_tells hx) (changes_or_text? hx hcreate) i
  intro subject text hholds
  obtain ⟨q, a⟩ := x
  cases q with
  | cache c =>
    rcases hcache.kept hholds with hholds' | ⟨nanos, rfl⟩
    · refine .inl ⟨hholds', ?_⟩
      rintro ⟨⟩
      exact hcache.deleted hholds
    · exact .inr ⟨nanos, a, rfl⟩
  | _ => exact .inl ⟨hholds, nofun⟩

/-- A repository that is out of reach tells nothing and changes nothing. -/
theorem fail (h : Sound holds start w log) {x : Exchange Environment.interface} (hx : Fails x)
    (i : Nat) : Sound holds start w (log ++ [(i, x)]) := by
  refine h.turn (fun hholds => .inl ⟨hholds, ?_⟩) (fun htells => ?_) .inr i
  · cases hx <;> nofun
  · cases hx <;> cases htells

end Sound

/-! ## Runs -/

/-- A world of requests. -/
abbrev World (κ ρ : Type) : Type :=
  Program.World Environment.interface Request (Except Error Unit) (Parts κ ρ)

variable {start : Parts κ ρ} {w : World κ ρ}

/-- All requests of a world keep their promises. -/
theorem kept_of_reachable (h : (system s b holds).Reachable start w) :
    Program.System.Kept (fun _ => MayFill) (fun _ said _ => Cleared none said) w :=
  Program.System.Reachable.kept h fun r => keeps_run.2 r.promises

theorem sound_of_reachable (hcache : Unreliable b.cache holds) (hstart : UpToDate holds start)
    (h : (system s b holds).Reachable start w) : Sound holds start w.env w.log := by
  induction h with
  | refl =>
    refine ⟨fun hholds => .inl ⟨hstart _ _ hholds, List.forall_mem_nil _⟩, .inr, fun hlog => ?_⟩
    simp [Program.World.start] at hlog
  | @tail w w' hsteps hstep ih =>
    cases hstep with
    | arrive => exact ih
    | pass hpasses =>
      obtain ⟨cache, rest, rfl, hlost⟩ := hpasses
      exact ih.lapse hlost rest
    | @turn i r q next a env hcall hresponds =>
      rcases hresponds with ⟨ha, rfl⟩ | ⟨hfails, rfl⟩
      · refine ih.answer hcache ha ?_ i
        rintro new rfl
        exact (kept_of_reachable hsteps).calls hcall |>.1
      · exact ih.fail hfails i

/-- Whether all requests of a world are done. -/
def AllDone (w : World κ ρ) : Prop := ∀ i r, w.request? i = some r → (w.result? i).isSome

/-- After a change the request that made it deletes the entry before it is done. -/
theorem deleted_after (h : (system s b holds).Reachable start w) (hdone : AllDone w)
    {past rest : Log} {j : Nat} {y : Exchange Environment.interface} {subject : Subject}
    (hlog : w.log = past ++ (j, y) :: rest) (hy : Changes y subject) :
    ∃ before deleted after,
      rest = before ++ (j, ⟨.cache (.delete subject.key), deleted⟩) :: after := by
  have hkept := kept_of_reachable h
  obtain ⟨r, hr, -⟩ := hkept.asked hlog
  obtain ⟨result, hresult⟩ := Option.isSome_iff_exists.1 (hdone j r hr)
  have hcleared : Cleared none (Program.transcript j w.log) := hkept.ended hr hresult
  rw [hlog, Program.transcript_append_cons_self] at hcleared
  obtain ⟨⟨q, deleted⟩, hz, rfl⟩ := (hcleared rfl hy).resolve_left nofun
  obtain ⟨before, after, hrest⟩ := List.append_of_mem (Program.mem_transcript.1 hz)
  exact ⟨before, deleted, after, hrest⟩

/-- An entry that is not deleted after a change has been written after it. -/
theorem not_undisturbed (h : (system s b holds).Reachable start w) (hdone : AllDone w)
    {past rest : Log} {y : Nat × Exchange Environment.interface} {subject : Subject}
    (hlog : w.log = past ++ rest) (hmem : y ∈ rest) (hy : Changes y.2 subject) :
    ¬ Undisturbed subject rest := by
  intro hrest
  obtain ⟨before, after, rfl⟩ := List.append_of_mem hmem
  rw [← List.append_assoc] at hlog
  obtain ⟨_, deleted, _, rfl⟩ := deleted_after h hdone hlog hy
  exact hrest (y.1, ⟨.cache (.delete subject.key), deleted⟩) (by simp) rfl

/-- If a subject was changed after a request was told of it, and what the request wrote was not
deleted since, it was written too late. -/
theorem lateFill_of_changes (h : (system s b holds).Reachable start w) (hdone : AllDone w)
    {i j : Nat} {past between rest : Log} {x y : Exchange Environment.interface}
    {subject : Subject} {text : String} {nanos : Nat} {written : Except Error Unit}
    (hlog : w.log = past ++ (i, x) :: (between ++
      (i, ⟨.cache (.set subject.key text nanos), written⟩) :: rest))
    (htells : Tells x subject text) (hrest : Undisturbed subject rest)
    (hmem : (j, y) ∈ between ++ (i, ⟨.cache (.set subject.key text nanos), written⟩) :: rest)
    (hy : Changes y subject) : LateFill subject w.log := by
  rcases List.mem_append.1 hmem with hmem | hmem
  · -- the change came before the entry was written, and so did its eviction
    obtain ⟨before, clearing, rfl⟩ := List.append_of_mem hmem
    rw [List.append_assoc, List.cons_append] at hlog
    have hchange : w.log = (past ++ (i, x) :: before) ++ (j, y) :: (clearing ++
        (i, ⟨.cache (.set subject.key text nanos), written⟩) :: rest) := by
      simpa using hlog
    obtain ⟨clearing', deleted, after, hplace⟩ := deleted_after h hdone hchange hy
    rcases append_eq_append_cons hplace with ⟨after', rfl, -⟩ | ⟨past', -, hrest'⟩
    · rw [List.append_assoc, List.cons_append] at hlog
      exact ⟨hlog, htells, hy, hrest⟩
    · have hdelete : (j, ⟨.cache (.delete subject.key), deleted⟩) ∈
          (i, ⟨.cache (.set subject.key text nanos), written⟩) :: rest := by
        rw [hrest']
        simp
      rcases List.mem_cons.1 hdelete with heq | hdelete
      · cases heq
      · exact absurd rfl (hrest _ hdelete)
  · -- the change came later, and its eviction later still
    rcases List.mem_cons.1 hmem with heq | hmem
    · cases heq
      cases hy
    · have hwritten : w.log = (past ++ (i, x) :: (between ++
          [(i, ⟨.cache (.set subject.key text nanos), written⟩)])) ++ rest := by
        simpa using hlog
      exact absurd hrest (not_undisturbed h hdone hwritten hmem hy)

/-- **An entry is up to date when all is done, or was filled too late.**  So it is for any requests
in any interleaving, with a cache that may fail to do what it is asked, but deletes.  If no entry
was filled too late, a decision that is made afterwards is the one that the repositories give. -/
theorem upToDate_or_lateFill (hcache : Unreliable b.cache holds) (hstart : UpToDate holds start)
    (h : (system s b holds).Reachable start w) (hdone : AllDone w) :
    (∀ subject text, holds w.env.cache subject.key text →
      w.env.text? subject = some text ∨ LateFill subject w.log) ∧
    ((∀ subject, ¬ LateFill subject w.log) → ∀ ttls user required,
      ((authorize ttls user required).runOn b.answer w.env).1 =
        ((uncached (authorize ttls user required)).runOn b.answer w.env).1) := by
  have hsound := sound_of_reachable hcache hstart h
  have hentry : ∀ subject text, holds w.env.cache subject.key text →
      w.env.text? subject = some text ∨ LateFill subject w.log := by
    intro subject text hholds
    rcases hsound.entries hholds with ⟨htext, hlog⟩ | ⟨past, i, nanos, written, rest, hlog, hrest⟩
    · rcases hsound.started htext with ⟨y, hmem, hy⟩ | htext
      · exact absurd hlog (not_undisturbed h hdone (List.nil_append _).symm hmem hy)
      · exact .inl htext
    -- the request that wrote the entry had been told what it wrote
    obtain ⟨_, -, hfill⟩ := (kept_of_reachable h).asked hlog
    obtain ⟨subject', x, hx, hkey, htells⟩ := hfill
    cases Subject.key_injective hkey
    obtain ⟨past, between, rfl⟩ := List.append_of_mem (Program.mem_transcript.1 hx)
    rw [List.append_assoc, List.cons_append] at hlog
    rcases hsound.told hlog htells with ⟨⟨j, y⟩, hmem, hy⟩ | htext
    · exact .inr (lateFill_of_changes h hdone hlog htells hrest hmem hy)
    · exact .inl htext
  refine ⟨hentry, fun hnone ttls user required => ?_⟩
  have hupToDate : UpToDate holds w.env :=
    fun subject text hholds => (hentry subject text hholds).resolve_right (hnone subject)
  exact ((consults_authorize ttls user required).transparent_inStep hcache
    |>.run _ _ hupToDate.inStep).1

/-! ## An operator who is not demoted -/

/-- Whether all handlers of the events that were published have run after that. -/
def AllHandled (w : World κ ρ) : Prop :=
  ∀ {j : Nat} {e : Event} {n : Nat}, (j, ⟨.publish e, n⟩) ∈ w.log →
    ∀ i ∈ Invalidator.registry.handlers e.kind, ∃ k past rest,
      w.request? k = some (.handle i e) ∧ (w.result? k).isSome ∧
        w.log = past ++ rest ∧ (j, ⟨.publish e, n⟩) ∈ past ∧ Program.transcript k past = []

namespace Demotion

open Sample

def admin : User := account ⟨1⟩ .admin

def operator : User := account ⟨2⟩ .operator

/-- A process with an administrator and an operator, who may look at users. -/
def process : Parts MemoryCache Deployment where
  users := ((UserTable.empty ⟨3⟩).insert admin).insert operator
  grants := (GrantTable.empty.assign .admin (SortedSet.empty.insert .fullAccess)).assign .operator
    (SortedSet.empty.insert .userRead)
  cache := .empty
  rest := .start (.ofSeconds 0) ⟨3⟩

/-- The facts of the operator are read while the administrator takes the role away. -/
def requests : List Request :=
  [.facts operator.id, .changeRole ⟨admin.id, "", "", .admin⟩ operator.id .client,
    .handle .userFacts (.userChanged operator.id)]

/-- Change and handler come between the second and the third question of the read. -/
def schedule : List Nat := [0, 0] ++ List.replicate 9 1 ++ [2, 0]

/-- The world when all is done. -/
def world : World MemoryCache Deployment :=
  schedule.foldl (Program.System.turn surroundings.answer)
    ((system setup surroundings MemoryCache.Holds).arrived process requests)

theorem reachable_world : (system setup surroundings MemoryCache.Holds).Reachable process world :=
  Program.System.reachable_turns (S := system setup surroundings MemoryCache.Holds)
    (fun _ _ => .inl ⟨rfl, rfl⟩) (Program.System.reachable_arrived process requests) schedule

theorem upToDate_process : UpToDate MemoryCache.Holds process := by
  rintro subject text ⟨e, he, -⟩
  cases he

theorem allDone_world : AllDone world := by
  intro i r hr
  match i with
  | 0 => rfl
  | 1 => rfl
  | 2 => rfl
  | i + 3 => cases hr

theorem holds_world : MemoryCache.Holds world.env.cache (Subject.user operator.id).key
    operator.facts.toJson.compress :=
  Option.map_eq_some_iff.1 (rfl : (world.env.cache.entries.get? (Subject.user operator.id).key).map
    Expiring.value = some operator.facts.toJson.compress)

theorem text?_world : world.env.text? (.user operator.id) =
    some (Facts.toJson ⟨.client, .active⟩).compress := rfl

/-- What the repository holds in the end is not what the cache holds. -/
theorem text?_world_ne : world.env.text? (.user operator.id) ≠
    some operator.facts.toJson.compress := by
  rw [text?_world]
  decide

/-- The event that an exchange publishes. -/
def published? : Nat × Exchange Environment.interface → Option Event
  | (_, ⟨.publish e, _⟩) => some e
  | _ => none

theorem allHandled_world : AllHandled world := by
  intro j e n hmem i hi
  -- the one event is published before the handler runs, and nothing is published afterwards
  have hsplit : world.log = world.log.take 11 ++ world.log.drop 11 :=
    (List.take_append_drop 11 world.log).symm
  have hpast : (j, ⟨.publish e, n⟩) ∈ world.log.take 11 := by
    refine (List.mem_append.1 (hsplit ▸ hmem)).resolve_right fun hrest => ?_
    have hnone : (world.log.drop 11).filterMap published? = [] := rfl
    exact Option.some_ne_none e (List.filterMap_eq_nil_iff.1 hnone _ hrest)
  obtain rfl : e = .userChanged operator.id := by
    have hone : (world.log.take 11).filterMap published? = [.userChanged operator.id] := rfl
    exact List.mem_singleton.1 (hone ▸ List.mem_filterMap.2 ⟨_, hpast, rfl⟩)
  obtain rfl : i = .userFacts := List.mem_singleton.1 hi
  exact ⟨2, _, _, rfl, rfl, hsplit, hpast, rfl⟩

end Demotion

open Demotion Sample in
/-- The facts of the operator are written too late. -/
theorem lateFill_demotion : LateFill (.user operator.id) world.log := by
  have hcache : Unreliable surroundings.cache MemoryCache.Holds := MemoryCache.unreliable_answer 0
  have h := upToDate_or_lateFill hcache upToDate_process reachable_world allDone_world
  exact (h.1 _ _ holds_world).resolve_left text?_world_ne

open Demotion Sample in
/-- **Entries are not always up to date when all is done.**  The operator is a client by now, and
the handler of the change has run, but the cache still says otherwise: what operators may do is
allowed, which the repositories would deny. -/
theorem not_always_upToDate :
    (system setup surroundings MemoryCache.Holds).Reachable process world ∧
    AllDone world ∧ AllHandled world ∧ ¬ UpToDate MemoryCache.Holds world.env ∧
    let decision := authorize setup.cacheTtls operator.id .userRead
    (decision.runOn surroundings.answer world.env).1 = .ok operator.facts ∧
      ((uncached decision).runOn surroundings.answer world.env).1 =
        .error (.permissionMissing .userRead) := by
  have hstale : ¬ UpToDate MemoryCache.Holds world.env :=
    fun h => text?_world_ne (h _ _ holds_world)
  exact ⟨reachable_world, allDone_world, allHandled_world, hstale, rfl, rfl⟩

end Authorization
end SessionAuth
