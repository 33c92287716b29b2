import SessionAuth.Deployment
import SessionAuth.Proofs.Authorization.Subject

/-!
# A process around its cache

For what the cache has to do with the repositories it does not matter what else there is in a
process.  `Parts` has the two repositories, the cache, and the rest; `Surroundings` say how cache
and rest answer, in any way.  That a `Deployment` is such a process is `Deployment.answer_parts`.

A cache is only ever `Unreliable`: it may find nothing, fail, answer with texts that nobody can
read, refuse what it is given, and lose an entry at any time.  It must not make entries up, and it
must lose an entry that it is told to delete, even if it then reports a failure.  So it is with
`MemoryCache` (`MemoryCache.unreliable_answer`).
-/

set_option autoImplicit false

namespace SessionAuth

open Environment

/-! ## Caches -/

/-- What may be expected of a cache, where `holds` says with which texts it may answer for which
keys. -/
structure Unreliable {κ : Type} (answer : Program.Server Cache.interface κ)
    (holds : κ → String → String → Prop) : Prop where
  get : ∀ {k : κ} {s : Subject} {text : String},
    (answer (.get s.key) k).1 = .ok (some text) → holds k s.key text ∨ ¬ s.Reads text
  kept : ∀ {k : κ} {c : Cache.Call} {key text : String}, holds (answer c k).2 key text →
    holds k key text ∨ ∃ nanos, c = .set key text nanos
  deleted : ∀ {k : κ} {key text : String}, ¬ holds (answer (.delete key) k).2 key text

/-- Deleting an entry leaves what the cache answers for all others as it is. -/
def DeletesOne {κ : Type} (answer : Program.Server Cache.interface κ) : Prop :=
  ∀ {k : κ} {key other : String}, other ≠ key →
    (answer (.get other) (answer (.delete key) k).2).1 = (answer (.get other) k).1

namespace MemoryCache

/-- Whether a text is kept under a key, be it for how long it may. -/
def Holds (c : MemoryCache) (key text : String) : Prop :=
  ∃ e, c.entries.get? key = some e ∧ e.value = text

theorem unreliable_answer (now : Nat) : Unreliable (answer now) Holds where
  get := by
    intro c s text h
    obtain ⟨e, he, -, htext⟩ := Expiring.live?_eq_some_iff.1 (Except.ok.inj h)
    exact .inl ⟨e, he, htext⟩
  kept := by
    rintro c call key text ⟨e, he, htext⟩
    cases call with
    | get | has | isHealthy => exact .inl ⟨e, he, htext⟩
    | delete key' => exact .inl ⟨e, (Table.get?_erase_eq_some_iff.1 he).2, htext⟩
    | set key' text' nanos =>
      rcases Table.get?_set_eq_some_iff.1 he with ⟨rfl, rfl⟩ | ⟨-, he⟩
      · exact .inr ⟨nanos, congrArg (Cache.Call.set key · nanos) htext⟩
      · exact .inl ⟨e, he, htext⟩
  deleted := by
    rintro c key text ⟨e, he, -⟩
    exact (Table.get?_erase_eq_some_iff.1 he).1 rfl

theorem deletesOne_answer (now : Nat) : DeletesOne (answer now) := by
  intro c key other hne
  simp only [answer, get?, Table.get?_erase, if_neg hne]

end MemoryCache

/-! ## Processes -/

/-- A process in parts. -/
structure Parts (κ ρ : Type) where
  users : UserTable
  grants : GrantTable
  cache : κ
  /-- The clock, the sessions and all else that is not in one of the other parts. -/
  rest : ρ

/-- How the cache and the rest of a process answer. -/
structure Surroundings (κ ρ : Type) where
  cache : Program.Server Cache.interface κ
  rest : Program.Server Environment.interface ρ
  /-- The time of which an account is said to be changed. -/
  wall : ρ → Timestamp

variable {κ ρ : Type}

/-- The answer to a question, and the process after it. -/
def Surroundings.answer (b : Surroundings κ ρ) :
    Program.Server Environment.interface (Parts κ ρ)
  | .users c, w =>
    ((UserTable.answer (b.wall w.rest) c w.users).1,
      { w with users := (UserTable.answer (b.wall w.rest) c w.users).2 })
  | .grants c, w =>
    ((GrantTable.answer c w.grants).1, { w with grants := (GrantTable.answer c w.grants).2 })
  | .cache c, w => ((b.cache c w.cache).1, { w with cache := (b.cache c w.cache).2 })
  | q, w => ((b.rest q w.rest).1, { w with rest := (b.rest q w.rest).2 })

/-- A process with its cache in memory, while no time passes. -/
def Sample.surroundings : Surroundings MemoryCache Deployment where
  cache := MemoryCache.answer 0
  rest := Deployment.answer
  wall d := d.clock.wall

namespace Parts

/-- A process in which the next new user gets a given id. -/
def withNext (w : Parts κ ρ) (next : UserId) : Parts κ ρ :=
  { w with users := { w.users with nextId := next } }

/-- What the entry of a subject has to be, by the repositories. -/
def text? (w : Parts κ ρ) : Subject → Option String
  | .user id => (w.users.facts? id).map fun facts => facts.toJson.compress
  | .role r => some (Permission.listToJson (w.grants.ofRole r).toList).compress

/-- The subject whose entry a question may leave out of date. -/
def target? (w : Parts κ ρ) : Question → Option Subject
  | .users c => (w.users.target? c).map .user
  | .grants (.grant r _) => some (.role r)
  | .grants (.revoke r _) => some (.role r)
  | _ => none

variable {b : Surroundings κ ρ} {w : Parts κ ρ}

/-- A question leaves the entries of all other subjects up to date. -/
theorem text?_answer {q : Question} {s : Subject} (h : w.target? q ≠ some s) :
    (b.answer q w).2.text? s = w.text? s := by
  cases s with
  | user id =>
    cases q with
    | users c =>
      have hc : w.users.target? c ≠ some id := fun hc => h (congrArg (Option.map Subject.user) hc)
      exact congrArg (Option.map fun facts => facts.toJson.compress) (UserTable.facts?_answer c hc)
    | _ => rfl
  | role r =>
    cases q with
    | grants c =>
      cases c with
      | ofRole => rfl
      | grant r' | revoke r' =>
        have hr : r ≠ r' := fun hr => h (congrArg (some ∘ Subject.role) hr.symm)
        simp only [text?, Surroundings.answer, GrantTable.answer, GrantTable.ofRole_assign,
          if_neg hr]
    | _ => rfl

/-- A change of an account that is not there leaves all entries up to date that there may be. -/
theorem text?_answer_of_absent {c : UserRepository.Call} {id : UserId}
    (hc : w.users.target? c = some id) (habsent : w.users.users.get? id = none) {s : Subject}
    {text : String} (h : w.text? s = some text) :
    (b.answer (.users c) w).2.text? s = some text := by
  rw [text?_answer ?_]
  · exact h
  · rw [target?, hc]
    rintro ⟨⟩
    rw [text?, UserTable.facts?, habsent] at h
    cases h

/-- Granting what is held leaves all entries up to date. -/
theorem text?_grant_of_mem {r : Role} {permission : Permission}
    (h : permission ∈ (w.grants.ofRole r).toList) (s : Subject) :
    (b.answer (.grants (.grant r permission)) w).2.text? s = w.text? s := by
  cases s with
  | user => rfl
  | role r' => simp only [text?, Surroundings.answer, GrantTable.ofRole_grant_of_mem h]

/-- Revoking what is not held leaves all entries up to date. -/
theorem text?_revoke_of_not_mem {r : Role} {permission : Permission}
    (h : permission ∉ (w.grants.ofRole r).toList) (s : Subject) :
    (b.answer (.grants (.revoke r permission)) w).2.text? s = w.text? s := by
  cases s with
  | user => rfl
  | role r' => simp only [text?, Surroundings.answer, GrantTable.ofRole_revoke_of_not_mem h]

end Parts
end SessionAuth
