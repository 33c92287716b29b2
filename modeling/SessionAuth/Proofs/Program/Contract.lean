import SessionAuth.Proofs.Program.Run

/-!
# What programs promise about their conversations

A program is a tree of questions, so that what it will ask can be read off without saying who
answers.  `Program.Asks` is about single questions: all that a program asks, whatever it is
answered, has a property.  `Program.Keeps` is about whole conversations: which question may come
after what has been said, and which result may end it.  Both follow the way in which programs are
put together, and a part that asks only harmless questions can be skipped (`Keeps.of_asks`).
-/

set_option autoImplicit false

namespace SessionAuth

/-! ## Places in a list -/

/-- A place in two lists one after the other is a place in the first or in the second. -/
theorem append_eq_append_cons {α : Type} {l m past rest : List α} {b : α}
    (h : l ++ m = past ++ b :: rest) :
    (∃ rest', l = past ++ b :: rest' ∧ rest = rest' ++ m) ∨
      ∃ past', past = l ++ past' ∧ m = past' ++ b :: rest := by
  rcases List.append_eq_append_iff.1 h with ⟨past', hpast, hm⟩ | ⟨rest', hl, hrest⟩
  · exact .inr ⟨past', hpast, hm⟩
  · cases rest' with
    | nil => exact .inr ⟨[], by simp [hl], by simpa using hrest.symm⟩
    | cons c rest' =>
      obtain ⟨rfl, htail⟩ := List.cons.inj hrest
      exact .inl ⟨rest', hl, htail⟩

/-- A place in a list with one more element is a place in the list, or that of the element. -/
theorem concat_eq_append_cons {α : Type} {l past rest : List α} {a b : α}
    (h : l ++ [a] = past ++ b :: rest) :
    l = past ∧ a = b ∨ ∃ rest', l = past ++ b :: rest' ∧ rest = rest' ++ [a] := by
  rcases append_eq_append_cons h with hl | ⟨past', hpast, hm⟩
  · exact .inr hl
  · cases past' with
    | nil => exact .inl ⟨by simp [hpast], (List.cons.inj hm).1⟩
    | cons c past' => exact absurd (List.cons.inj hm).2 (by simp)

/-- Of two elements of a list, one comes before the other. -/
theorem exists_between {α : Type} {l : List α} {a b : α} (ha : a ∈ l) (hb : b ∈ l) (hne : a ≠ b) :
    (∃ past between rest, l = past ++ a :: (between ++ b :: rest)) ∨
      ∃ past between rest, l = past ++ b :: (between ++ a :: rest) := by
  obtain ⟨past, rest, rfl⟩ := List.append_of_mem ha
  rcases List.mem_append.1 hb with hpast | hrest
  · obtain ⟨before, between, rfl⟩ := List.append_of_mem hpast
    exact .inr ⟨before, between, rest, by simp⟩
  · obtain ⟨between, after, rfl⟩ :=
      List.append_of_mem ((List.mem_cons.1 hrest).resolve_left hne.symm)
    exact .inl ⟨past, between, after, rfl⟩

/-- What held unless something had happened holds one element later, if it happens there or leaves
it as it is. -/
theorem exists_mem_concat_or {α : Type} {l : List α} {a : α} {Happens : α → Prop} {P P' : Prop}
    (h : (∃ b ∈ l, Happens b) ∨ P) (hkept : P → Happens a ∨ P') :
    (∃ b ∈ l ++ [a], Happens b) ∨ P' := by
  rcases h with ⟨b, hb, hhappens⟩ | hP
  · exact .inl ⟨b, List.mem_append_left _ hb, hhappens⟩
  · refine (hkept hP).imp_left fun hhappens => ?_
    exact ⟨a, List.mem_append_right _ (List.mem_singleton_self a), hhappens⟩

/-- A question with the answer that was given to it. -/
structure Exchange (I : Interface) where
  question : I.Question
  answer : I.Answer question

/-! ## Obligations -/

section Obligations

variable {I : Interface} {δ : Type}

/-- Whether all obligations that the exchanges of a conversation brought with them have been met by
what was said afterwards, but for one at most. -/
def Discharged (Incurs : Exchange I → δ → Prop) (Meets : δ → List (Exchange I) → Prop)
    (pending : Option δ) (said : List (Exchange I)) : Prop :=
  ∀ ⦃past rest : List (Exchange I)⦄ ⦃x : Exchange I⦄ ⦃d : δ⦄,
    said = past ++ x :: rest → Incurs x d → pending = some d ∨ Meets d rest

namespace Discharged

variable {Incurs : Exchange I → δ → Prop} {Meets : δ → List (Exchange I) → Prop}
  {pending : Option δ} {said more : List (Exchange I)} {x : Exchange I} {d : δ}

theorem nil : Discharged Incurs Meets none [] := fun _ _ _ _ h => by simp at h

/-- What brings no obligations leaves them as they are. -/
theorem append (h : Discharged Incurs Meets pending said)
    (hkeep : ∀ d said more, Meets d said → Meets d (said ++ more))
    (hmore : ∀ x ∈ more, ∀ d, ¬ Incurs x d) : Discharged Incurs Meets pending (said ++ more) := by
  intro past rest x d hsaid hx
  rcases append_eq_append_cons hsaid with ⟨rest', hplace, rfl⟩ | ⟨past', -, hmore'⟩
  · exact (h hplace hx).imp id (hkeep d rest' more)
  · exact absurd hx (hmore x (hmore' ▸ by simp) d)

/-- An exchange brings one obligation at most. -/
theorem incur (h : Discharged Incurs Meets none said)
    (hkeep : ∀ d said more, Meets d said → Meets d (said ++ more))
    (hx : ∀ d', Incurs x d' → d' = d) : Discharged Incurs Meets (some d) (said ++ [x]) := by
  intro past rest y d' hsaid hy
  rcases concat_eq_append_cons hsaid with ⟨-, rfl⟩ | ⟨rest', hplace, rfl⟩
  · exact .inl (congrArg some (hx d' hy).symm)
  · exact .inr (hkeep d' rest' _ ((h hplace hy).resolve_left nofun))

/-- The obligation that was left is met. -/
theorem meet (h : Discharged Incurs Meets (some d) said)
    (hkeep : ∀ d said more, Meets d said → Meets d (said ++ more))
    (hmore : ∀ x ∈ more, ∀ d, ¬ Incurs x d) (hmeets : ∀ said, Meets d (said ++ more)) :
    Discharged Incurs Meets none (said ++ more) := by
  intro past rest y d' hsaid hy
  rcases append_eq_append_cons hsaid with ⟨rest', hplace, rfl⟩ | ⟨past', -, hmore'⟩
  · rcases h hplace hy with hpending | hmet
    · cases hpending
      exact .inr (hmeets rest')
    · exact .inr (hkeep d' rest' more hmet)
  · exact absurd hy (hmore y (hmore' ▸ by simp) d')

end Discharged

end Obligations

namespace Program

variable {I J : Interface} {α β : Type}

/-! ## Single questions -/

/-- Whether all questions of a program have a property, whatever the answers are. -/
def Asks (P : I.Question → Prop) : Program I α → Prop
  | done _ => True
  | ask q next => P q ∧ ∀ r, (next r).Asks P

variable {P Q : I.Question → Prop}

theorem Asks.bind {p : Program I α} {f : α → Program I β} (hp : p.Asks P)
    (hf : ∀ a, (f a).Asks P) : (p >>= f).Asks P := by
  induction p with
  | done a => exact hf a
  | ask q next ih => exact ⟨hp.1, fun r => ih r (hp.2 r)⟩

theorem Asks.mono {p : Program I α} (hp : p.Asks P) (h : ∀ q, P q → Q q) : p.Asks Q := by
  induction p with
  | done a => trivial
  | ask q next ih => exact ⟨h q hp.1, fun r => ih r (hp.2 r)⟩

theorem asks_of_forall (h : ∀ q, P q) (p : Program I α) : p.Asks P := by
  induction p with
  | done a => trivial
  | ask q next ih => exact ⟨h q, ih⟩

/-- A program whose questions are replaced asks what the replacements ask. -/
theorem Asks.interpret {P : J.Question → Prop} {f : (q : I.Question) → Program J (I.Answer q)}
    (hf : ∀ q, Q q → (f q).Asks P) {p : Program I α} (hp : p.Asks Q) : (p.interpret f).Asks P := by
  induction p with
  | done a => trivial
  | ask q next ih => exact Asks.bind (hf q hp.1) fun r => ih r (hp.2 r)

/-! ## Conversations -/

/-- Whether a program asks only what it may after what was said, and ends only as it may, whatever
the answers are. -/
def Keeps (mayAsk : List (Exchange I) → I.Question → Prop)
    (mayEnd : List (Exchange I) → α → Prop) : Program I α → List (Exchange I) → Prop
  | done a, said => mayEnd said a
  | ask q next, said => mayAsk said q ∧ ∀ r, (next r).Keeps mayAsk mayEnd (said ++ [⟨q, r⟩])

variable {mayAsk : List (Exchange I) → I.Question → Prop}
  {mayEnd : List (Exchange I) → α → Prop} {said : List (Exchange I)}

theorem Keeps.mono {mayEnd' : List (Exchange I) → α → Prop} {p : Program I α}
    (h : p.Keeps mayAsk mayEnd said) (hend : ∀ said a, mayEnd said a → mayEnd' said a) :
    p.Keeps mayAsk mayEnd' said := by
  induction p generalizing said with
  | done a => exact hend _ _ h
  | ask q next ih => exact ⟨h.1, fun r => ih r (h.2 r)⟩

theorem keeps_bind {mayEnd : List (Exchange I) → β → Prop} (p : Program I α)
    (f : α → Program I β) : (p >>= f).Keeps mayAsk mayEnd said ↔
      p.Keeps mayAsk (fun said a => (f a).Keeps mayAsk mayEnd said) said := by
  induction p generalizing said with
  | done a => exact Iff.rfl
  | ask q next ih => exact and_congr_right fun _ => forall_congr' fun r => ih r

/-- A program that asks harmless questions only keeps every contract that allows these and whose end
does not depend on them. -/
theorem Keeps.of_asks {p : Program I α} (h : p.Asks P) (hask : ∀ said q, P q → mayAsk said q)
    (hend : ∀ more a, (∀ x ∈ more, P x.question) → mayEnd (said ++ more) a) :
    p.Keeps mayAsk mayEnd said := by
  induction p generalizing said with
  | done a =>
    rw [← List.append_nil said]
    exact hend [] a nofun
  | ask q next ih =>
    refine ⟨hask said q h.1, fun r => ih r (h.2 r) fun more a hmore => ?_⟩
    have hcons : ∀ x ∈ (⟨q, r⟩ : Exchange I) :: more, P x.question :=
      List.forall_mem_cons.2 ⟨h.1, hmore⟩
    simpa only [List.append_assoc] using hend ([⟨q, r⟩] ++ more) a hcons

/-- How a program ends may be found without regard to what it may ask, if it asks harmless questions
only. -/
theorem Keeps.restrict {mayEnd' : List (Exchange I) → α → Prop} {p : Program I α}
    (h : p.Keeps (fun _ _ => True) mayEnd' said) (hp : p.Asks P)
    (hask : ∀ said q, P q → mayAsk said q)
    (hend : ∀ more a, (∀ x ∈ more, P x.question) → mayEnd' (said ++ more) a →
      mayEnd (said ++ more) a) : p.Keeps mayAsk mayEnd said := by
  induction p generalizing said with
  | done a =>
    rw [← List.append_nil said] at h ⊢
    exact hend [] a nofun h
  | ask q next ih =>
    refine ⟨hask said q hp.1, fun r => ih r (h.2 r) (hp.2 r) fun more a hmore h => ?_⟩
    have hcons : ∀ x ∈ (⟨q, r⟩ : Exchange I) :: more, P x.question :=
      List.forall_mem_cons.2 ⟨hp.1, hmore⟩
    simp only [List.append_assoc] at h ⊢
    exact hend ([⟨q, r⟩] ++ more) a hcons h

/-! ## Programs that are run -/

variable {σ : Type} {answer : Program.Server I σ} {Inv : σ → Prop}

/-- What all questions of a program leave true is true after it. -/
theorem Asks.run (hanswer : ∀ q s, P q → Inv s → Inv (answer q s).2) {p : Program I α}
    (hp : p.Asks P) {s : σ} (hs : Inv s) : Inv (p.run answer s).2 := by
  induction p generalizing s with
  | done a => exact hs
  | ask q next ih => exact ih _ (hp.2 _) (hanswer q s hp.1 hs)

end Program

/-! ## Programs that may fail -/

namespace Fallible

open Program

variable {I : Interface} {α β : Type} {P : I.Question → Prop}

/-- A program whose result is of no interest. -/
def ignoring (p : Fallible I α) : Fallible I Unit := do
  let _ ← p

/-- Whether all questions of a program have a property, whatever the answers are. -/
def Asks (P : I.Question → Prop) (p : Fallible I α) : Prop := Program.Asks P p.run

@[simp] theorem asks_pure (a : α) : Asks P (pure a : Fallible I α) := trivial

@[simp] theorem asks_throw (e : Error) : Asks P (throw e : Fallible I α) := trivial

@[simp] theorem asks_lift (r : Except Error α) : Asks P (liftM r : Fallible I α) := by
  cases r <;> trivial

theorem Asks.bind {p : Fallible I α} {f : α → Fallible I β} (hp : Asks P p)
    (hf : ∀ a, Asks P (f a)) : Asks P (p >>= f) :=
  Program.Asks.bind hp fun r => match r with
    | .ok a => hf a
    | .error _ => trivial

/-- What stands behind a value that is at hand is asked with this value. -/
theorem asks_lift_bind {r : Except Error α} {f : α → Fallible I β}
    (h : ∀ a, r = .ok a → Asks P (f a)) : Asks P ((liftM r : Fallible I α) >>= f) := by
  cases r with
  | error e => trivial
  | ok a => exact h a rfl

/-- What stands behind a failure is not asked. -/
theorem asks_throw_bind (e : Error) (f : α → Fallible I β) :
    Asks P ((throw e : Fallible I α) >>= f) := trivial

theorem Asks.attempt {p : Fallible I α} (hp : Asks P p) : Asks P p.attempt :=
  Program.Asks.bind hp fun _ => trivial

theorem Asks.mono {Q : I.Question → Prop} {p : Fallible I α} (hp : Asks P p)
    (h : ∀ q, P q → Q q) : Asks Q p :=
  Program.Asks.mono hp h

theorem asks_of_forall (h : ∀ q, P q) (p : Fallible I α) : Asks P p :=
  Program.asks_of_forall h p.run

/-- Whether a program asks only what it may and ends only as it may, whatever the answers are. -/
def Keeps (mayAsk : List (Exchange I) → I.Question → Prop)
    (mayEnd : List (Exchange I) → Except Error α → Prop) (p : Fallible I α)
    (said : List (Exchange I)) : Prop :=
  Program.Keeps mayAsk mayEnd p.run said

variable {mayAsk : List (Exchange I) → I.Question → Prop}
  {mayEnd : List (Exchange I) → Except Error α → Prop} {said : List (Exchange I)}

theorem keeps_run {p : Fallible I α} :
    p.run.Keeps mayAsk mayEnd said ↔ Keeps mayAsk mayEnd p said := Iff.rfl

@[simp] theorem keeps_pure (a : α) :
    Keeps mayAsk mayEnd (pure a : Fallible I α) said ↔ mayEnd said (.ok a) := Iff.rfl

@[simp] theorem keeps_throw (e : Error) :
    Keeps mayAsk mayEnd (throw e : Fallible I α) said ↔ mayEnd said (.error e) := Iff.rfl

@[simp] theorem keeps_lift (r : Except Error α) :
    Keeps mayAsk mayEnd (liftM r : Fallible I α) said ↔ mayEnd said r := by
  cases r <;> exact Iff.rfl

/-- The conversation of two programs is that of the first, and then that of the second if there was
no error. -/
theorem keeps_bind {mayEnd : List (Exchange I) → Except Error β → Prop} (p : Fallible I α)
    (f : α → Fallible I β) : Keeps mayAsk mayEnd (p >>= f) said ↔
      Keeps mayAsk (fun said r => match r with
        | .ok a => Keeps mayAsk mayEnd (f a) said
        | .error e => mayEnd said (.error e)) p said := by
  refine (Program.keeps_bind p.run (ExceptT.bindCont f)).trans (iff_of_eq ?_)
  refine congrArg (fun E => Program.Keeps mayAsk E p.run said) ?_
  funext said r
  cases r <;> rfl

/-- What stands behind a failure is not asked. -/
theorem keeps_throw_bind {mayEnd : List (Exchange I) → Except Error β → Prop} {e : Error}
    {f : α → Fallible I β} : Keeps mayAsk mayEnd ((throw e : Fallible I α) >>= f) said ↔
      mayEnd said (.error e) := Iff.rfl

theorem Keeps.mono {mayEnd' : List (Exchange I) → Except Error α → Prop} {p : Fallible I α}
    (h : Keeps mayAsk mayEnd p said) (hend : ∀ said r, mayEnd said r → mayEnd' said r) :
    Keeps mayAsk mayEnd' p said :=
  Program.Keeps.mono h hend

/-- A failure that becomes a result ends the conversation as it did. -/
theorem keeps_attempt {mayEnd : List (Exchange I) → Except Error (Except Error α) → Prop}
    (p : Fallible I α) : Keeps mayAsk mayEnd p.attempt said ↔
      Keeps mayAsk (fun said r => mayEnd said (.ok r)) p said := by
  show Program.Keeps mayAsk mayEnd (Except.ok <$> p.run) said ↔ _
  rw [map_eq_pure_bind, Program.keeps_bind]
  rfl

theorem Keeps.of_asks {p : Fallible I α} (h : Asks P p) (hask : ∀ said q, P q → mayAsk said q)
    (hend : ∀ more r, (∀ x ∈ more, P x.question) → mayEnd (said ++ more) r) :
    Keeps mayAsk mayEnd p said :=
  Program.Keeps.of_asks h hask hend

/-- How a program ends may be found without regard to what it may ask, if it asks harmless questions
only. -/
theorem Keeps.restrict {mayEnd' : List (Exchange I) → Except Error α → Prop} {p : Fallible I α}
    (h : Keeps (fun _ _ => True) mayEnd' p said) (hp : Asks P p)
    (hask : ∀ said q, P q → mayAsk said q)
    (hend : ∀ more r, (∀ x ∈ more, P x.question) → mayEnd' (said ++ more) r →
      mayEnd (said ++ more) r) : Keeps mayAsk mayEnd p said :=
  Program.Keeps.restrict h hp hask hend

/-- What all questions of a program leave true is true after it. -/
theorem Asks.run {σ : Type} {answer : Program.Server I σ} {Inv : σ → Prop}
    (hanswer : ∀ q s, P q → Inv s → Inv (answer q s).2) {p : Fallible I α} (hp : Asks P p) {s : σ}
    (hs : Inv s) : Inv (p.runOn answer s).2 :=
  Program.Asks.run hanswer hp hs

end Fallible

/-! ## Questions to the environment -/

namespace Environment

open Fallible

variable {P : Question → Prop}

theorem asks_ask {q : Question} (h : P q) : Asks P (ask q) := ⟨h, fun _ => trivial⟩

theorem asks_now (h : P .now) : Asks P now := asks_ask h

theorem asks_newId (h : P .newId) : Asks P newId := asks_ask h

theorem asks_newSalt (h : P .newSalt) : Asks P newSalt := asks_ask h

theorem asks_publish {e : Event} (h : P (.publish e)) : Asks P (publish e) := asks_ask h

theorem asks_call {c : SessionStore.Call} (h : P (.sessions (.call c))) :
    Asks P (sessions (SessionStore.call c)) :=
  ⟨h, fun _ => trivial⟩

theorem asks_usersCall {c : UserRepository.Call} (h : P (.users c)) :
    Asks P (users (UserRepository.call c)) :=
  ⟨h, fun _ => trivial⟩

theorem asks_grantsCall {c : Grants.Call} (h : P (.grants c)) :
    Asks P (grants (Grants.call c)) :=
  ⟨h, fun _ => trivial⟩

theorem asks_cacheCall {c : Cache.Call} (h : P (.cache c)) : Asks P (cache (Cache.call c)) :=
  ⟨h, fun _ => trivial⟩

/-- Reading a value asks the cache for its text. -/
theorem asks_getJson {α : Type} {d : Json.Decoder α} {key : String} (h : P (.cache (.get key))) :
    Asks P (cache (Cache.getJson d key)) := by
  rw [Cache.getJson, cache_bind]
  refine Asks.bind (asks_cacheCall h) fun found => ?_
  cases found with
  | none => exact asks_pure _
  | some text =>
    dsimp only
    generalize Json.fromText d text = r
    cases r <;> trivial

theorem asks_sessions {α : Type} {p : Fallible SessionStore.interface α}
    (h : Asks (fun q => P (.sessions q)) p) : Asks P (sessions p) := by
  refine Program.Asks.interpret (I := SessionStore.interface) (fun q hq => ?_) h
  exact ⟨hq, fun _ => trivial⟩

/-- Sweeping asks which users have an index, and sweeps the index of each. -/
theorem asks_sweepAll (hindexed : P (.sessions .indexedUsers))
    (hsweep : ∀ user, P (.sessions (.call (.sweepUser user)))) :
    Asks P (sessions SessionStore.sweepAll) := by
  refine asks_sessions (Asks.bind ⟨hindexed, fun _ => trivial⟩ fun users => ?_)
  induction users with
  | nil => exact asks_pure _
  | cons user users ih =>
    refine Asks.bind ⟨hsweep user, fun _ => trivial⟩ fun count => ?_
    exact Asks.bind ih fun rest => asks_pure _

/-- A conversation with the environment. -/
abbrev Talk : Type := List (Exchange Environment.interface)

variable {mayAsk : Talk → Question → Prop} {said : Talk}

@[simp] theorem keeps_now {mayEnd : Talk → Except Error Timestamp → Prop} :
    Keeps mayAsk mayEnd now said ↔
      mayAsk said .now ∧ ∀ t, mayEnd (said ++ [⟨.now, t⟩]) (.ok t) := Iff.rfl

@[simp] theorem keeps_newId {mayEnd : Talk → Except Error String → Prop} :
    Keeps mayAsk mayEnd newId said ↔
      mayAsk said .newId ∧ ∀ id, mayEnd (said ++ [⟨.newId, id⟩]) (.ok id) := Iff.rfl

@[simp] theorem keeps_newSalt {mayEnd : Talk → Except Error (List UInt8) → Prop} :
    Keeps mayAsk mayEnd newSalt said ↔
      mayAsk said .newSalt ∧ ∀ salt, mayEnd (said ++ [⟨.newSalt, salt⟩]) (.ok salt) := Iff.rfl

theorem keeps_call {c : SessionStore.Call} {mayEnd : Talk → Except Error c.Answer → Prop} :
    Keeps mayAsk mayEnd (sessions (SessionStore.call c)) said ↔
      mayAsk said (.sessions (.call c)) ∧
        ∀ r, mayEnd (said ++ [⟨.sessions (.call c), r⟩]) r := Iff.rfl

theorem keeps_usersCall {c : UserRepository.Call}
    {mayEnd : Talk → Except Error c.Answer → Prop} :
    Keeps mayAsk mayEnd (users (UserRepository.call c)) said ↔
      mayAsk said (.users c) ∧ ∀ r, mayEnd (said ++ [⟨.users c, r⟩]) r := Iff.rfl

theorem keeps_grantsCall {c : Grants.Call} {mayEnd : Talk → Except Error c.Answer → Prop} :
    Keeps mayAsk mayEnd (grants (Grants.call c)) said ↔
      mayAsk said (.grants c) ∧ ∀ r, mayEnd (said ++ [⟨.grants c, r⟩]) r := Iff.rfl

theorem keeps_cacheCall {c : Cache.Call} {mayEnd : Talk → Except Error c.Answer → Prop} :
    Keeps mayAsk mayEnd (cache (Cache.call c)) said ↔
      mayAsk said (.cache c) ∧ ∀ r, mayEnd (said ++ [⟨.cache c, r⟩]) r := Iff.rfl

-- A use case is a large term, and nothing but the lemmas above should look into it.
attribute [irreducible] Fallible.Asks Fallible.Keeps

end Environment
end SessionAuth
