import Mathlib.Algebra.GroupWithZero.Nat
import SessionAuth.Proofs.Program.Contract
import SessionAuth.Redis.Sessions

/-!
# How a sweep of Redis goes on

A sweep asks a server for one page of keys after the other, and prunes the index under each key
before it asks for the next page.  What a server answers is out of its hands: a page may be empty
and not the last one, the last one may have keys, and anything may fail.  So the sweep is told here
from the answers.

* `Talks` says that a program which is given some answers asks certain questions and ends with a
  certain result, and that it does not wait for more answers.
* `Page` is a page as it was answered, with three answers prepared for each run of the script that
  prunes an index; `Script.said` tells which of them are used.
* `sweepAll_talks` says that a sweep follows the cursors from page to page, and that only a page
  that it is not given makes it fail.
-/

set_option autoImplicit false

namespace SessionAuth
namespace Redis

open Text

/-! ## Conversations -/

/-- A conversation with a server. -/
abbrev Said : Type := List (SessionAuth.Exchange interface)

/-- A server that gives the answers that were prepared for it, and notes the commands.  When there
are no more answers, it does not answer. -/
def handOut : Program.Server interface (List (Option Reply) × List Command)
  | c, ([], sent) => (none, ([], sent ++ [c]))
  | c, (answer :: rest, sent) => (answer, (rest, sent ++ [c]))

/-- Whether a program that is given the answers of a conversation asks the questions of it, one
after the other, and ends with a result; answers that are left over stay where they are. -/
def Talks {α : Type} (p : Program interface α) (said : Said) (result : α) : Prop :=
  ∀ rest sent, p.run handOut (said.map (·.answer) ++ rest, sent) =
    (result, (rest, sent ++ said.map (·.question)))

section Talks

variable {α β ε : Type} {said m : Said}

theorem talks_done (a : α) : Talks (.done a) [] a := fun rest sent => by
  simp [Program.run]

theorem talks_question (c : Command) (answer : Option Reply) :
    Talks (Program.question c) [⟨c, answer⟩] answer := fun _ _ => rfl

theorem Talks.bind {p : Program interface α} {f : α → Program interface β} {a : α} {b : β}
    (hp : Talks p said a) (hf : Talks (f a) m b) : Talks (p >>= f) (said ++ m) b := by
  intro rest sent
  rw [Program.run_bind, List.map_append, List.append_assoc, hp, hf, List.map_append,
    List.append_assoc]

theorem Talks.map {p : Program interface α} {a : α} (hp : Talks p said a) (f : α → β) :
    Talks (f <$> p) said (f a) := by
  have h := hp.bind (f := fun a => .done (f a)) (talks_done (f a))
  rwa [List.append_nil] at h

/-- What comes after a part that ended with a value goes on with it. -/
theorem Talks.bind_ok {p : ExceptT ε (Program interface) α}
    {f : α → ExceptT ε (Program interface) β} {a : α} {r : Except ε β}
    (hp : Talks p.run said (.ok a)) (hf : Talks (f a).run m r) :
    Talks (p >>= f).run (said ++ m) r :=
  hp.bind (f := ExceptT.bindCont f) hf

/-- What comes after an error is not run. -/
theorem Talks.bind_error {p : ExceptT ε (Program interface) α} {e : ε}
    (hp : Talks p.run said (.error e)) (f : α → ExceptT ε (Program interface) β) :
    Talks (p >>= f).run said (.error e) := by
  have h := hp.bind (f := ExceptT.bindCont f) (talks_done (Except.error e))
  rwa [List.append_nil] at h

/-- A value is not handled. -/
theorem Talks.tryCatch_ok {p : ExceptT ε (Program interface) α} {a : α}
    (hp : Talks p.run said (.ok a)) (handle : ε → ExceptT ε (Program interface) α) :
    Talks (tryCatch p handle).run said (.ok a) := by
  rw [ExceptT.run_tryCatch, ← List.append_nil said]
  exact hp.bind (talks_done _)

/-- After an error its handler is run. -/
theorem Talks.tryCatch_error {p : ExceptT ε (Program interface) α} {e : ε} {r : Except ε α}
    {handle : ε → ExceptT ε (Program interface) α} (hp : Talks p.run said (.error e))
    (hhandle : Talks (handle e).run m r) : Talks (tryCatch p handle).run (said ++ m) r := by
  rw [ExceptT.run_tryCatch]
  exact hp.bind hhandle

theorem talks_send (c : Command) (read : Reply → Option α) (answer : Option Reply) :
    Talks (send c read).run [⟨c, answer⟩] (readReply read answer) :=
  (talks_question c answer).map (readReply read)

/-- An operation of a client ends with an error of its own where its exchange ends with a fault. -/
theorem Talks.operation {e : Exchange α} {r : Except Fault α} (h : Talks e.run said r) (c : Client)
    (name : String) :
    Talks (c.operation name e).run said (r.mapError (c.errorOf name)) :=
  h.map (Except.mapError (c.errorOf name))

theorem Talks.attempt {p : Fallible interface α} {r : Except Error α} (h : Talks p.run said r) :
    Talks p.attempt.run said (.ok r) :=
  h.map Except.ok

end Talks

/-! ## Running a script -/

/-- Whether an answer says that the server does not know a script. -/
def saysUnknown (answer : Option Reply) : Bool :=
  (answer.bind Reply.failure?).any isUnknownScript

/-- The answers that are prepared for a run of a script: to the command that runs it, to the one
that brings its text, and to the command when it is repeated. -/
structure ScriptAnswers where
  first : Option Reply
  loading : Option Reply
  again : Option Reply

/-- What the server says to the text of a script. -/
def ScriptAnswers.loaded (answers : ScriptAnswers) : Except Fault Unit :=
  readReply (fun _ => some ()) answers.loading

namespace Script

variable {α : Type} (s : Script) (keys arguments : List String) (read : Reply → Option α)
  (answers : ScriptAnswers)

/-- The conversation in which a script is run.  It is run by its name; only if the server does not
know the name, the text is brought and, where the server takes it, the command repeated. -/
def said : Said :=
  if saysUnknown answers.first then
    ⟨s.command keys arguments, answers.first⟩ :: ⟨["SCRIPT", "LOAD", s.text], answers.loading⟩ ::
      match answers.loaded with
      | .ok () => [⟨s.command keys arguments, answers.again⟩]
      | .error _ => []
  else [⟨s.command keys arguments, answers.first⟩]

/-- What comes of a run of a script. -/
def outcome : Except Fault α :=
  if saysUnknown answers.first then do
    answers.loaded
    readReply read answers.again
  else readReply read answers.first

/-- A server that does not know a script refuses to run it, and says so. -/
theorem readReply_of_saysUnknown {answer : Option Reply} (h : saysUnknown answer) :
    ∃ line, readReply read answer = .error (.refused line) ∧ isUnknownScript line := by
  obtain ⟨line, hline, hunknown⟩ := (Option.any_eq_true _ _).1 h
  obtain ⟨r, rfl, hfailure⟩ := Option.bind_eq_some_iff.1 hline
  exact ⟨line, by simp only [readReply, hfailure], hunknown⟩

/-- A server that refuses something else knows the script. -/
theorem isUnknownScript_of_refused {answer : Option Reply} {line : String}
    (h : ¬ saysUnknown answer) (hrefused : readReply read answer = .error (.refused line)) :
    ¬ isUnknownScript line := by
  intro hunknown
  refine h ((Option.any_eq_true _ _).2 ⟨line, ?_, hunknown⟩)
  cases answer with
  | none => cases hrefused
  | some r =>
    simp only [readReply] at hrefused
    cases hfailure : r.failure? with
    | some line' =>
      rw [hfailure] at hrefused
      cases hrefused
      exact hfailure
    | none =>
      rw [hfailure] at hrefused
      cases hread : read r <;> rw [hread] at hrefused <;> cases hrefused

theorem talks_invoke : Talks (s.invoke keys arguments read).run (s.said keys arguments answers)
    (outcome read answers) := by
  have hfirst := talks_send (s.command keys arguments) read answers.first
  rw [said, outcome, invoke]
  split
  · rename_i hunknown
    obtain ⟨line, hline, hscript⟩ := readReply_of_saysUnknown read hunknown
    rw [hline] at hfirst
    refine hfirst.tryCatch_error (m := ⟨["SCRIPT", "LOAD", s.text], answers.loading⟩ :: _) ?_
    simp only [hscript, if_true]
    have hload : Talks _ _ answers.loaded :=
      talks_send ["SCRIPT", "LOAD", s.text] (fun _ => some ()) answers.loading
    cases hloaded : answers.loaded with
    | ok =>
      rw [hloaded] at hload
      exact hload.bind_ok (talks_send _ read answers.again)
    | error fault =>
      rw [hloaded] at hload
      exact hload.bind_error _
  · rename_i hknown
    cases hread : readReply read answers.first with
    | ok a =>
      rw [hread] at hfirst
      exact hfirst.tryCatch_ok _
    | error fault =>
      rw [hread] at hfirst
      refine hfirst.tryCatch_error (m := []) ?_
      cases fault with
      | refused line =>
        simp only [isUnknownScript_of_refused read hknown hread]
        exact talks_done _
      | unreadable | late => exact talks_done _

end Script

/-! ## Pages -/

/-- An index that is pruned: its key, and the answers that are prepared for the script. -/
structure Pruning where
  key : String
  answers : ScriptAnswers

/-- What is said while an index is pruned. -/
def Pruning.said (p : Pruning) : Said := pruneScript.said [p.key] [] p.answers

/-- How many sessions are dropped from an index, if its pruning succeeds. -/
def Pruning.count (p : Pruning) : Nat :=
  match Script.outcome Reply.count? p.answers with
  | .ok n => n
  | .error _ => 0

/-- A page of keys of indexes as a server answers with it. -/
structure Page where
  answer : Option Reply
  /-- The cursor of the next page, or zero after the last one. -/
  next : Nat
  /-- The indexes under the keys of the page. -/
  prunings : List Pruning

namespace Page

/-- Whether the answer can be read as the page. -/
def IsRead (p : Page) : Prop := readReply page? p.answer = .ok (p.next, p.prunings.map (·.key))

/-- What is said about the page at a cursor. -/
def said (c : Client) (cursor : Nat) (p : Page) : Said :=
  ⟨scanCommand c cursor, p.answer⟩ :: p.prunings.flatMap Pruning.said

/-- How many sessions are dropped from the indexes of the page. -/
def count (p : Page) : Nat := (p.prunings.map Pruning.count).sum

end Page

/-- What is said about some pages, the first of which is at a cursor and each other one at the
cursor that the page before it gives. -/
def saidOf (c : Client) : (cursor : Nat) → List Page → Said
  | _, [] => []
  | cursor, p :: ps => p.said c cursor ++ saidOf c p.next ps

/-- The cursor after some pages, the first of which is at a cursor. -/
def cursorAfter : (cursor : Nat) → List Page → Nat
  | cursor, [] => cursor
  | _, p :: ps => cursorAfter p.next ps

theorem saidOf_append (c : Client) (cursor : Nat) (ps qs : List Page) :
    saidOf c cursor (ps ++ qs) = saidOf c cursor ps ++ saidOf c (cursorAfter cursor ps) qs := by
  induction ps generalizing cursor with
  | nil => rfl
  | cons p ps ih => rw [List.cons_append, saidOf, saidOf, cursorAfter, ih, List.append_assoc]

theorem talks_prune (c : Client) (p : Pruning) : Talks (prune c p.key).run p.said
    ((Script.outcome Reply.count? p.answers).mapError (c.errorOf "prune")) :=
  (pruneScript.talks_invoke [p.key] [] Reply.count? p.answers).operation c "prune"

/-- All indexes of a page are pruned, whether it succeeds or not. -/
theorem talks_pruneAll (c : Client) (ps : List Pruning) :
    Talks (pruneAll c (ps.map (·.key))).run (ps.flatMap Pruning.said)
      (.ok (ps.map Pruning.count).sum) := by
  induction ps with
  | nil => exact talks_done _
  | cons p ps ih =>
    refine (talks_prune c p).attempt.bind_ok (m := ps.flatMap Pruning.said) ?_
    rw [← List.append_nil (ps.flatMap Pruning.said)]
    refine ih.bind_ok ?_
    rw [List.map_cons, List.sum_cons, Pruning.count]
    cases Script.outcome Reply.count? p.answers <;> exact talks_done _

theorem talks_scan (c : Client) (cursor : Nat) (answer : Option Reply) :
    Talks (scan c cursor).run [⟨scanCommand c cursor, answer⟩]
      ((readReply page? answer).mapError (c.errorOf "SCAN")) :=
  (talks_send _ page? answer).operation c "SCAN"

/-! ## Sweeps -/

/-- A page that is not given ends a sweep. -/
theorem talks_sweepFrom_of_fault (c : Client) (pages cursor : Nat) {answer : Option Reply}
    {fault : Fault} (h : readReply page? answer = .error fault) :
    Talks (sweepFrom c (pages + 1) cursor).run [⟨scanCommand c cursor, answer⟩]
      (.error (c.errorOf "SCAN" fault)) := by
  have hscan := talks_scan c cursor answer
  rw [h] at hscan
  exact hscan.bind_error _

/-- After a page whose cursor is zero nothing more is said. -/
theorem talks_sweepFrom_of_last (c : Client) (pages cursor : Nat) {p : Page} (hread : p.IsRead)
    (hlast : p.next = 0) :
    Talks (sweepFrom c (pages + 1) cursor).run (p.said c cursor) (.ok p.count) := by
  have hscan := talks_scan c cursor p.answer
  rw [hread] at hscan
  refine hscan.bind_ok (m := p.prunings.flatMap Pruning.said) ?_
  rw [← List.append_nil (p.prunings.flatMap Pruning.said)]
  refine (talks_pruneAll c p.prunings).bind_ok ?_
  rw [if_pos hlast]
  exact talks_done _

/-- After any other page the sweep goes on at its cursor. -/
theorem Talks.sweepFrom {c : Client} {pages : Nat} {p : Page} {more : Said}
    {r : Except Error Nat} (h : Talks (sweepFrom c pages p.next).run more r) (cursor : Nat)
    (hread : p.IsRead) (hnext : p.next ≠ 0) :
    Talks (Redis.sweepFrom c (pages + 1) cursor).run (p.said c cursor ++ more)
      (r.map (p.count + ·)) := by
  have hscan := talks_scan c cursor p.answer
  rw [hread] at hscan
  refine hscan.bind_ok (m := p.prunings.flatMap Pruning.said ++ more) ?_
  refine (talks_pruneAll c p.prunings).bind_ok ?_
  rw [if_neg hnext]
  cases r with
  | error e => exact h.bind_error _
  | ok n =>
    rw [← List.append_nil more]
    exact h.bind_ok (talks_done _)

/-- A sweep goes on through all pages that are not the last one. -/
theorem Talks.sweepPages {c : Client} {bound cursor : Nat} {pages : List Page} {more : Said}
    {r : Except Error Nat}
    (h : Talks (Redis.sweepFrom c bound (cursorAfter cursor pages)).run more r)
    (hpages : ∀ p ∈ pages, p.IsRead ∧ p.next ≠ 0) :
    Talks (Redis.sweepFrom c (pages.length + bound) cursor).run (saidOf c cursor pages ++ more)
      (r.map ((pages.map Page.count).sum + ·)) := by
  induction pages generalizing cursor with
  | nil =>
    rw [List.length_nil, Nat.zero_add]
    rw [cursorAfter] at h
    cases r <;> simpa [Except.map, saidOf] using h
  | cons p pages ih =>
    obtain ⟨⟨hread, hnext⟩, hpages⟩ := List.forall_mem_cons.1 hpages
    have hrest := (ih h hpages).sweepFrom cursor hread hnext
    rw [List.length_cons, Nat.add_right_comm, saidOf, List.append_assoc]
    cases r <;> simpa [Except.map, Nat.add_assoc] using hrest

/-- A sweep that is given its last page ends there. -/
theorem talks_sweepAll_of_last (c : Client) {pages : List Page} {last : Page}
    (hpages : ∀ p ∈ pages, p.IsRead ∧ p.next ≠ 0) (hread : last.IsRead) (hlast : last.next = 0)
    {bound : Nat} (hbound : pages.length < bound) :
    Talks (sweepAll c bound).run (saidOf c 0 (pages ++ [last]))
      (.ok ((pages ++ [last]).map Page.count).sum) := by
  obtain ⟨spare, rfl⟩ : ∃ spare, bound = pages.length + (spare + 1) :=
    ⟨bound - pages.length - 1, by omega⟩
  have h := (talks_sweepFrom_of_last c spare (cursorAfter 0 pages) hread hlast).sweepPages hpages
  rw [sweepAll]
  simpa [saidOf_append, saidOf, Except.map] using h

/-- **A sweep follows the cursors.**  It asks for a page at the cursor zero, prunes the index under
each key of the page in order, and goes on at the cursor that the page gave, until that is zero.  It
ends with the number of all sessions that were dropped, whatever failed when an index was pruned; if
a page is not given, it ends there with the error that says so.  Answers that would come after the
end are not waited for. -/
theorem sweepAll_talks (c : Client) {pages : List Page}
    (hpages : ∀ p ∈ pages, p.IsRead ∧ p.next ≠ 0) {bound : Nat} (hbound : pages.length < bound) :
    (∀ last : Page, last.IsRead → last.next = 0 →
      Talks (sweepAll c bound).run (saidOf c 0 (pages ++ [last]))
        (.ok ((pages ++ [last]).map Page.count).sum)) ∧
    ∀ answer fault, readReply page? answer = .error fault →
      Talks (sweepAll c bound).run
        (saidOf c 0 pages ++ [⟨scanCommand c (cursorAfter 0 pages), answer⟩])
        (.error (c.errorOf "SCAN" fault)) ∧
      (c.errorOf "SCAN" fault).kind = .cache := by
  obtain ⟨spare, rfl⟩ : ∃ spare, bound = pages.length + (spare + 1) :=
    ⟨bound - pages.length - 1, by omega⟩
  refine ⟨fun last hread hlast => talks_sweepAll_of_last c hpages hread hlast hbound,
    fun answer fault hfault => ⟨?_, ?_⟩⟩
  · exact (talks_sweepFrom_of_fault c spare (cursorAfter 0 pages) hfault).sweepPages hpages
  · cases fault <;> rfl

/-- A page with three keys: one index is pruned, pruning one fails, and for one the script has to be
brought. -/
def threeKeys : Page where
  answer := some (.list [.bulk "5", .list [.bulk "a", .bulk "b", .bulk "c"]])
  next := 5
  prunings := [⟨"a", some (.integer 1), none, none⟩, ⟨"b", some (.failure "ERR"), none, none⟩,
    ⟨"c", some (.failure "NOSCRIPT"), some (.status "OK"), some (.integer 2)⟩]

/-- A last page with a key that was there before. -/
def oneKey : Page where
  answer := some (.list [.integer 0, .list [.bulk "a"]])
  next := 0
  prunings := [⟨"a", some (.integer 1), none, none⟩]

/-- The sessions of both pages are counted, but not if the last page is not given in time. -/
theorem sweepAll_talks_threeKeys :
    let c : Client := ⟨"app:", 2000⟩
    (∀ p ∈ [threeKeys], p.IsRead ∧ p.next ≠ 0) ∧ [threeKeys].length < 2 ∧
      oneKey.IsRead ∧ oneKey.next = 0 ∧ readReply page? none = .error .late ∧
      Talks (sweepAll c 2).run (saidOf c 0 ([threeKeys] ++ [oneKey])) (.ok 4) ∧
      Talks (sweepAll c 2).run (saidOf c 0 [threeKeys] ++ [⟨scanCommand c 5, none⟩])
        (.error (.redisTimedOut "SCAN" 2000)) := by
  intro c
  have hread : threeKeys.IsRead := rfl
  have hread' : oneKey.IsRead := rfl
  have hpages : ∀ p ∈ [threeKeys], p.IsRead ∧ p.next ≠ 0 :=
    List.forall_mem_singleton.2 ⟨hread, by decide⟩
  have hsum : (([threeKeys] ++ [oneKey]).map Page.count).sum = 4 := by decide
  obtain ⟨hlast, hfault⟩ := sweepAll_talks c hpages (by decide : [threeKeys].length < 2)
  have hdone := hlast oneKey hread' rfl
  rw [hsum] at hdone
  exact ⟨hpages, by decide, hread', rfl, rfl, hdone, (hfault none .late rfl).1⟩

end Redis
end SessionAuth
