/-!
# Programs over an interface

An `Interface` is a family of questions with a type of answers for each.  A `Program` asks finitely
many of them, one after the other, and ends with a result; what it asks next may depend on the
answers so far.  Since a program says nothing about who answers, its questions may be answered by
one party from first to last (`Program.run`) or between those of other programs.

## What is here

* `Program I` is a lawful monad.
* `Program.run` answers all questions from a state, `run_bind` says that this follows the program.
* `Program.interpret` replaces each question by a program over another interface, and
  `interpret_bind` says that this keeps the order of the questions.
-/

set_option autoImplicit false

namespace SessionAuth

/-- Questions, and the type of the answers to each. -/
structure Interface where
  Question : Type
  Answer : Question → Type

/-- A finite conversation that ends with a result. -/
inductive Program (I : Interface) (α : Type) : Type where
  | done (a : α)
  | ask (q : I.Question) (next : I.Answer q → Program I α)

namespace Program

variable {I : Interface} {α β γ : Type}

/-- The program that goes on with another one, which depends on its result. -/
def bind : Program I α → (α → Program I β) → Program I β
  | done a, f => f a
  | ask q next, f => ask q fun r => (next r).bind f

instance : Monad (Program I) where
  pure := done
  bind := bind

@[simp] theorem pure_eq (a : α) : (pure a : Program I α) = done a := rfl

@[simp] theorem done_bind (a : α) (f : α → Program I β) : (done a >>= f) = f a := rfl

@[simp] theorem ask_bind (q : I.Question) (next : I.Answer q → Program I α)
    (f : α → Program I β) : (ask q next >>= f) = ask q fun r => next r >>= f := rfl

theorem bind_done (p : Program I α) : (p >>= done) = p := by
  induction p with
  | done a => rfl
  | ask q next ih => simp only [ask_bind, ih]

theorem bind_bind (p : Program I α) (f : α → Program I β) (g : β → Program I γ) :
    (p >>= f >>= g) = p >>= fun a => f a >>= g := by
  induction p with
  | done a => rfl
  | ask q next ih => simp only [ask_bind, ih]

instance : LawfulMonad (Program I) :=
  LawfulMonad.mk' (Program I) bind_done (fun _ _ => rfl) bind_bind

/-- The program that asks one question. -/
def question (q : I.Question) : Program I (I.Answer q) := ask q done

/-! ## Interpreting -/

/-- The program over another interface that puts a program in the place of each question. -/
def interpret {J : Interface} (f : (q : I.Question) → Program J (I.Answer q)) :
    Program I α → Program J α
  | done a => done a
  | ask q next => f q >>= fun r => (next r).interpret f

theorem interpret_bind {J : Interface} (f : (q : I.Question) → Program J (I.Answer q))
    (p : Program I α) (g : α → Program I β) :
    (p >>= g).interpret f = p.interpret f >>= fun a => (g a).interpret f := by
  induction p with
  | done a => rfl
  | ask q next ih =>
    simp only [ask_bind, interpret, bind_assoc]
    exact congrArg _ (funext ih)

/-! ## Answering -/

/-- A way to answer all questions of an interface from a state. -/
abbrev Server (I : Interface) (σ : Type) : Type := (q : I.Question) → σ → I.Answer q × σ

variable {σ : Type}

/-- The result of a program and the state that it leaves, all questions being answered one after the
other. -/
def run (answer : Server I σ) : Program I α → σ → α × σ
  | done a, s => (a, s)
  | ask q next, s => (next (answer q s).1).run answer (answer q s).2

theorem run_bind (answer : Server I σ) (p : Program I α) (f : α → Program I β) (s : σ) :
    (p >>= f).run answer s = (f (p.run answer s).1).run answer (p.run answer s).2 := by
  induction p generalizing s with
  | done a => rfl
  | ask q next ih => exact ih (answer q s).1 (answer q s).2

end Program
end SessionAuth
