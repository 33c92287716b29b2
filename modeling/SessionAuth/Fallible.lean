import SessionAuth.Error
import SessionAuth.Program

/-!
# Programs that may fail

A `Fallible` program ends with a result or with an error; what follows an error is not run.
-/

set_option autoImplicit false

namespace SessionAuth

/-- Programs that end with a result or an error. -/
abbrev Fallible (I : Interface) (α : Type) : Type := ExceptT Error (Program I) α

namespace Fallible

variable {I : Interface} {α : Type}

/-- The program whose result may be an error. -/
def ofProgram (p : Program I (Except Error α)) : Fallible I α := ExceptT.mk p

/-- The program that ends with an error as its result instead of failing. -/
def attempt (p : Fallible I α) : Fallible I (Except Error α) := ExceptT.lift p.run

/-- The result or the error of a program, and the state that it leaves. -/
def runOn {σ : Type} (answer : Program.Server I σ) (p : Fallible I α) (s : σ) :
    Except Error α × σ :=
  Program.run answer p.run s

end Fallible
end SessionAuth
