import SessionAuth.Event

/-!
# Who handles which events

Handlers are registered for kinds of events, one kind at a time.  A handler that is registered twice
for a kind handles each event of the kind twice.
-/

set_option autoImplicit false

namespace SessionAuth

/-- Handlers with the kinds of events that they handle, in the order of their registration. -/
structure Registry (H : Type) where
  entries : List (EventKind × H)

namespace Registry

variable {H : Type}

def empty : Registry H := ⟨[]⟩

/-- The registry with one more entry. -/
def register (r : Registry H) (kind : EventKind) (handler : H) : Registry H :=
  ⟨r.entries ++ [(kind, handler)]⟩

/-- The handlers of a kind of events. -/
def handlers (r : Registry H) (kind : EventKind) : List H :=
  (r.entries.filter fun e => e.1 == kind).map (·.2)

end Registry
end SessionAuth
