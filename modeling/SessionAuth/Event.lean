import SessionAuth.User.Named

/-!
# Invalidation events

An event says that something changed on which cached answers or open sessions depend.  In JSON it is
an object whose member `type` names the kind, or a list that begins with that name.
-/

set_option autoImplicit false

namespace SessionAuth

/-- The kinds of events. -/
inductive EventKind where
  | userChanged
  | userDeleted
  | roleChanged
  deriving DecidableEq, Repr, Inhabited

/-- Something changed. -/
inductive Event where
  | userChanged (user : UserId)
  | userDeleted (user : UserId)
  | roleChanged (role : String)
  deriving DecidableEq

namespace EventKind

def all : List EventKind := [userChanged, userDeleted, roleChanged]

def name : EventKind → String
  | userChanged => "user_changed"
  | userDeleted => "user_deleted"
  | roleChanged => "role_changed"

/-- The kinds by their names. -/
def byName : List (String × EventKind) := all.map fun k => (k.name, k)

end EventKind

def Event.kind : Event → EventKind
  | userChanged _ => .userChanged
  | userDeleted _ => .userDeleted
  | roleChanged _ => .roleChanged

/-! ## JSON -/

def Event.toJson (e : Event) : Json :=
  .obj (("type", .str e.kind.name) :: match e with
    | userChanged user => [("user_id", user.toJson)]
    | userDeleted user => [("user_id", user.toJson)]
    | roleChanged role => [("role", .str role)])

instance : Json.Encode Event := ⟨Event.toJson⟩

namespace Json.Decode

def eventKind : Decoder EventKind := name EventKind.byName

/-- The event of a kind, from its other members or items. -/
def eventOf : EventKind → Decoder Event
  | .userChanged => (Event.userChanged <$> Record.required "user_id" uuid).decode
  | .userDeleted => (Event.userDeleted <$> Record.required "user_id" uuid).decode
  | .roleChanged => (Event.roleChanged <$> Record.required "role" string).decode

/-- The kind that the type of an event names. -/
def eventType (v : Json) : Except Objection EventKind := do
  match EventKind.byName.lookup (← string v) with
  | some k => .ok k
  | none => .error .mismatch

/-- The greatest depth of the members of an event. -/
def maxEventDepth : Nat := 126

mutual

/-- Whether a value is complete and all its texts and numbers can be represented. -/
def isRepresentable : Json → Bool
  | .cut | .unpaired => false
  | .int i => !isHuge i.natAbs 0
  | .real m e => !isHuge m.natAbs e
  | .arr vs => itemsRepresentable vs
  | .obj ms => membersRepresentable ms
  | _ => true

def itemsRepresentable : List Json → Bool
  | [] => true
  | v :: vs => isRepresentable v && itemsRepresentable vs

def membersRepresentable : List (String × Json) → Bool
  | [] => true
  | (_, v) :: ms => isRepresentable v && membersRepresentable ms

end

/-- An event, all of whose members have to be representable, also the unknown ones. -/
def event : Decoder Event := fun v => do
  if !isRepresentable v || maxEventDepth < v.depth - 1 then throw .malformed
  match v with
  | .obj ms =>
    match ms.filter fun m => m.1 == "type" with
    | [(_, tag)] => eventOf (← eventType tag) (.obj (ms.filter fun m => m.1 != "type"))
    | _ => throw .mismatch
  | .arr (tag :: rest) => eventOf (← eventType tag) (.arr rest)
  | _ => throw .mismatch

end Json.Decode
end SessionAuth
