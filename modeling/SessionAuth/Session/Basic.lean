import SessionAuth.User.Basic

/-!
# Sessions

A session begins with a login and is carried on by refresh tokens: its record holds the id of the
one refresh token that may carry it on.
-/

set_option autoImplicit false

namespace SessionAuth

/-- The record of a session. -/
structure Session where
  id : String
  userId : UserId
  device : String
  ip : String
  /-- The id of the refresh token that carries the session on. -/
  currentJti : String
  createdAt : Timestamp
  updatedAt : Timestamp
  expiresAt : Timestamp
  deriving DecidableEq

/-- What the owner of a session is shown. -/
structure SessionView where
  id : String
  device : String
  ip : String
  createdAt : Timestamp
  updatedAt : Timestamp
  expiresAt : Timestamp
  /-- Whether it is the session of the request. -/
  current : Bool
  deriving DecidableEq

/-- The session as it is shown in a request of the session with id `current`. -/
def Session.view (s : Session) (current : String) : SessionView where
  id := s.id
  device := s.device
  ip := s.ip
  createdAt := s.createdAt
  updatedAt := s.updatedAt
  expiresAt := s.expiresAt
  current := s.id == current

/-- How long a session and the id of its refresh token live, in seconds. -/
structure Ttls where
  session : Int
  jti : Int
  deriving DecidableEq, Repr

/-- Whether both live at all. -/
def Ttls.isValid (t : Ttls) : Bool := 0 < t.session && 0 < t.jti

/-- The exchange of a session's refresh token for a new one. -/
structure Rotation where
  /-- The id of the token that is presented. -/
  oldJti : String
  /-- The id of the token that takes its place. -/
  newJti : String
  ip : String
  device : String
  updatedAt : Timestamp
  expiresAt : Timestamp
  ttls : Ttls
  deriving DecidableEq

/-- The record of a session after the exchange of its refresh token. -/
def Session.rotated (s : Session) (r : Rotation) : Session :=
  { s with
    currentJti := r.newJti
    ip := r.ip
    device := r.device
    updatedAt := r.updatedAt
    expiresAt := r.expiresAt }

/-! ## JSON -/

def Session.toJson (s : Session) : Json :=
  .obj [("id", .str s.id), ("user_id", s.userId.toJson), ("device", .str s.device),
    ("ip", .str s.ip), ("current_jti", .str s.currentJti), ("created_at", s.createdAt.toJson),
    ("updated_at", s.updatedAt.toJson), ("expires_at", s.expiresAt.toJson)]

instance : Json.Encode Session := ⟨Session.toJson⟩

def SessionView.toJson (v : SessionView) : Json :=
  .obj [("id", .str v.id), ("device", .str v.device), ("ip", .str v.ip),
    ("created_at", v.createdAt.toJson), ("updated_at", v.updatedAt.toJson),
    ("expires_at", v.expiresAt.toJson), ("current", .bool v.current)]

instance : Json.Encode SessionView := ⟨SessionView.toJson⟩

namespace Json.Decode

def session : Decoder Session :=
  (Session.mk <$> Record.required "id" string <*> Record.required "user_id" uuid
    <*> Record.required "device" string <*> Record.required "ip" string
    <*> Record.required "current_jti" string <*> Record.required "created_at" timestamp
    <*> Record.required "updated_at" timestamp <*> Record.required "expires_at" timestamp).decode

def sessionView : Decoder SessionView :=
  (SessionView.mk <$> Record.required "id" string <*> Record.required "device" string
    <*> Record.required "ip" string <*> Record.required "created_at" timestamp
    <*> Record.required "updated_at" timestamp <*> Record.required "expires_at" timestamp
    <*> Record.required "current" bool).decode

end Json.Decode
end SessionAuth
