/-!
# Kinds of tokens

An access token is shown with every request; a refresh token is exchanged once for a new pair.
-/

set_option autoImplicit false

namespace SessionAuth

/-- What a token is for. -/
inductive TokenKind where
  | access
  | refresh
  deriving DecidableEq, Repr, Inhabited

namespace TokenKind

def all : List TokenKind := [access, refresh]

def name : TokenKind → String
  | access => "access"
  | refresh => "refresh"

/-- The kinds by their names. -/
def byName : List (String × TokenKind) := all.map fun k => (k.name, k)

end TokenKind
end SessionAuth
