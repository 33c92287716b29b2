import SessionAuth.Crypto.Sha256
import SessionAuth.Settings.Basic
import SessionAuth.Text.Base64
import SessionAuth.Token.Claims

/-!
# Signed tokens

A token is `header.payload.signature`: three texts in the Base64 of URLs, of which the first two are
JSON and the last is the HMAC-SHA256 of what is before it.  `Codec.issue` makes tokens and
`Codec.parse` accepts them at the right time.

An expired token is told apart from one that is wrong otherwise: the remaining checks are made
before a token is reported as expired.
-/

set_option autoImplicit false

namespace SessionAuth

open Text Crypto

/-- What making and accepting tokens depends on. -/
structure Codec where
  /-- The key of signatures. -/
  secret : List UInt8
  /-- By how many seconds clocks may differ. -/
  leeway : Nat
  /-- The lifetime of access tokens, in seconds. -/
  accessTtl : Nat
  /-- The lifetime of refresh tokens, in seconds. -/
  refreshTtl : Nat
  deriving DecidableEq

namespace Codec

def ofSettings (s : AuthSettings) : Codec where
  secret := octets s.jwtSecret
  leeway := s.leewaySeconds.toNat
  accessTtl := s.accessTtl
  refreshTtl := s.refreshTtl

/-- The signature of what is before it in a token. -/
def signature (c : Codec) (message : List Char) : List UInt8 :=
  hmac c.secret (octets (String.ofList message))

/-! ## Making tokens -/

/-- The header of all tokens that are made. -/
def headerText : String := "\x7b\"typ\":\"JWT\",\"alg\":\"HS256\"\x7d"

/-- A text in the Base64 of URLs. -/
def armor (s : String) : List Char := Base64.encode .url (octets s)

/-- The token with the given claims. -/
def encode (c : Codec) (claims : Claims) : String :=
  let message := armor headerText ++ '.' :: armor claims.toJson.compress
  String.ofList (message ++ '.' :: Base64.encode .url (c.signature message))

/-- A token and what it says. -/
structure Issued where
  token : String
  claims : Claims
  deriving DecidableEq

/-- Makes a token of any kind, with a lifetime in seconds. -/
def issue (c : Codec) (now : Timestamp) (kind : TokenKind) (user : UserId) (session jti : String)
    (ttl : Nat) : Except Error Issued :=
  if user.isNil then .error .subjectMissing
  else if jti.isEmpty then .error .tokenIdMissing
  else if ttl = 0 ∨ maxInt64 < ttl then .error .lifetimeTooShort
  else
    let claims : Claims := {
      userId := user
      sessionId := session
      kind := kind
      jti := jti
      issuer := issuer
      audiences := [audience]
      issuedAt := now.seconds
      notBefore := now.seconds
      expires := now.seconds + ttl }
    .ok ⟨c.encode claims, claims⟩

/-- Makes an access token. -/
def issueAccess (c : Codec) (now : Timestamp) (user : UserId) (session jti : String) (ttl : Nat) :
    Except Error Issued :=
  if session.isEmpty then .error .sessionIdMissing
  else c.issue now .access user session jti ttl

/-- Makes a refresh token. -/
def issueRefresh (c : Codec) (now : Timestamp) (user : UserId) (jti : String) (ttl : Nat) :
    Except Error Issued :=
  c.issue now .refresh user "" jti ttl

/-! ## Reading tokens -/

/-- The parts of a token. -/
structure Parts where
  header : List Char
  payload : List Char
  signature : List Char

/-- Cuts a token at its last two dots. -/
def cut? (token : List Char) : Option Parts :=
  (cutLast '.' token).bind fun (message, signature) =>
    (cutLast '.' message).map fun (header, payload) => ⟨header, payload, signature⟩

/-- What was signed. -/
def Parts.message (p : Parts) : List Char := p.header ++ '.' :: p.payload

/-- The algorithms that a header may name; only the first one is in use. -/
def algorithms : List String :=
  ["HS256", "HS384", "HS512", "ES256", "ES384", "RS256", "RS384", "RS512", "PS256", "PS384",
    "PS512", "EdDSA"]

/-- One of some names. -/
def oneOf (names : List String) : Json.Decoder String :=
  Json.Decode.name (names.map fun n => (n, n))

/-- Members that are looked at: texts, lists of texts, and one of its own kind. -/
def glances (texts lists : List String) (name : String) (d : Json.Decoder Unit) :
    List (Json.Record Unit) :=
  texts.map (Json.Record.glance Json.Decode.string) ++
    lists.map (Json.Record.glance (Json.Decode.list Json.Decode.string)) ++
      [Json.Record.glance d name]

/-- The members of a key that are texts. -/
def keyTexts : List String := ["use", "kid", "x5u", "x5t", "x5t#S256"]

/-- The members of a key that are lists of texts. -/
def keyLists : List String := ["key_ops", "x5c"]

/-- The algorithm of a key, of which any name will do. -/
def keyAlgorithm : Json.Decoder Unit
  | .str _ | .obj [(_, .null)] | .obj [(_, .obj [])] => .ok ()
  | _ => .error .mismatch

/-- The members that any key may have. -/
def anyKey : Json.Record Unit :=
  Json.Record.beside (pure ()) (glances keyTexts keyLists "alg" keyAlgorithm)

/-- The curves of keys. -/
def curves : List String := ["P-256", "P-384", "P-521", "Ed25519"]

/-- The members that a key has to have, by its type. -/
def keyMembers : List (String × List String) :=
  [("EC", ["crv", "x", "y"]), ("RSA", ["n", "e"]), ("oct", ["k"]), ("OKP", ["crv", "x"])]

/-- A member that belongs to a type of keys. -/
def keyMember (name : String) : Json.Record Unit :=
  (fun _ => ()) <$> Json.Record.required name
    (if name = "crv" then oneOf curves else Json.Decode.string)

/-- A key of a type, with the members that belong to it. -/
def keyOf (kty : String) (names : List String) : Json.Record Unit :=
  Json.Record.beside ((fun _ => ()) <$> Json.Record.required "kty" (oneOf [kty]))
    (names.map keyMember)

/-- Whether the members of a key have a type with all that belongs to it. -/
def hasKeyType (ms : List (String × Json)) : Bool :=
  keyMembers.any fun (kty, names) => ((keyOf kty names).ofMembers (fun _ _ => .ok ()) ms).isOk

/-- A key in a header.  Its members are kept until all of them are there and then decoded twice,
once for what any key may have and once for what belongs to its type. -/
def headerKey : Json.Decoder Unit
  | .obj ms => do
    if !(Json.obj ms).isKeepable then throw .malformed
    anyKey.ofMembers (fun _ _ => .ok ()) ms
    if hasKeyType ms then .ok () else .error .mismatch
  | _ => .error .mismatch

/-- The members of a header that are texts. -/
def textMembers : List String :=
  ["typ", "cty", "jku", "kid", "x5u", "x5t", "x5t#S256", "enc", "zip", "url", "nonce"]

/-- The members of a header that are lists of texts. -/
def listMembers : List String := ["x5c", "crit"]

/-- The members of a header, of which only the algorithm is kept. -/
def headerRecord : Json.Record String :=
  (Json.Record.required "alg" (oneOf algorithms)).beside
    (glances textMembers listMembers "jwk" headerKey)

/-- The header of a token, whose other members are texts. -/
def header : Json.Decoder String
  | .obj ms => headerRecord.ofMembers (fun _ v => (Json.Decode.string v).map fun _ => ()) ms
  | _ => .error .mismatch

/-- Decodes a part of a token. -/
def decodePart {α : Type} (d : Json.Decoder α) (part : List Char) : Except TokenFault α :=
  match Base64.decode .url part with
  | none => .error .base64
  | some bs =>
    match Json.decodeOctets d bs with
    | .ok a => .ok a
    | .error _ => .error .json

/-- Claims, next to which a subject stands only once and as a plain value. -/
def payload : Json.Decoder Claims := fun v => do
  let claims ← Json.Decode.claims v
  match v with
  | .obj ms =>
    match ms.filter fun m => m.1 == "sub" with
    | [] => .ok claims
    | [(_, .arr _)] | [(_, .obj _)] | [(_, .unpaired)] => .error .malformed
    | [_] => .ok claims
    | _ => .error .mismatch
  | _ => .ok claims

/-- The claims of a token with a valid signature. -/
def verify (c : Codec) (token : String) : Except TokenFault Claims := do
  let some parts := cut? token.toList | throw .format
  let alg ← decodePart header parts.header
  if alg ≠ "HS256" then throw .algorithm
  let some sig := Base64.decode .url parts.signature | throw .base64
  if sig ≠ c.signature parts.message then throw .signature
  decodePart payload parts.payload

/-- Checks times, issuer and audience; `now` is in seconds.  Seconds are counted from the epoch
without a sign, so that a leeway above the present time leaves no time to compare an expiry with;
then every token has expired. -/
def validate (c : Codec) (now : Int) (claims : Claims) (checkExpiry : Bool) :
    Except Error Unit :=
  if checkExpiry ∧ claims.expires < 0 then .error (.token (.missingClaim "exp"))
  else if claims.notBefore < 0 then .error (.token (.missingClaim "nbf"))
  else if checkExpiry ∧ (now < c.leeway ∨ claims.expires < now - c.leeway) then
    .error .tokenExpired
  else if now + c.leeway < claims.notBefore then .error (.token .early)
  else if claims.issuer ≠ issuer then .error (.token .issuer)
  else if !claims.audiences.contains audience then .error (.token .audience)
  else .ok ()

/-- The claims of a token that is accepted now.  A token counts as expired only if it passes the
other checks of times, issuer and audience. -/
def parse (c : Codec) (now : Timestamp) (token : String) (expected : TokenKind) :
    Except Error Claims :=
  match c.verify token with
  | .error fault => .error (.token fault)
  | .ok claims =>
    match c.validate now.seconds claims true with
    | .error .tokenExpired =>
      match c.validate now.seconds claims false with
      | .error e => .error e
      | .ok () => .error .tokenExpired
    | .error e => .error e
    | .ok () =>
      if claims.kind ≠ expected then .error (.token (.wrongKind expected))
      else match claims.check with
        | .error fault => .error (.token fault)
        | .ok () => .ok claims

end Codec
end SessionAuth
