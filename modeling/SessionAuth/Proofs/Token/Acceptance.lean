import SessionAuth.Proofs.Token.Header
import SessionAuth.Proofs.Token.Lifetime

/-!
# Which texts are accepted as tokens

`Codec.parse` cuts a text, decodes its parts and checks what it finds, in an order of its own and
partly twice.  Here is what all this amounts to, said of the text alone.  A token `Says` something
if it is what the codec writes for a header with the right algorithm and a payload that decodes to
the claims (`verify_eq_ok_iff`): there is one signature for every message, and one text for every
signature.  The header is the JSON text of an object with the members of a header (`says_iff`).

* `parse_accepts_iff`: a text is accepted just if it says claims that are `Acceptable` at that time.
* `parse_tokenExpired_iff`: a token is reported as expired just if its lifetime is over and it is
  `Addressed` to this service.  Its kind and the rest of its claims are not looked at by then, so
  that a token of the wrong kind is reported as expired as well (`not_always_soleDefect`).
-/

set_option autoImplicit false

namespace SessionAuth

open Text Crypto

namespace Codec

variable {c : Codec} {token : String} {claims : Claims}

/-! ## What a token says -/

/-- The text of a token from its header and its payload, in octets. -/
def sealed (c : Codec) (head body : List UInt8) : List Char :=
  let message := Base64.encode .url head ++ '.' :: Base64.encode .url body
  message ++ '.' :: Base64.encode .url (hmac c.secret (octets (String.ofList message)))

/-- A text is a token with a signature of the codec and the algorithm in use, and has these
claims. -/
def Says (c : Codec) (token : String) (claims : Claims) : Prop :=
  ∃ head body, token.toList = c.sealed head body ∧
    Json.decodeOctets header head = .ok "HS256" ∧ Json.decodeOctets payload body = .ok claims

/-- The header is a whole JSON text. -/
theorem says_iff : c.Says token claims ↔ ∃ head body ms, token.toList = c.sealed head body ∧
    Json.parse? (String.ofList (Json.charactersOf head)) = some (.obj ms) ∧ IsHeader "HS256" ms ∧
      Json.decodeOctets payload body = .ok claims := by
  constructor
  · rintro ⟨head, body, htoken, hhead, hbody⟩
    obtain ⟨ms, hparse, hheader⟩ := decodeOctets_header_iff.1 hhead
    exact ⟨head, body, ms, htoken, hparse, hheader, hbody⟩
  · rintro ⟨head, body, ms, htoken, hparse, hheader, hbody⟩
    exact ⟨head, body, htoken, decodeOctets_header_iff.2 ⟨ms, hparse, hheader⟩, hbody⟩

theorem cut?_eq_some {cs : List Char} {parts : Parts} (h : cut? cs = some parts) :
    cs = parts.message ++ '.' :: parts.signature := by
  obtain ⟨⟨message, signature⟩, houter, hinner⟩ := Option.bind_eq_some_iff.1 h
  obtain ⟨⟨head, body⟩, hcut, rfl⟩ := Option.map_eq_some_iff.1 hinner
  rw [cutLast_eq_some houter, cutLast_eq_some hcut]
  rfl

/-- A part decodes just if it is the text of octets that do. -/
theorem decodePart_eq_ok_iff {α : Type} {d : Json.Decoder α} {part : List Char} {a : α} :
    decodePart d part = .ok a ↔
      ∃ bs, Base64.encode .url bs = part ∧ Json.decodeOctets d bs = .ok a := by
  constructor
  · intro h
    rw [decodePart] at h
    split at h
    · cases h
    rename_i bs hbs
    split at h
    · rename_i b hb
      cases h
      exact ⟨bs, Base64.encode_of_decode hbs, hb⟩
    · cases h
  · rintro ⟨bs, rfl, h⟩
    simp only [decodePart, Base64.decode_encode, h]

/-- What was verified, part by part; the converse is `verify_of_parts`. -/
theorem parts_of_verify (h : c.verify token = .ok claims) : ∃ parts,
    cut? token.toList = some parts ∧ decodePart header parts.header = .ok "HS256" ∧
      Base64.decode .url parts.signature = some (c.signature parts.message) ∧
        decodePart payload parts.payload = .ok claims := by
  simp only [verify, bind, Except.bind] at h
  split at h
  case h_2 => cases h
  rename_i parts hcut
  split at h
  · cases h
  rename_i alg halg
  split at h
  case isTrue => cases h
  rename_i hhs
  split at h
  case h_2 => cases h
  rename_i sig hsig
  split at h
  case isTrue => cases h
  rename_i hsame
  obtain rfl : alg = "HS256" := Decidable.of_not_not hhs
  obtain rfl : sig = c.signature parts.message := Decidable.of_not_not hsame
  exact ⟨parts, hcut, halg, hsig, h⟩

/-- **What is verified.**  The text of a token is fixed by its header and payload, since only
written texts are read from Base64. -/
theorem verify_eq_ok_iff : c.verify token = .ok claims ↔ c.Says token claims := by
  constructor
  · intro h
    obtain ⟨parts, hcut, hheader, hsignature, hpayload⟩ := parts_of_verify h
    obtain ⟨head, hhead, hheader⟩ := decodePart_eq_ok_iff.1 hheader
    obtain ⟨body, hbody, hpayload⟩ := decodePart_eq_ok_iff.1 hpayload
    refine ⟨head, body, ?_, hheader, hpayload⟩
    rw [cut?_eq_some hcut, ← Base64.encode_of_decode hsignature, Parts.message, ← hhead, ← hbody]
    rfl
  · rintro ⟨head, body, htoken, hheader, hpayload⟩
    have hcut := cut?_append (Base64.encode .url head) (dot_not_mem_encode body)
      (dot_not_mem_encode (c.signature (Base64.encode .url head ++ '.' :: Base64.encode .url body)))
    exact verify_of_parts ((congrArg cut? htoken).trans hcut)
      (decodePart_eq_ok_iff.2 ⟨head, rfl, hheader⟩) (Base64.decode_encode _ _)
      (decodePart_eq_ok_iff.2 ⟨body, rfl, hpayload⟩)

/-- A token says one thing at most. -/
theorem Says.unique {others : Claims} (h : c.Says token claims) (h' : c.Says token others) :
    claims = others :=
  Except.ok.inj ((verify_eq_ok_iff.2 h).symm.trans (verify_eq_ok_iff.2 h'))

/-! ## What is checked -/

/-- Claims that are meant for this service and in force already. -/
structure Addressed (c : Codec) (now : Int) (claims : Claims) : Prop where
  issuer : claims.issuer = issuer
  audience : audience ∈ claims.audiences
  notBefore : 0 ≤ claims.notBefore ∧ claims.notBefore ≤ now + c.leeway

/-- Claims with which a token is accepted as one of a kind. -/
structure Acceptable (c : Codec) (now : Int) (expected : TokenKind) (claims : Claims) : Prop extends
    Addressed c now claims where
  expires : 0 ≤ claims.expires ∧ now - c.leeway ≤ claims.expires
  lifetime : claims.issuedAt < claims.expires
  user : claims.userId ≠ .nil
  jti : claims.jti ≠ ""
  kind : claims.kind = expected
  /-- Access tokens have a session, and refresh tokens have none. -/
  session : claims.sessionId = "" ↔ expected = .refresh

/-- Claims whose lifetime is over.  There is no time to compare it with while the leeway exceeds the
present time; then it counts as over. -/
structure Lapsed (c : Codec) (now : Int) (claims : Claims) : Prop where
  nonneg : 0 ≤ claims.expires
  past : claims.expires + c.leeway < now ∨ now < c.leeway

/-- Without the expiry, times, issuer and audience are what is validated. -/
theorem validate_unexpiring_iff {now : Int} :
    c.validate now claims false = .ok () ↔ Addressed c now claims := by
  simp only [validate, Bool.false_eq_true, false_and, if_false, Bool.not_eq_true']
  split
  · exact iff_of_false (by simp) fun h => absurd h.notBefore.1 (by omega)
  split
  · exact iff_of_false (by simp) fun h => absurd h.notBefore.2 (by omega)
  split
  · rename_i hissuer
    exact iff_of_false (by simp) fun h => hissuer h.issuer
  split
  · rename_i haudience
    exact iff_of_false (by simp) fun h => by simp [h.audience] at haudience
  · rename_i hissuer haudience
    refine iff_of_true rfl ⟨Decidable.of_not_not hissuer, by simpa using haudience, ?_⟩
    omega

/-- The expiry is looked at before all but the presence of times. -/
theorem validate_tokenExpired_iff {now : Int} :
    c.validate now claims true = .error .tokenExpired ↔
      Lapsed c now claims ∧ 0 ≤ claims.notBefore := by
  simp only [validate, true_and]
  split
  · exact iff_of_false (by simp) fun h => absurd h.1.nonneg (by omega)
  split
  · exact iff_of_false (by simp) fun h => absurd h.2 (by omega)
  split
  · rename_i hover
    exact iff_of_true rfl ⟨⟨by omega, by omega⟩, by omega⟩
  · -- the checks that follow report no expiry
    rename_i hover
    refine iff_of_false ?_ fun h => hover (h.1.past.symm.imp id fun h => by omega)
    repeat' split
    all_goals simp

/-- What claims should have and should not. -/
theorem check_eq_ok_iff : claims.check = .ok () ↔ claims.userId ≠ .nil ∧ claims.jti ≠ "" ∧
    (claims.sessionId = "" ↔ claims.kind = .refresh) ∧ claims.issuedAt < claims.expires := by
  rw [Claims.check]
  split
  · rename_i hnil
    exact iff_of_false (by simp) fun h => h.1 (Uuid.isNil_iff.1 hnil)
  rename_i hnil
  split
  · rename_i hjti
    exact iff_of_false (by simp) fun h => h.2.1 (String.isEmpty_iff.1 hjti)
  rename_i hjti
  split
  · rename_i hsession
    obtain ⟨hkind, hempty⟩ := hsession
    refine iff_of_false (by simp) fun h => ?_
    cases hkind.symm.trans (h.2.2.1.1 (String.isEmpty_iff.1 hempty))
  rename_i haccess
  split
  · rename_i hsession
    obtain ⟨hkind, hempty⟩ := hsession
    refine iff_of_false (by simp) fun h => ?_
    simp [h.2.2.1.2 hkind] at hempty
  rename_i hrefresh
  split
  · exact iff_of_false (by simp) fun h => absurd h.2.2.2 (by omega)
  · refine iff_of_true rfl ⟨fun h => hnil (Uuid.isNil_iff.2 h), fun h => hjti (by simp [h]), ?_,
      by omega⟩
    cases hkind : claims.kind <;> simp_all

/-- **Which texts are accepted.**  In a time that the leeway does not exceed, a text is accepted as
a token of a kind, with some claims, just if it says these claims and they are acceptable.  No text
is ever accepted both as an access token and as a refresh token. -/
theorem parse_accepts_iff (c : Codec) {now : Timestamp} (hleeway : c.leeway ≤ now.seconds)
    (token : String) (expected : TokenKind) (claims : Claims) :
    (c.parse now token expected = .ok claims ↔
      c.Says token claims ∧ Acceptable c now.seconds expected claims) ∧
    ∀ (sooner later : Timestamp) (asAccess asRefresh : Claims),
      c.parse sooner token .access = .ok asAccess →
        c.parse later token .refresh ≠ .ok asRefresh := by
  constructor
  · rw [parse_eq_ok_iff, verify_eq_ok_iff, validate_eq_ok_iff, check_eq_ok_iff]
    constructor
    · rintro ⟨hsaid, ⟨⟨hnonneg, hto, -⟩, hfrom, hissuer, haudience⟩, rfl, huser, hjti, hsession,
        hlifetime⟩
      exact ⟨hsaid, ⟨hissuer, by simpa using haudience, hfrom⟩, ⟨hnonneg, by omega⟩, hlifetime,
        huser, hjti, rfl, hsession⟩
    · rintro ⟨hsaid, h⟩
      obtain ⟨hnonneg, hto⟩ := h.expires
      refine ⟨hsaid, ⟨⟨hnonneg, by omega, hleeway⟩, h.notBefore, h.issuer, ?_⟩, h.kind, h.user,
        h.jti, h.kind ▸ h.session, h.lifetime⟩
      simpa using h.audience
  · intro sooner later asAccess asRefresh haccess hrefresh
    obtain ⟨hverify, -, hkind, -⟩ := parse_eq_ok_iff.1 haccess
    obtain ⟨hverify', -, hkind', -⟩ := parse_eq_ok_iff.1 hrefresh
    cases hverify.symm.trans hverify'
    cases hkind.symm.trans hkind'

/-- A refresh token in the middle of its lifetime: it is accepted, and never as an access token. -/
theorem parse_accepts_iff_refresh :
    let c : Codec := ⟨octets "secret", 30, 900, 3600⟩
    let claims := claimsAt (.ofSeconds 1699999400) .refresh ⟨7⟩ "" "r" 3600
    let now : Timestamp := .ofSeconds 1700000000
    c.leeway ≤ now.seconds ∧ c.Says (c.encode claims) claims ∧
      c.parse now (c.encode claims) .refresh = .ok claims ∧
        ∀ sooner other, c.parse sooner (c.encode claims) .access ≠ .ok other := by
  intro c claims now
  have hleeway : c.leeway ≤ now.seconds := by decide
  have hsaid : c.Says (c.encode claims) claims :=
    verify_eq_ok_iff.1 (verify_encode c (inRange_claimsAt (by decide) (by decide)))
  obtain ⟨hiff, hone⟩ := parse_accepts_iff c hleeway (c.encode claims) .refresh claims
  have haccepted : c.parse now (c.encode claims) .refresh = .ok claims :=
    hiff.2 ⟨hsaid, ⟨by decide, by decide, by decide⟩, by decide, by decide, by decide, by decide,
      rfl, by decide⟩
  exact ⟨hleeway, hsaid, haccepted, fun sooner other h => hone sooner now other claims h haccepted⟩

/-! ## Expired tokens -/

/-- An objection to times, issuer and audience is a fault of the token, unless it is the expiry that
is checked. -/
theorem validate_eq_error {now : Int} {checkExpiry : Bool} {e : Error}
    (h : c.validate now claims checkExpiry = .error e) :
    (∃ fault, e = .token fault) ∨ e = .tokenExpired ∧ checkExpiry = true := by
  rw [validate] at h
  split at h
  · cases h
    exact .inl ⟨_, rfl⟩
  split at h
  · cases h
    exact .inl ⟨_, rfl⟩
  split at h
  · rename_i hover
    cases h
    exact .inr ⟨rfl, hover.1⟩
  split at h
  · cases h
    exact .inl ⟨_, rfl⟩
  split at h
  · cases h
    exact .inl ⟨_, rfl⟩
  split at h
  · cases h
    exact .inl ⟨_, rfl⟩
  · cases h

/-- A text is refused as expired just if it passes all checks of the second pass but not that of the
expiry. -/
theorem parse_eq_tokenExpired_iff_passes {now : Timestamp} {expected : TokenKind} :
    c.parse now token expected = .error .tokenExpired ↔ ∃ claims, c.verify token = .ok claims ∧
      c.validate now.seconds claims true = .error .tokenExpired ∧
        c.validate now.seconds claims false = .ok () := by
  constructor
  · intro h
    rw [parse] at h
    split at h
    · cases h
    rename_i claims hverify
    split at h
    · rename_i hexpired
      split at h
      · rename_i hobjection
        cases h
        rcases validate_eq_error hobjection with ⟨fault, hfault⟩ | ⟨-, hcheck⟩
        · cases hfault
        · cases hcheck
      · rename_i hrest
        exact ⟨claims, hverify, hexpired, hrest⟩
    · rename_i hne _
      cases h
      exact absurd rfl hne
    · split at h
      · cases h
      split at h <;> cases h
  · rintro ⟨claims, hverify, hexpired, hrest⟩
    simp only [parse, hverify, hexpired, hrest]

/-- A text that is refused has expired, or is at fault. -/
theorem parse_eq_error {now : Timestamp} {expected : TokenKind} {e : Error}
    (h : c.parse now token expected = .error e) :
    e = .tokenExpired ∨ ∃ fault, e = .token fault := by
  rw [parse] at h
  split at h
  · cases h
    exact .inr ⟨_, rfl⟩
  split at h
  · split at h
    · rename_i hobjection
      cases h
      exact (validate_eq_error hobjection).symm.imp And.left id
    · cases h
      exact .inl rfl
  · rename_i hobjection
    cases h
    exact (validate_eq_error hobjection).symm.imp And.left id
  · split at h
    · cases h
      exact .inr ⟨_, rfl⟩
    split at h
    · cases h
      exact .inr ⟨_, rfl⟩
    · cases h

/-- **Which texts are reported as expired.**  Those that say claims which are meant for this service
and whose lifetime is over, whatever kind of token is expected and whatever else the claims are.
Every other refusal is unauthorized. -/
theorem parse_tokenExpired_iff (c : Codec) (now : Timestamp) (token : String)
    (expected : TokenKind) :
    (c.parse now token expected = .error .tokenExpired ↔ ∃ claims,
      c.Says token claims ∧ Addressed c now.seconds claims ∧ Lapsed c now.seconds claims) ∧
    ∀ e, c.parse now token expected = .error e → e ≠ .tokenExpired → e.kind = .unauthorized := by
  constructor
  · rw [parse_eq_tokenExpired_iff_passes]
    refine exists_congr fun claims => ?_
    rw [verify_eq_ok_iff, validate_tokenExpired_iff, validate_unexpiring_iff]
    exact and_congr_right fun _ =>
      ⟨fun h => ⟨h.2, h.1.1⟩, fun h => ⟨⟨h.2, h.1.notBefore.1⟩, h.1⟩⟩
  · intro e h hne
    obtain ⟨fault, rfl⟩ := (parse_eq_error h).resolve_left hne
    rfl

/-- **An expired token may have other defects.**  A refresh token that is presented as an access
token is reported as expired once it is, although it has the wrong kind. -/
theorem not_always_soleDefect :
    let c : Codec := ⟨octets "0123456789abcdef0123456789abcdef", 0, 900, 3600⟩
    let made : Timestamp := .ofSeconds 1699999400
    let now : Timestamp := .ofSeconds 1700000000
    let token := c.encode (claimsAt made .refresh ⟨0x40008000000000000001⟩ "" "r-1" 480)
    c.parse now token .access = .error .tokenExpired ∧
      ¬ ∃ claims, c.Says token claims ∧ Addressed c now.seconds claims ∧ claims.kind = .access ∧
        claims.check = .ok () ∧ claims.expires + c.leeway < now.seconds := by
  intro c made now token
  have hissuable : Issuable ⟨0x40008000000000000001⟩ "r-1" 480 :=
    ⟨by decide, by decide, by decide, by decide⟩
  have hsaid : c.Says token (claimsAt made .refresh ⟨0x40008000000000000001⟩ "" "r-1" 480) :=
    verify_eq_ok_iff.1 (verify_encode c (inRange_claimsAt (by decide) (by decide)))
  constructor
  · rw [parse_encode_claimsAt hissuable rfl (by decide) (by decide) (by decide)]
    exact if_pos (by decide)
  · rintro ⟨claims, h, -, hkind, -⟩
    cases h.unique hsaid
    cases hkind

end Codec
end SessionAuth
