import SessionAuth.Proofs.Token.RoundTrip

/-!
# The life of a token

A token that a codec made is presented to the same codec at some time.  The answer depends on that
time alone, and on whether the token is presented as one of its own kind: `parse_encode_claimsAt`
gives it for all times that the leeway does not exceed, and `parse_issued` sums up what this means
for the tokens that `issueAccess` and `issueRefresh` make.  No text in a token matters, neither the
ids nor the secret, as the token reads back whatever they are.

Clocks count seconds from the epoch on, which is why tokens are taken to be made after it.  The end
of the lifetime has to fit into sixty-four bits.  With a leeway above the present time every token
has expired (see `Codec.validate`).
-/

set_option autoImplicit false

namespace SessionAuth
namespace Codec

variable {c : Codec} {made : Timestamp} {kind expected : TokenKind} {user : UserId}
  {session jti : String} {ttl : Nat}

/-! ## Claims that were just made -/

/-- A lifetime whose end fits into sixty-four bits does so itself. -/
theorem issuable_of_fits (hepoch : 0 ≤ made.seconds) (huser : user.isNil = false)
    (hjti : jti.isEmpty = false) (hpos : 1 ≤ ttl)
    (hfits : made.seconds + ttl ≤ Text.maxInt64) : Issuable user jti ttl :=
  ⟨huser, hjti, hpos, by omega⟩

/-- Issuer and audience are right in all claims that are made, so that only the time decides. -/
theorem validate_claimsAt {now : Int} (hepoch : 0 ≤ made.seconds) (hleeway : c.leeway ≤ now)
    (checkExpiry : Bool) :
    c.validate now (claimsAt made kind user session jti ttl) checkExpiry =
      if checkExpiry ∧ made.seconds + ttl + c.leeway < now then .error .tokenExpired
      else if now < made.seconds - c.leeway then .error (.token .early)
      else .ok () := by
  have hexpires : ¬ made.seconds + (ttl : Int) < 0 := by omega
  have hbefore : ¬ made.seconds < 0 := by omega
  have hcompared : (now < c.leeway ∨ made.seconds + (ttl : Int) < now - c.leeway) ↔
      made.seconds + ttl + c.leeway < now := by omega
  have hearly : now + c.leeway < made.seconds ↔ now < made.seconds - c.leeway := by omega
  simp [validate, claimsAt, hexpires, hbefore, hcompared, hearly]

/-! ## Tokens at a time -/

/-- The answer to a token that was made for one kind and is presented as one of `expected`.  A token
cannot be early and expired at once, so that the order of these two checks does not show. -/
theorem parse_encode_claimsAt {now : Timestamp} (hissuable : Issuable user jti ttl)
    (hsession : session.isEmpty = decide (kind = .refresh)) (hepoch : 0 ≤ made.seconds)
    (hfits : made.seconds + ttl ≤ Text.maxInt64) (hleeway : c.leeway ≤ now.seconds) :
    c.parse now (c.encode (claimsAt made kind user session jti ttl)) expected =
      if made.seconds + ttl + c.leeway < now.seconds then .error .tokenExpired
      else if now.seconds < made.seconds - c.leeway then .error (.token .early)
      else if kind ≠ expected then .error (.token (.wrongKind expected))
      else .ok (claimsAt made kind user session jti ttl) := by
  have hverify : c.verify (c.encode (claimsAt made kind user session jti ttl)) =
      .ok (claimsAt made kind user session jti ttl) :=
    verify_encode c (inRange_claimsAt hepoch hfits)
  simp only [parse, hverify, validate_claimsAt hepoch hleeway, true_and, Bool.false_eq_true,
    false_and, if_false]
  by_cases hexpired : made.seconds + ttl + c.leeway < now.seconds
  · have hnotEarly : ¬ now.seconds < made.seconds - c.leeway := by omega
    simp only [if_pos hexpired, if_neg hnotEarly]
  by_cases hearly : now.seconds < made.seconds - c.leeway
  · simp only [if_neg hexpired, if_pos hearly]
  simp only [if_neg hexpired, if_neg hearly, check_claimsAt hissuable hsession]
  rfl

/-- What becomes of a token in time: it is in force from when it was made until its lifetime ends,
both with the leeway, and never for another kind. -/
structure InForce (c : Codec) (kind : TokenKind) (i : Issued) : Prop where
  accepted : ∀ now : Timestamp, c.leeway ≤ now.seconds →
    i.claims.issuedAt - c.leeway ≤ now.seconds → now.seconds ≤ i.claims.expires + c.leeway →
      c.parse now i.token kind = .ok i.claims
  expired : ∀ now : Timestamp, c.leeway ≤ now.seconds →
    i.claims.expires + c.leeway < now.seconds → c.parse now i.token kind = .error .tokenExpired
  early : ∀ now : Timestamp, c.leeway ≤ now.seconds →
    now.seconds < i.claims.issuedAt - c.leeway →
      ∃ e, c.parse now i.token kind = .error e ∧ e.kind = .unauthorized
  ofKind : ∀ (now : Timestamp) (other : TokenKind) (claims : Claims), other ≠ kind →
    c.parse now i.token other ≠ .ok claims

theorem inForce_claimsAt (hissuable : Issuable user jti ttl)
    (hsession : session.isEmpty = decide (kind = .refresh)) (hepoch : 0 ≤ made.seconds)
    (hfits : made.seconds + ttl ≤ Text.maxInt64) :
    InForce c kind ⟨c.encode (claimsAt made kind user session jti ttl),
      claimsAt made kind user session jti ttl⟩ where
  accepted := by
    intro now hleeway (hfrom : made.seconds - c.leeway ≤ now.seconds)
      (hto : now.seconds ≤ made.seconds + ttl + c.leeway)
    rw [parse_encode_claimsAt hissuable hsession hepoch hfits hleeway, if_neg (by omega),
      if_neg (by omega), if_neg (by simp)]
  expired := by
    intro now hleeway (hexpired : made.seconds + ttl + c.leeway < now.seconds)
    rw [parse_encode_claimsAt hissuable hsession hepoch hfits hleeway, if_pos hexpired]
  early := by
    intro now hleeway (hearly : now.seconds < made.seconds - c.leeway)
    refine ⟨.token .early, ?_, rfl⟩
    rw [parse_encode_claimsAt hissuable hsession hepoch hfits hleeway, if_neg (by omega),
      if_pos hearly]
  ofKind := by
    -- here the leeway may exceed the time, so that the answer is not known, but it is a refusal
    intro now other claims hother hok
    obtain ⟨hverify, -, hkind, -⟩ := parse_eq_ok_iff.1 hok
    rw [verify_encode c (inRange_claimsAt hepoch hfits)] at hverify
    cases hverify
    exact hother hkind.symm

/-- **The life of a token.**  A codec makes a token for every user but the nil one, with any ids
that are not empty and any lifetime from one second on whose end fits into sixty-four bits.  It
accepts the token, with the claims that it was made with, from the leeway before it was made until
the leeway after its lifetime; later the token has expired, and earlier it is refused.  Presented as
one of the other kind it is refused always. -/
theorem parse_issued (c : Codec) {made : Timestamp} {user : UserId} {session jti : String}
    {ttl : Nat} (hepoch : 0 ≤ made.seconds) (huser : user.isNil = false)
    (hjti : jti.isEmpty = false) (hpos : 1 ≤ ttl) (hfits : made.seconds + ttl ≤ Text.maxInt64) :
    (session.isEmpty = false → ∃ i, c.issueAccess made user session jti ttl = .ok i ∧
      i.claims = claimsAt made .access user session jti ttl ∧ InForce c .access i) ∧
    ∃ i, c.issueRefresh made user jti ttl = .ok i ∧
      i.claims = claimsAt made .refresh user "" jti ttl ∧ InForce c .refresh i := by
  have hissuable := issuable_of_fits hepoch huser hjti hpos hfits
  constructor
  · intro hsession
    exact ⟨_, issueAccess_of_issuable hsession hissuable, rfl,
      inForce_claimsAt hissuable hsession hepoch hfits⟩
  · exact ⟨_, issueRefresh_of_issuable hissuable, rfl,
      inForce_claimsAt hissuable rfl hepoch hfits⟩

/-- A codec without a secret, ids that JSON has to escape, and the shortest lifetime. -/
theorem parse_issued_escaped :
    let c : Codec := ⟨[], 30, 900, 3600⟩
    let made : Timestamp := .ofSeconds 1700000000
    let user : UserId := ⟨7⟩
    (∃ i, c.issueAccess made user "\"\\\n" "ж" 1 = .ok i ∧
      i.claims = claimsAt made .access user "\"\\\n" "ж" 1 ∧ InForce c .access i) ∧
    ∃ i, c.issueRefresh made user "ж" 1 = .ok i ∧
      i.claims = claimsAt made .refresh user "" "ж" 1 ∧ InForce c .refresh i := by
  intro c made user
  obtain ⟨haccess, hrefresh⟩ := @parse_issued c made user "\"\\\n" "ж" 1
    (by decide) (by decide) (by decide) (by decide) (by decide)
  exact ⟨haccess (by decide), hrefresh⟩

end Codec
end SessionAuth
