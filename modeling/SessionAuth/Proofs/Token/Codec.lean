import SessionAuth.Token.Codec

/-!
# What tokens are made and accepted

A token is made only with a subject, an id and a positive lifetime, and says just what it was made
with; `issue_eq_ok_iff` holds this for tokens of both kinds.  A token is accepted if its signature
verifies and its claims pass all checks, whatever the order of the checks; `parse_eq_ok_iff` says
so.  For a token that was just made this comes down to one question, whether it has expired
(`parse_claimsAt_iff`).
-/

set_option autoImplicit false

namespace SessionAuth
namespace Codec

/-- What a token says that is made at a time. -/
def claimsAt (now : Timestamp) (kind : TokenKind) (user : UserId) (session jti : String)
    (ttl : Nat) : Claims where
  userId := user
  sessionId := session
  kind := kind
  jti := jti
  issuer := issuer
  audiences := [audience]
  issuedAt := now.seconds
  notBefore := now.seconds
  expires := now.seconds + ttl

variable {c : Codec} {now : Timestamp} {kind : TokenKind} {user : UserId} {session jti : String}
  {ttl : Nat} {i : Issued}

/-- Whether a token can be made with these contents. -/
structure Issuable (user : UserId) (jti : String) (ttl : Nat) : Prop where
  user : user.isNil = false
  jti : jti.isEmpty = false
  ttl_pos : 0 < ttl
  ttl_le : (ttl : Int) ≤ Text.maxInt64

theorem issue_eq_ok_iff : c.issue now kind user session jti ttl = .ok i ↔
    Issuable user jti ttl ∧ c.encode i.claims = i.token ∧
      claimsAt now kind user session jti ttl = i.claims := by
  rw [issue]
  split
  · rename_i h
    refine iff_of_false (by simp) ?_
    rintro ⟨hissuable, -⟩
    cases hissuable.user.symm.trans h
  split
  · rename_i h
    refine iff_of_false (by simp) ?_
    rintro ⟨hissuable, -⟩
    cases hissuable.jti.symm.trans h
  split
  · rename_i h
    refine iff_of_false (by simp) ?_
    rintro ⟨⟨-, -, hpos, hle⟩, -⟩
    omega
  · rename_i huser hjti httl
    have hissuable : Issuable user jti ttl :=
      ⟨by simpa using huser, by simpa using hjti, by omega, by omega⟩
    constructor
    · rintro ⟨⟩
      exact ⟨hissuable, rfl, rfl⟩
    · rintro ⟨-, htoken, hclaims⟩
      obtain ⟨token, claims⟩ := i
      dsimp only at htoken hclaims
      rw [← htoken, ← hclaims]
      rfl

theorem issueRefresh_eq_ok_iff : c.issueRefresh now user jti ttl = .ok i ↔
    Issuable user jti ttl ∧ c.encode i.claims = i.token ∧
      claimsAt now .refresh user "" jti ttl = i.claims :=
  issue_eq_ok_iff

theorem issueAccess_eq_ok_iff : c.issueAccess now user session jti ttl = .ok i ↔
    session.isEmpty = false ∧ Issuable user jti ttl ∧ c.encode i.claims = i.token ∧
      claimsAt now .access user session jti ttl = i.claims := by
  rw [issueAccess]
  cases h : session.isEmpty with
  | true => simp
  | false => simpa using issue_eq_ok_iff

theorem issueRefresh_of_issuable (h : Issuable user jti ttl) :
    c.issueRefresh now user jti ttl = .ok ⟨c.encode (claimsAt now .refresh user "" jti ttl),
      claimsAt now .refresh user "" jti ttl⟩ :=
  issueRefresh_eq_ok_iff.2 ⟨h, rfl, rfl⟩

theorem issueAccess_of_issuable (hsession : session.isEmpty = false)
    (h : Issuable user jti ttl) :
    c.issueAccess now user session jti ttl =
      .ok ⟨c.encode (claimsAt now .access user session jti ttl),
        claimsAt now .access user session jti ttl⟩ :=
  issueAccess_eq_ok_iff.2 ⟨hsession, h, rfl, rfl⟩

/-- A token is accepted just if its signature verifies and its claims pass the checks. -/
theorem parse_eq_ok_iff {token : String} {claims : Claims} :
    c.parse now token kind = .ok claims ↔
      c.verify token = .ok claims ∧ c.validate now.seconds claims true = .ok () ∧
        claims.kind = kind ∧ claims.check = .ok () := by
  constructor
  · intro h
    rw [parse] at h
    split at h
    · cases h
    rename_i claims' hverify
    split at h
    · split at h <;> cases h
    · cases h
    rename_i hvalid
    split at h
    · cases h
    rename_i hkind
    split at h
    · cases h
    rename_i hcheck
    cases h
    exact ⟨hverify, hvalid, Decidable.of_not_not hkind, hcheck⟩
  · rintro ⟨hverify, hvalid, rfl, hcheck⟩
    simp [parse, hverify, hvalid, hcheck]

/-- The times at which claims are in force, and for whom. -/
theorem validate_eq_ok_iff {now : Int} {claims : Claims} :
    c.validate now claims true = .ok () ↔
      (0 ≤ claims.expires ∧ now ≤ claims.expires + c.leeway ∧ c.leeway ≤ now) ∧
        (0 ≤ claims.notBefore ∧ claims.notBefore ≤ now + c.leeway) ∧
          claims.issuer = issuer ∧ claims.audiences.contains audience := by
  simp only [validate, true_and, Bool.not_eq_true']
  split
  · exact iff_of_false (by simp) (by omega)
  split
  · exact iff_of_false (by simp) (by omega)
  split
  · exact iff_of_false (by simp) (by omega)
  split
  · exact iff_of_false (by simp) (by omega)
  split
  · simp_all
  split
  · simp_all
  · rename_i hissuer haudience
    simp only [true_iff]
    exact ⟨by omega, by omega, by simpa using hissuer, by simpa using haudience⟩

/-- No token is made that the checks of its contents refuse. -/
theorem check_claimsAt {made : Timestamp} (hissuable : Issuable user jti ttl)
    (hsession : session.isEmpty = decide (kind = .refresh)) :
    (claimsAt made kind user session jti ttl).check = .ok () := by
  have hpos := hissuable.ttl_pos
  have hlt : ¬ made.seconds + (ttl : Int) ≤ made.seconds := by omega
  cases kind <;> simp [claimsAt, Claims.check, hissuable.user, hissuable.jti, hsession, hlt]

/-- A new token passes the checks for as long as its lifetime and the leeway are not over, in a time
that the leeway does not exceed. -/
theorem parse_claimsAt_iff {token : String} {made : Timestamp} {claims : Claims}
    (hverify : c.verify token = .ok (claimsAt made kind user session jti ttl))
    (hissuable : Issuable user jti ttl) (hsession : session.isEmpty = decide (kind = .refresh))
    (hnonneg : 0 ≤ made.seconds) (hmade : made.seconds ≤ now.seconds) :
    c.parse now token kind = .ok claims ↔
      claimsAt made kind user session jti ttl = claims ∧
        now.seconds ≤ claims.expires + c.leeway ∧ c.leeway ≤ now.seconds := by
  have hpos := hissuable.ttl_pos
  have hcheck : (claimsAt made kind user session jti ttl).check = .ok () :=
    check_claimsAt hissuable hsession
  rw [parse_eq_ok_iff, hverify, validate_eq_ok_iff]
  constructor
  · rintro ⟨⟨⟩, ⟨⟨-, hexpires⟩, -⟩, -⟩
    exact ⟨rfl, hexpires⟩
  · rintro ⟨rfl, hexpires⟩
    refine ⟨rfl, ⟨⟨?_, hexpires⟩, ⟨hnonneg, ?_⟩, rfl, ?_⟩, rfl, hcheck⟩
    · show 0 ≤ made.seconds + (ttl : Int)
      omega
    · show made.seconds ≤ now.seconds + c.leeway
      omega
    · simp [claimsAt]

end Codec
end SessionAuth
