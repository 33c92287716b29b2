import SessionAuth.Proofs.Token.Codec
import SessionAuth.Session.Lifecycle

/-!
# When the lifetimes of a session can be given

A refresh token tells its end in whole seconds, and `Claims.expiresAt` reads it as a point of the
calendar; an end that is out of the calendar's range is read as the earliest time, which is long
over.  So no session is opened with a token that ends out of range (`le_maxSeconds_of_lifetimes`),
and one is with every other token whose lifetime does not vanish when it is counted from a fraction
of a second (`lifetimes_claimsAt`).
-/

set_option autoImplicit false

namespace SessionAuth

/-! ## Points of the calendar -/

namespace Timestamp

/-- A time that is not after another one is not to come. -/
theorem secondsUntil_nonpos {t u : Timestamp} (h : u.nanos ≤ t.nanos) : t.secondsUntil u ≤ 0 := by
  have hback : u.nanos - t.nanos = -(t.nanos - u.nanos) := by omega
  rw [secondsUntil, hback, Int.neg_tdiv]
  exact Int.neg_nonpos_of_nonneg (Int.tdiv_nonneg (by omega) (by decide))

/-- What is left of an interval that is counted in whole seconds is less than a second. -/
theorem secondsUntil_bounds {t u : Timestamp} (h : 0 < t.secondsUntil u) :
    t.nanos + t.secondsUntil u * nanosPerSecond ≤ u.nanos ∧
      u.nanos < t.nanos + t.secondsUntil u * nanosPerSecond + nanosPerSecond := by
  have hto : t.nanos ≤ u.nanos := by
    refine Decidable.of_not_not fun hover => absurd h (Int.not_lt.2 ?_)
    exact secondsUntil_nonpos (Int.le_of_lt (Int.not_le.1 hover))
  rw [secondsUntil, Int.tdiv_eq_ediv_of_nonneg (Int.sub_nonneg_of_le hto)]
  simp only [nanosPerSecond]
  omega

/-- No time after the epoch is before the earliest one. -/
theorem earliest_le {t : Timestamp} (hepoch : 0 ≤ t.seconds) : earliest.nanos ≤ t.nanos := by
  simp only [seconds, nanosPerSecond] at hepoch
  simp only [earliest, ofSeconds, minSeconds, nanosPerSecond]
  omega

theorem minSeconds_le {t : Timestamp} (h : earliest.nanos ≤ t.nanos) : minSeconds ≤ t.seconds :=
  Int.le_ediv_of_mul_le (by decide) h

/-- Two seconds from now, counted in whole seconds, are to come. -/
theorem secondsUntil_pos {t : Timestamp} {ttl : Nat} (h : 2 ≤ ttl) :
    0 < t.secondsUntil (ofSeconds (t.seconds + ttl)) := by
  simp only [secondsUntil, ofSeconds, seconds, nanosPerSecond]
  rw [Int.tdiv_eq_ediv_of_nonneg (by omega)]
  omega

end Timestamp

theorem Claims.expiresAt_of_le {c : Claims} (hmin : Timestamp.minSeconds ≤ c.expires)
    (hmax : c.expires ≤ Timestamp.maxSeconds) : c.expiresAt = .ofSeconds c.expires := by
  rw [expiresAt, Timestamp.ofSeconds?, if_pos ⟨hmin, hmax⟩, Option.getD_some]

theorem Claims.expiresAt_of_lt {c : Claims} (hlate : Timestamp.maxSeconds < c.expires) :
    c.expiresAt = .earliest := by
  rw [expiresAt, Timestamp.ofSeconds?, if_neg fun hrange => absurd hrange.2 (Int.not_le.2 hlate),
    Option.getD_none]

/-! ## Lifetimes -/

namespace Sessions

open Codec (claimsAt)

variable {made : Timestamp} {kind : TokenKind} {user : UserId} {session jti : String}
  {ttl sessionTtl : Nat}

/-- When lifetimes can be given, and which. -/
theorem lifetimes_eq_ok_iff {ttl : Nat} {now jtiExpiresAt expires : Timestamp} {ttls : Ttls} :
    lifetimes ttl now jtiExpiresAt = .ok (ttls, expires) ↔
      ttl ≤ maxTtl ∧ ttls = ⟨ttl, now.secondsUntil jtiExpiresAt⟩ ∧ ttls.isValid ∧
        expires = now.addSeconds ttl := by
  rw [lifetimes]
  by_cases hmax : maxTtl < ttl
  · rw [if_pos hmax]
    exact iff_of_false nofun fun h => absurd h.1 (Nat.not_le.2 hmax)
  rw [if_neg hmax, and_iff_right (Nat.not_lt.1 hmax)]
  dsimp only
  split
  · rename_i hvalid
    rw [Except.ok.injEq, Prod.mk.injEq]
    constructor
    · rintro ⟨rfl, rfl⟩
      exact ⟨rfl, hvalid, rfl⟩
    · rintro ⟨rfl, -, rfl⟩
      exact ⟨rfl, rfl⟩
  · rename_i hvalid
    refine iff_of_false nofun ?_
    rintro ⟨rfl, h, -⟩
    exact hvalid h

/-- The end of a token is in the calendar's range, if a session is written with it. -/
theorem range_of_lifetimes {c : Claims} (hmade : Timestamp.earliest.nanos ≤ made.nanos)
    {t : Ttls × Timestamp} (h : lifetimes sessionTtl made c.expiresAt = .ok t) :
    Timestamp.minSeconds ≤ c.expires ∧ c.expires ≤ Timestamp.maxSeconds := by
  refine Decidable.of_not_not fun hrange => ?_
  have hexpires : c.expiresAt = .earliest := by
    rw [Claims.expiresAt, Timestamp.ofSeconds?, if_neg hrange, Option.getD_none]
  obtain ⟨ttls, expires⟩ := t
  obtain ⟨-, rfl, hvalid, -⟩ := lifetimes_eq_ok_iff.1 h
  have hover : made.secondsUntil .earliest ≤ 0 := Timestamp.secondsUntil_nonpos hmade
  rw [hexpires] at hvalid
  simp [Ttls.isValid, Int.not_lt.2 hover] at hvalid

theorem le_maxSeconds_of_lifetimes (hepoch : 0 ≤ made.seconds) {t : Ttls × Timestamp}
    (h : lifetimes sessionTtl made (claimsAt made kind user session jti ttl).expiresAt = .ok t) :
    made.seconds + ttl ≤ Timestamp.maxSeconds :=
  (range_of_lifetimes (Timestamp.earliest_le hepoch) h).2

/-- The lifetimes of a session whose token ends in range. -/
theorem lifetimes_claimsAt (hepoch : 0 ≤ made.seconds) (hsession : 0 < sessionTtl)
    (hmax : sessionTtl ≤ maxTtl) (httl : 2 ≤ ttl)
    (hrange : made.seconds + ttl ≤ Timestamp.maxSeconds) :
    lifetimes sessionTtl made (claimsAt made kind user session jti ttl).expiresAt =
      .ok (⟨sessionTtl, made.secondsUntil (.ofSeconds (made.seconds + ttl))⟩,
        made.addSeconds sessionTtl) := by
  have hmin : Timestamp.minSeconds ≤ made.seconds + ttl := by
    simp only [Timestamp.minSeconds]
    omega
  have hexpires : (claimsAt made kind user session jti ttl).expiresAt =
    .ofSeconds (made.seconds + ttl) := Claims.expiresAt_of_le hmin hrange
  have hvalid : (⟨sessionTtl, made.secondsUntil (.ofSeconds (made.seconds + ttl))⟩ : Ttls).isValid =
      true := by
    simpa [Ttls.isValid, hsession] using Timestamp.secondsUntil_pos httl
  rw [hexpires, lifetimes, if_neg (by omega)]
  simp only [hvalid, if_true]

end Sessions
end SessionAuth
