import SessionAuth.Proofs.Json.Read
import SessionAuth.Proofs.Json.Record
import SessionAuth.Proofs.Text.Base64
import SessionAuth.Proofs.Token.Codec

/-!
# Tokens read back

A token that a codec made is verified by the same codec with the claims that it was made with,
whatever text the ids in it are (`verify_encode`).  The three parts of a token are texts in Base64,
which have no dots, so that the token is cut where it was joined; and header and claims are JSON
that reads back.

The times of a token have to fit into sixty-four bits, as the reader takes no others.
-/

set_option autoImplicit false

namespace SessionAuth

open Text Crypto

/-! ## Claims -/

namespace Claims

/-- The times of the claims fit into sixty-four bits. -/
structure InRange (c : Claims) : Prop where
  issuedAt : minInt64 ≤ c.issuedAt ∧ c.issuedAt ≤ maxInt64
  notBefore : minInt64 ≤ c.notBefore ∧ c.notBefore ≤ maxInt64
  expires : minInt64 ≤ c.expires ∧ c.expires ≤ maxInt64

/-- The members of the JSON form of claims. -/
def members (c : Claims) : List (String × Json) :=
  [("user_id", c.userId.toJson)] ++
    (if c.sessionId.isEmpty then [] else [("session_id", .str c.sessionId)]) ++
    [("token_type", .str c.kind.name), ("jti", .str c.jti), ("iss", .str c.issuer),
      ("aud", .arr (c.audiences.map .str)), ("iat", .int c.issuedAt), ("nbf", .int c.notBefore),
      ("exp", .int c.expires)]

theorem isPlain_toJson (c : Claims) : c.toJson.isPlain := by
  have haud : Json.itemsPlain (c.audiences.map .str) = true :=
    Json.itemsPlain_map (fun _ => rfl) c.audiences
  rw [toJson]
  split <;> simp [Json.isPlain, Json.membersPlain, haud, Uuid.toJson]

end Claims

namespace Json.Decode

theorem uuid_toJson (u : Uuid) : uuid u.toJson = .ok u := by
  simp only [uuid, text, Uuid.toJson, string, bind, Except.bind, Uuid.ofText?_toText]

theorem tokenKind_name (k : TokenKind) : tokenKind (.str k.name) = .ok k := by
  cases k <;> rfl

theorem int64_of_mem {i : Int} (h : minInt64 ≤ i ∧ i ≤ maxInt64) : int64 (.int i) = .ok i := by
  rw [int64, if_pos h]

/-- The member of the session, which is left out if it is empty. -/
theorem reads_session (c : Claims) :
    Record.Reads (Record.withDefault "session_id" string "") c.members c.sessionId := by
  cases hsession : c.sessionId.isEmpty with
  | true =>
    rw [String.isEmpty_iff.1 hsession]
    refine Record.reads_withDefault_of_none ?_
    rw [Claims.members, hsession]
    rfl
  | false =>
    refine Record.reads_withDefault (v := .str c.sessionId) ?_ rfl
    rw [Claims.members, hsession]
    rfl

/-- Claims are decoded from their JSON form. -/
theorem claims_toJson {c : Claims} (h : c.InRange) : claims c.toJson = .ok c := by
  have required : ∀ {α : Type} {name : String} {d : Decoder α} {v : Json} {a : α},
      c.members.lookup name = some v → d v = .ok a →
      Record.Reads (Record.required name d) c.members a :=
    fun hv hd => Record.reads_required_iff.2 ⟨_, hv, hd⟩
  have hstring : ∀ s : String, string (.str s) = .ok s := fun _ => rfl
  have haud : list string (.arr (c.audiences.map .str)) = .ok c.audiences := items_map hstring _
  show claims (.obj c.members) = .ok c
  refine Record.decode_obj ((((((((((required ?_ (uuid_toJson c.userId)).map Claims.mk).seq
    (reads_session c)).seq (required ?_ (tokenKind_name c.kind))).seq
    (required (v := .str c.jti) ?_ rfl)).seq (required (v := .str c.issuer) ?_ rfl)).seq
    (required ?_ haud)).seq (required ?_ (int64_of_mem h.issuedAt))).seq
    (required ?_ (int64_of_mem h.notBefore))).seq (required ?_ (int64_of_mem h.expires)))
    (by decide) ?keys ?known
  case keys =>
    rw [Claims.members]
    split <;> simp
  case known =>
    rw [Claims.members]
    split
    · show ["user_id", "token_type", "jti", "iss", "aud", "iat", "nbf", "exp"] ⊆ _
      decide
    · show ["user_id", "session_id", "token_type", "jti", "iss", "aud", "iat", "nbf", "exp"] ⊆ _
      decide
  all_goals
    rw [Claims.members]
    split <;> rfl

end Json.Decode

/-! ## Tokens -/

namespace Codec

variable {α : Type}

theorem decodePart_armor (d : Json.Decoder α) {v : Json} (h : v.isPlain) {a : α}
    (ha : d v = .ok a) :
    decodePart d (armor v.compress) = .ok a := by
  rw [decodePart, armor, Base64.decode_encode]
  simp only [Json.decodeOctets_compress d h, ha]

/-- The header of all tokens that are made. -/
def headerJson : Json := .obj [("typ", .str "JWT"), ("alg", .str "HS256")]

theorem compress_headerJson : headerJson.compress = headerText := by decide

theorem header_headerJson : header headerJson = .ok "HS256" := by decide

theorem payload_toJson {c : Claims} (h : c.InRange) : payload c.toJson = .ok c := by
  have hsub : c.members.filter (fun m => m.1 == "sub") = [] := by
    rw [Claims.members]
    split <;> rfl
  have hjson : c.toJson = .obj c.members := rfl
  have hclaims := Json.Decode.claims_toJson h
  rw [hjson] at hclaims ⊢
  simp only [payload, hclaims, bind, Except.bind, hsub]

/-- A text is cut at its last two dots. -/
theorem cut?_append (header : List Char) {payload signature : List Char} (hpayload : '.' ∉ payload)
    (hsignature : '.' ∉ signature) : cut? (header ++ '.' :: payload ++ '.' :: signature) =
      some ⟨header, payload, signature⟩ := by
  rw [cut?, cutLast_append _ hsignature, Option.bind_some]
  simp only [cutLast_append _ hpayload, Option.map_some]

/-- No text in the Base64 of URLs has a dot. -/
theorem dot_not_mem_encode (bs : List UInt8) : '.' ∉ Base64.encode .url bs :=
  Base64.not_mem_encode (by decide) bs

/-- A token is cut where it was joined. -/
theorem cut?_encode (c : Codec) (claims : Claims) :
    let message := armor headerText ++ '.' :: armor claims.toJson.compress
    cut? (c.encode claims).toList = some ⟨armor headerText, armor claims.toJson.compress,
      Base64.encode .url (c.signature message)⟩ := by
  intro message
  rw [encode, String.toList_ofList]
  exact cut?_append _ (dot_not_mem_encode _) (dot_not_mem_encode _)

/-- A token is verified part by part. -/
theorem verify_of_parts {c : Codec} {token : String} {parts : Parts} {claims : Claims}
    (hcut : cut? token.toList = some parts) (hheader : decodePart header parts.header = .ok "HS256")
    (hsignature : Base64.decode .url parts.signature = some (c.signature parts.message))
    (hpayload : decodePart payload parts.payload = .ok claims) : c.verify token = .ok claims := by
  simp [verify, hcut, hheader, hsignature, hpayload, bind, Except.bind]

section InRange

variable {made : Timestamp} {kind : TokenKind} {user : UserId} {session jti : String} {ttl : Nat}

/-- The claims of a token are in range if the time is at which it was made, and the end of its
lifetime. -/
theorem inRange_of_le (hfrom : minInt64 ≤ made.seconds) (hfits : made.seconds + ttl ≤ maxInt64) :
    (claimsAt made kind user session jti ttl).InRange := by
  have hto : made.seconds ≤ maxInt64 := by omega
  have hexpires : minInt64 ≤ made.seconds + (ttl : Int) := by omega
  exact ⟨⟨hfrom, hto⟩, ⟨hfrom, hto⟩, ⟨hexpires, hfits⟩⟩

/-- So it is for a token that was made after the epoch. -/
theorem inRange_claimsAt (hepoch : 0 ≤ made.seconds) (hfits : made.seconds + ttl ≤ maxInt64) :
    (claimsAt made kind user session jti ttl).InRange :=
  inRange_of_le (Int.le_trans (by decide) hepoch) hfits

end InRange

/-- **A token reads back.**  The codec that made a token verifies it, with the same claims. -/
theorem verify_encode (c : Codec) {claims : Claims} (h : claims.InRange) :
    c.verify (c.encode claims) = .ok claims := by
  have hheader : decodePart header (armor headerText) = .ok "HS256" := by
    rw [← compress_headerJson]
    exact decodePart_armor header rfl header_headerJson
  have hpayload := decodePart_armor payload claims.isPlain_toJson (payload_toJson h)
  exact verify_of_parts (cut?_encode c claims) hheader (Base64.decode_encode _ _) hpayload

end Codec
end SessionAuth
